import BuildAnalysis.Analysis.PlainNames
import BuildAnalysis.Proofs.Analysis.ReportNames
import Mathlib.Data.List.Find

/-!
# The number to try next is a shortcut

The names of the reports are those of the plain way, in which the numbers of each source are tried
from the first one on. What makes the search for a number begin later is only a shortcut: all numbers
before the one that is remembered for a name are taken. A number that is remembered was taken when it
was found or skipped, and what was taken once stays taken, whichever source it was taken for.

* `remembers_allocate`: one more source keeps what is remembered sound.
* `number_isFirstFree`: the search ends at the first number that is free.
* `allocateAll_isPlain`: the names of sources are those of the plain way.
-/

namespace BuildAnalysis.Analysis.ReportNames

variable {names : ReportNames} {source : String}

/-! ## The number of a source -/

/-- The key under which the number to try next is remembered for a source. -/
def keyOf (source : String) : String :=
  Text.lower (Path.basename source)

/-- The number that a source gets. -/
def number (names : ReportNames) (source : String) : Nat :=
  firstFree names.used (Path.basename source) (names.used.length + 1) (names.start (keyOf source))

theorem report_allocate (names : ReportNames) (source : String) :
    (names.allocate source).1 = numbered (Path.basename source) (names.number source) := rfl

/-- The name that is given out is in use from then on. -/
theorem used_allocate (names : ReportNames) (source : String) :
    (names.allocate source).2.used =
      Text.lower (numbered (Path.basename source) (names.number source)) :: names.used := rfl

theorem number_endsAt (names : ReportNames) (source : String) :
    EndsAt names.used (Path.basename source) (names.start (keyOf source)) (names.number source) :=
  firstFree_endsAt _ _ _

/-- The number after the one that was given out is remembered. -/
theorem start_allocate_self (names : ReportNames) (source : String) :
    (names.allocate source).2.start (keyOf source) = names.number source + 1 := by
  have hfind : (names.allocate source).2.next.find? (·.1 == keyOf source) =
      some (keyOf source, names.number source + 1) :=
    List.find?_cons_of_pos (beq_self_eq_true _)
  rw [start, hfind, Option.map_some, Option.getD_some]

/-- Under every other key the same number is remembered as before. -/
theorem start_allocate_of_ne {key : String} (h : key ≠ keyOf source) (names : ReportNames) :
    (names.allocate source).2.start key = names.start key := by
  have hne : ¬ ((keyOf source == key) = true) := by simpa using h.symm
  have hcons : (names.allocate source).2.next.find? (·.1 == key) =
      (names.next.filter (·.1 != keyOf source)).find? (·.1 == key) :=
    List.find?_cons_of_neg hne
  have hkept : (names.next.filter (·.1 != keyOf source)).find? (·.1 == key) =
      names.next.find? (·.1 == key) := by
    rw [List.find?_filter]
    refine List.find?_congr fun entry _ => ?_
    by_cases hentry : entry.1 = key
    · simp [hentry, h]
    · simp [hentry]
  rw [start, start, hcons, hkept]

/-! ## What is remembered -/

/-- Whether all numbers are taken that are less than the one to try next, under every key. -/
def Remembers (names : ReportNames) : Prop :=
  ∀ key, ∀ m < names.start key, numbered key m ∈ names.used

theorem remembers_empty : Remembers {} := by
  intro key m hm
  exact absurd hm (Nat.not_lt_zero m)

/-- One more source keeps what is remembered sound. -/
theorem remembers_allocate (h : names.Remembers) (source : String) :
    (names.allocate source).2.Remembers := by
  intro key m hm
  rw [used_allocate, lower_numbered]
  by_cases hkey : key = keyOf source
  · subst hkey
    rw [start_allocate_self] at hm
    -- the number itself, a number that the search has passed, or one that was remembered before
    rcases Nat.lt_succ_iff_lt_or_eq.1 hm with hlt | rfl
    · refine List.mem_cons_of_mem _ ?_
      by_cases hstart : m < names.start (keyOf source)
      · exact h _ m hstart
      · have htaken := (names.number_endsAt source).taken m (Nat.le_of_not_lt hstart) hlt
        rwa [lower_numbered] at htaken
    · exact List.mem_cons_self
  · rw [start_allocate_of_ne hkey] at hm
    exact List.mem_cons_of_mem _ (h key m hm)

theorem remembers_afterAll (h : names.Remembers) (sources : List String) :
    (names.afterAll sources).Remembers := by
  induction sources generalizing names with
  | nil => exact h
  | cons source rest ih => exact ih (remembers_allocate h source)

/-- The search ends at the first number that is free: those that it leaves out are taken. -/
theorem number_isFirstFree (h : names.Remembers) (source : String) :
    IsFirstFree names.used (Path.basename source) (names.number source) := by
  have hends := names.number_endsAt source
  refine ⟨hends.free, fun m hm => ?_⟩
  by_cases hstart : m < names.start (keyOf source)
  · rw [lower_numbered]
    exact h _ m hstart
  · exact hends.taken m (Nat.le_of_not_lt hstart) hm

/-! ## The plain way -/

/-- The plain way leaves no choice, and what is remembered does not lead away from it. -/
theorem plainlyNamed_iff (h : names.Remembers) {sources reports : List String} :
    PlainlyNamed names.used sources reports ↔ reports = names.allocateAll sources := by
  induction sources generalizing names reports with
  | nil =>
    cases reports with
    | nil => simp [PlainlyNamed, allocateAll]
    | cons report rest => simp [PlainlyNamed, allocateAll]
  | cons source rest ih =>
    cases reports with
    | nil => simp [PlainlyNamed, allocateAll_cons]
    | cons report others =>
      have hfirst := number_isFirstFree h source
      have hrest : PlainlyNamed (names.allocate source).2.used rest others ↔
          others = (names.allocate source).2.allocateAll rest := ih (remembers_allocate h source)
      rw [used_allocate] at hrest
      rw [PlainlyNamed, allocateAll_cons, List.cons.injEq, report_allocate]
      constructor
      · rintro ⟨⟨n, rfl, hn⟩, hothers⟩
        rw [hn.unique hfirst] at hothers ⊢
        exact ⟨rfl, hrest.1 hothers⟩
      · rintro ⟨rfl, hothers⟩
        exact ⟨⟨_, rfl, hfirst⟩, hrest.2 hothers⟩

/-- The names in lower case that are given out for the first sources of several. -/
def usedBefore (sources : List String) (k : Nat) : List String :=
  ((({} : ReportNames).allocateAll sources).take k).map Text.lower

/-- What is known of the names of sources, beside the plain way of naming them. -/
structure IsPlain (sources : List String) : Prop where
  /-- The names that are given out are those of the plain way, and there are no others. -/
  plain : ∀ reports, PlainlyNamed [] sources reports ↔
    reports = ({} : ReportNames).allocateAll sources
  /-- Each source gets the first number that is free among the names given out before. The number at
  which the search begins leaves out numbers that are taken, and no others. -/
  first : ∀ k source, sources[k]? = some source →
    ∃ n, (({} : ReportNames).allocateAll sources)[k]? =
        some (numbered (Path.basename source) n) ∧
      IsFirstFree (usedBefore sources k) (Path.basename source) n ∧
      ∀ m < startAfter (sources.take k) source,
        Text.lower (numbered (Path.basename source) m) ∈ usedBefore sources k
  /-- A source whose name was not given out before, in any case of its letters, gets no number. -/
  unnumbered : ∀ k source, sources[k]? = some source →
    Text.lower (Path.basename source) ∉ usedBefore sources k →
    (({} : ReportNames).allocateAll sources)[k]? = some (Path.basename source)

/-- The names of the first sources are in use when the next one gets its name. -/
theorem mem_usedBefore {sources : List String} {k : Nat} (hk : k ≤ sources.length) {name : String} :
    name ∈ usedBefore sources k ↔
      name ∈ (({} : ReportNames).afterAll (sources.take k)).used := by
  have hlength : (({} : ReportNames).allocateAll (sources.take k)).length = k := by
    rw [length_allocateAll, List.length_take, Nat.min_eq_left hk]
  have htake : (({} : ReportNames).allocateAll sources).take k =
      ({} : ReportNames).allocateAll (sources.take k) := by
    have happend := ({} : ReportNames).allocateAll_append (sources.take k) (sources.drop k)
    rw [List.take_append_drop] at happend
    rw [happend, List.take_left' hlength]
  rw [usedBefore, htake, used_afterAll, List.append_nil, List.mem_reverse]

/-- The name of a source is the one that it gets after those that come before it. -/
theorem getElem?_allocateAll {sources : List String} {k : Nat} {source : String}
    (h : sources[k]? = some source) :
    (({} : ReportNames).allocateAll sources)[k]? =
      some ((({} : ReportNames).afterAll (sources.take k)).allocate source).1 := by
  obtain ⟨hlt, hget⟩ := List.getElem?_eq_some_iff.1 h
  have hsources : sources = sources.take k ++ source :: sources.drop (k + 1) := by
    rw [← hget, List.getElem_cons_drop, List.take_append_drop]
  have hlength : (({} : ReportNames).allocateAll (sources.take k)).length = k := by
    rw [length_allocateAll, List.length_take, Nat.min_eq_left (Nat.le_of_lt hlt)]
  have happend := ({} : ReportNames).allocateAll_append (sources.take k)
    (source :: sources.drop (k + 1))
  rw [← hsources, allocateAll_cons] at happend
  rw [happend, List.getElem?_append_right (Nat.le_of_eq hlength), hlength, Nat.sub_self,
    List.getElem?_cons_zero]

/-- The names of sources are those of the plain way, in which each of them gets the first number that
is free. -/
theorem allocateAll_isPlain (sources : List String) : IsPlain sources where
  plain _ := plainlyNamed_iff remembers_empty
  first k source h := by
    have hk := Nat.le_of_lt (List.getElem?_eq_some_iff.1 h).1
    have hremembers := remembers_afterAll remembers_empty (sources.take k)
    have hfirst := number_isFirstFree hremembers source
    refine ⟨_, getElem?_allocateAll h, ?_, fun m hm => ?_⟩
    · exact ⟨fun hmem => hfirst.1 ((mem_usedBefore hk).1 hmem),
        fun m hm => (mem_usedBefore hk).2 (hfirst.2 m hm)⟩
    · rw [mem_usedBefore hk, lower_numbered]
      exact hremembers _ m hm
  unnumbered k source h hunused := by
    have hk := Nat.le_of_lt (List.getElem?_eq_some_iff.1 h).1
    have hfirst := number_isFirstFree (remembers_afterAll remembers_empty (sources.take k)) source
    have hzero : IsFirstFree (({} : ReportNames).afterAll (sources.take k)).used
        (Path.basename source) 0 :=
      ⟨fun hmem => hunused ((mem_usedBefore hk).2 hmem), fun m hm => absurd hm (Nat.not_lt_zero m)⟩
    rw [getElem?_allocateAll h, report_allocate, hfirst.unique hzero]
    rfl

/-- A name that a number made before is passed over, in whatever case it was made. -/
example : ({} : ReportNames).allocateAll ["/a/foo.c", "/b/foo.c", "/c/FOO.C-1", "/d/Foo.c"] =
    ["foo.c", "foo.c-1", "FOO.C-1-1", "Foo.c-2"] := by
  decide +kernel

end BuildAnalysis.Analysis.ReportNames
