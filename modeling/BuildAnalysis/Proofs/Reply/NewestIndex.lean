import BuildAnalysis.Reply.File
import BuildAnalysis.Reply.Index
import Mathlib.Data.String.Basic

/-!
# The newest index

Of the names that begin and end like that of an index the greatest one is read. The order of names is
that of their characters. The version of the CMake that wrote it is told by its members.

* `readIndex_eq_ok`: which index is read.
* `version_eq_ok`: where an index tells the version.
-/

namespace BuildAnalysis.Reply

/-- The greatest of some names and one more is one of them, and none of them is greater. -/
theorem foldl_greatest (names : List String) (name : String) :
    names.foldl (fun best name => if best < name then name else best) name ∈ name :: names ∧
      ∀ other ∈ name :: names,
        other ≤ names.foldl (fun best name => if best < name then name else best) name := by
  induction names generalizing name with
  | nil => simp
  | cons next rest ih =>
    rw [List.foldl_cons]
    obtain ⟨hmem, hle⟩ := ih (if name < next then next else name)
    have hfirst := hle _ List.mem_cons_self
    -- the greater of the first two stands for both of them
    by_cases h : name < next
    · rw [if_pos h] at hmem hle hfirst ⊢
      refine ⟨List.mem_cons_of_mem _ hmem, fun other hother => ?_⟩
      rcases List.mem_cons.1 hother with rfl | hother
      · exact h.le.trans hfirst
      · exact hle other hother
    · rw [if_neg h] at hmem hle hfirst ⊢
      constructor
      · rcases List.mem_cons.1 hmem with hmem | hmem
        · rw [hmem]
          exact List.mem_cons_self
        · exact List.mem_cons_of_mem _ (List.mem_cons_of_mem _ hmem)
      · intro other hother
        rcases List.mem_cons.1 hother with rfl | hother
        · exact hfirst
        rcases List.mem_cons.1 hother with rfl | hother
        · exact (not_lt.1 h).trans hfirst
        · exact hle other (List.mem_cons_of_mem _ hother)

theorem greatest?_eq_some {names : List String} {name : String} :
    greatest? names = some name ↔ name ∈ names ∧ ∀ other ∈ names, other ≤ name := by
  cases names with
  | nil => simp [greatest?]
  | cons first rest =>
    obtain ⟨hmem, hle⟩ := foldl_greatest rest first
    rw [greatest?, Option.some.injEq]
    constructor
    · rintro rfl
      exact ⟨hmem, hle⟩
    · -- two names of which neither is greater are the same
      rintro ⟨hname, hgreatest⟩
      exact le_antisymm (hgreatest _ hmem) (hle name hname)

/-- Whether a name is that of the newest index in a directory. -/
def IsNewestIndex (host : Host) (replies name : String) : Prop :=
  (name ∈ host.list replies ∧ isIndexName name = true) ∧
    ∀ other ∈ host.list replies, isIndexName other = true → other ≤ name

/-- Whether a value is that of the newest index of a host. -/
def IsIndexOf (host : Host) (api : String) (index : Json) : Prop :=
  host.isDirectory (directory api) = true ∧ ∃ name, IsNewestIndex host (directory api) name ∧
    load host (Path.join (directory api) name) = .ok index

/-- The newest index is the one that is looked for. -/
theorem greatest?_eq_newest {host : Host} {replies name : String} :
    greatest? ((host.list replies).filter isIndexName) = some name ↔
      IsNewestIndex host replies name := by
  rw [greatest?_eq_some, IsNewestIndex]
  simp only [List.mem_filter, and_imp]

/-- Reading the index gives the value of the newest one. -/
theorem readIndex_eq_ok {host : Host} {api : String} {index : Json} :
    readIndex host api = .ok index ↔ IsIndexOf host api index := by
  simp only [readIndex, IsIndexOf]
  cases hdirectory : host.isDirectory (directory api) with
  | false => simp
  | true =>
    simp only [Bool.not_true, Bool.false_eq_true, if_false, true_and, ← greatest?_eq_newest]
    cases greatest? ((host.list (directory api)).filter isIndexName) with
    | none => simp
    | some name => simp

/-! ## Its version -/

/-- Whether a value has a member `version` with a text as its member `string`. -/
def HasVersion (owner : Json) (text : String) : Prop :=
  ∃ version, owner.find "version" = some version ∧ version.find "string" = some (.string text)

/-- Whether an index tells the version of the CMake that wrote it: the index itself has it or, if it
has none, its member `cmake`. -/
inductive TellsVersion (index : Json) (text : String) : Prop
  | own (h : HasVersion index text)
  | member {cmake : Json} (hnone : ∀ other, ¬ HasVersion index other)
    (hcmake : index.find "cmake" = some cmake) (h : HasVersion cmake text)

theorem versionOf?_eq_some {owner : Json} {text : String} :
    versionOf? owner = some text ↔ HasVersion owner text := by
  have hstring (value : Json) : value.string? = some text ↔ value = .string text := by
    cases value <;> simp [Json.string?]
  simp [versionOf?, HasVersion, Option.bind_eq_some_iff, hstring]

/-- The version of an index is the one that its members tell. -/
theorem version_eq_ok {index : Json} {text : String} :
    version index = .ok text ↔ TellsVersion index text := by
  have hversion : version index = .ok text ↔
      (versionOf? index).or ((index.find "cmake").bind versionOf?) = some text := by
    rw [version]
    split
    · rename_i other hother
      rw [hother, Except.ok.injEq, Option.some.injEq]
    · rename_i hnone
      simp [hnone]
  rw [hversion, Option.or_eq_some_iff, Option.bind_eq_some_iff]
  simp only [Option.eq_none_iff_forall_ne_some, ne_eq, versionOf?_eq_some]
  constructor
  · rintro (h | ⟨hnone, cmake, hcmake, h⟩)
    · exact .own h
    · exact .member hnone hcmake h
  · intro h
    cases h with
    | own h => exact .inl h
    | member hnone hcmake h => exact .inr ⟨hnone, _, hcmake, h⟩

end BuildAnalysis.Reply
