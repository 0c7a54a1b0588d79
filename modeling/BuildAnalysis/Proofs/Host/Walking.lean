import BuildAnalysis.Host.FileTree

/-!
# Following paths

A path is followed from a place by its names, one directory after the other. Where it leads to does
not depend on anything but the directories on the way: files that are added to the tree, or put in
place of others, change nothing about it.

* `walk_eq_ok`: what a path leads to.
* `Reaches.append`: a path is followed as far as a directory, and on from there.
* `Reaches.mono`: more directories lead to the same places.
-/

namespace BuildAnalysis.Host.FileTree

variable {tree : FileTree} {place next last : Place} {path name : String}

/-! ## Entries -/

@[simp] theorem get?_nil (tree : FileTree) : tree.get? [] = some .directory := rfl

theorem get?_of_ne_nil (tree : FileTree) (h : place ≠ []) :
    tree.get? place = (tree.entries.find? (·.1 == place)).map (·.2) := by
  rw [get?, if_neg (by simp [h])]

/-- In a list of keys with their values, one key is given a value: it has that value, and every other
key keeps what it has. -/
theorem find?_replace {κ ν : Type} [BEq κ] [LawfulBEq κ] [DecidableEq κ] (entries : List (κ × ν))
    (key : κ) (value : ν) (other : κ) :
    ((entries.filter (·.1 != key) ++ [(key, value)]).find? (·.1 == other)).map (·.2) =
      if other = key then some value else (entries.find? (·.1 == other)).map (·.2) := by
  induction entries with
  | nil =>
    by_cases h : other = key
    · simp [h]
    · simp [h, Ne.symm h]
  | cons entry rest ih =>
    by_cases hkey : entry.1 = key
    · -- the entry goes, and it is none of another key
      rw [List.filter_cons_of_neg (by simp [hkey]), ih]
      by_cases h : other = key
      · rw [if_pos h, if_pos h]
      · have hother : (entry.1 == other) = false := by simp [hkey, Ne.symm h]
        rw [List.find?_cons, hother]
    · rw [List.filter_cons_of_pos (by simp [hkey]), List.cons_append, List.find?_cons,
        List.find?_cons]
      by_cases hother : entry.1 = other
      · have hne : other ≠ key := fun h => hkey (hother.trans h)
        simp [hother, hne]
      · have hfalse : (entry.1 == other) = false := by simp [hother]
        rw [hfalse]
        exact ih

/-- An entry is put at its place, and every other place keeps what it has. -/
theorem get?_put (tree : FileTree) (entry : Entry) (hplace : place ≠ []) (other : Place) :
    (tree.put place entry).get? other =
      if other = place then some entry else tree.get? other := by
  by_cases hother : other = []
  · subst hother
    simp [hplace.symm]
  · rw [get?_of_ne_nil _ hother, get?_of_ne_nil _ hother, put]
    exact find?_replace tree.entries place entry other

/-! ## Names -/

/-- The place that a name leads to from a directory, if the name is not too long. -/
def descend (place : Place) (name : String) : Option Place :=
  if name == "" || name == "." then some place
  else if name == ".." then some place.dropLast
  else if maxNameSize < name.utf8ByteSize then none
  else some (place ++ [name])

theorem descend_empty (place : Place) : descend place "" = some place := rfl

/-- A step leads from a directory, and to where its name does. -/
theorem step_eq_ok :
    tree.step path place name = .ok next ↔
      tree.get? place = some .directory ∧ descend place name = some next := by
  rw [step, descend]
  cases tree.get? place with
  | none => simp
  | some entry =>
    cases entry with
    | file content executable => simp
    | directory =>
      simp only [true_and]
      split
      · simp
      · split
        · simp
        · split
          · simp
          · simp

/-- Whether names lead from a place to another one, through directories. -/
inductive Reaches (tree : FileTree) : Place → List String → Place → Prop
  | nil {place : Place} : Reaches tree place [] place
  | cons {place next last : Place} {name : String} {rest : List String}
      (hplace : tree.get? place = some .directory) (hname : descend place name = some next)
      (hrest : Reaches tree next rest last) : Reaches tree place (name :: rest) last

/-- Names lead to what is there, if they lead to anything. -/
theorem walk_eq_ok {names : List String} :
    tree.walk path place names = .ok last ↔
      Reaches tree place names last ∧ (tree.get? last).isSome = true := by
  induction names generalizing place with
  | nil =>
    rw [walk]
    constructor
    · intro h
      split at h
      · rename_i hsome
        cases h
        exact ⟨.nil, hsome⟩
      · cases h
    · rintro ⟨hreach, hsome⟩
      cases hreach
      rw [if_pos hsome]
  | cons name rest ih =>
    rw [walk]
    constructor
    · intro h
      cases hstep : tree.step path place name with
      | error e =>
        rw [hstep] at h
        cases h
      | ok next =>
        rw [hstep] at h
        obtain ⟨hplace, hname⟩ := step_eq_ok.1 hstep
        obtain ⟨hreach, hsome⟩ := ih.1 h
        exact ⟨.cons hplace hname hreach, hsome⟩
    · rintro ⟨hreach, hsome⟩
      cases hreach with
      | cons hplace hname hrest =>
        rw [step_eq_ok.2 ⟨hplace, hname⟩]
        exact ih.2 ⟨hrest, hsome⟩

namespace Reaches

variable {names others : List String} {middle : Place}

theorem append (h : Reaches tree place names middle) (h' : Reaches tree middle others last) :
    Reaches tree place (names ++ others) last := by
  induction h with
  | nil => exact h'
  | cons hplace hname _ ih => exact .cons hplace hname (ih h')

/-- Names lead to one place only. -/
theorem unique (h : Reaches tree place names next) (h' : Reaches tree place names last) :
    next = last := by
  induction h with
  | nil =>
    cases h'
    rfl
  | cons _ hname _ ih =>
    cases h' with
    | cons _ hname' hrest' =>
      rw [hname] at hname'
      cases hname'
      exact ih hrest'

/-- Where there is a directory there is one in every tree that keeps the directories. -/
theorem mono {after : FileTree} (h : Reaches tree place names last)
    (hkeep : ∀ p, tree.get? p = some .directory → after.get? p = some .directory) :
    Reaches after place names last := by
  induction h with
  | nil => exact .nil
  | cons hplace hname _ ih => exact .cons (hkeep _ hplace) hname ih

/-- An empty name at the end leads to where the names before it do. -/
theorem of_append_empty (h : Reaches tree place (names ++ [""]) last) :
    Reaches tree place names last := by
  generalize hall : names ++ [""] = all at h
  induction h generalizing names with
  | nil => simp at hall
  | cons hplace hname hrest ih =>
    cases names with
    | nil =>
      simp only [List.nil_append, List.cons.injEq] at hall
      obtain ⟨rfl, rfl⟩ := hall
      rw [descend_empty] at hname
      cases hname
      exact hrest
    | cons first rest =>
      simp only [List.cons_append, List.cons.injEq] at hall
      obtain ⟨rfl, hall⟩ := hall
      exact .cons hplace hname (ih hall)

end Reaches

/-- A path leads to a directory exactly if it may be asked for and its names lead there. -/
theorem isDirectory_iff {directory : Place} :
    tree.isDirectory directory path = true ↔
      ∃ place, tree.locate directory path = .ok place ∧ tree.get? place = some .directory := by
  rw [isDirectory, find?]
  cases tree.locate directory path with
  | error e => simp
  | ok place =>
    simp only [Except.ok.injEq, exists_eq_left']
    cases tree.get? place with
    | none => simp
    | some entry =>
      cases entry with
      | directory => simp
      | file content executable => simp

/-- What a path leads to, name by name. -/
theorem locate_eq_ok {directory : Place} :
    tree.locate directory path = .ok last ↔
      checkPath path = .ok () ∧ Reaches tree (start directory path) (Path.names path) last ∧
        (tree.get? last).isSome = true := by
  rw [locate]
  cases hcheck : checkPath path with
  | error e => simp [bind, Except.bind]
  | ok u =>
    rw [← walk_eq_ok]
    exact ⟨fun h => ⟨rfl, h⟩, fun h => h.2⟩

end BuildAnalysis.Host.FileTree
