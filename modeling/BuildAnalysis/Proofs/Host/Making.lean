import BuildAnalysis.Path.Normal
import BuildAnalysis.Proofs.Answers
import BuildAnalysis.Proofs.Host.Walking
import BuildAnalysis.Proofs.Path.Joining

/-!
# Making directories and writing files

Making the directories of a path puts directories where nothing was, and nothing else; if it is not
refused, the path leads to a directory afterwards. Writing a file puts it at one place. Both are told
by the entries of the places, of which all others stay as they were.

* `makeNames_cons`: what one name leads to.
* `makeNames_get?`: which places may change.
* `makeNames_of_reaches`: the directories that are there are passed through.
* `reaches_of_makeNames`, `checkPath_of_makeNames`: what has to be the case when names were made.
* `write_eq_ok`: where a file is written.
-/

namespace BuildAnalysis.Host.FileTree

variable {tree after : FileTree} {place next last : Place} {path name : String}

/-- The places that names lead to from a place, one after the other. -/
def visits (place : Place) : List String → List Place
  | [] => []
  | name :: rest =>
    match descend place name with
    | none => []
    | some next => next :: visits next rest

/-- A step that is made after its path was checked leads from a directory to where its name does. -/
theorem step_of_checked (h : (checkPath path *> tree.step path place name) = .ok next) :
    tree.get? place = some .directory ∧ descend place name = some next := by
  cases hcheck : checkPath path with
  | error e =>
    rw [hcheck] at h
    cases h
  | ok u =>
    rw [hcheck] at h
    exact step_eq_ok.1 h

/-- What making the first of some names leads to: a refusal that changes nothing, or the making of
the others, which goes on from the place that the name leads to. -/
inductive FirstMade (tree : FileTree) (place : Place) (name : String) (rest : List String) :
    Option SystemError × FileTree → Prop
  | refused (e : SystemError) : FirstMade tree place name rest (some e, tree)
  | skipped (path : String) (hname : name = "") :
    FirstMade tree place name rest (tree.makeNames place path rest)
  | passed (next : Place) (path : String) (hplace : tree.get? place = some .directory)
    (hnext : descend place name = some next)
    (hthere : tree.get? next = some .directory ∨
      ((tree.get? next).isSome = true ∧ rest.countP (· != "") ≠ 0)) :
    FirstMade tree place name rest (tree.makeNames next path rest)
  | made (next : Place) (path : String) (hplace : tree.get? place = some .directory)
    (hnext : descend place name = some next) (hempty : tree.get? next = none) :
    FirstMade tree place name rest ((tree.put next .directory).makeNames next path rest)

/-- Names are made one after the other. -/
theorem makeNames_cons (tree : FileTree) (place : Place) (path name : String)
    (rest : List String) :
    FirstMade tree place name rest (tree.makeNames place path (name :: rest)) := by
  by_cases hname : name = ""
  · subst hname
    rw [makeNames]
    exact .skipped _ rfl
  -- the name is not empty, so that a step is made
  rw [makeNames]
  · split
    · exact .refused _
    rename_i next hstep
    obtain ⟨hplace, hnext⟩ := step_of_checked hstep
    split
    · rename_i hdirectory
      exact .passed next _ hplace hnext (Or.inl hdirectory)
    · rename_i hfile
      split
      · exact .refused _
      · rename_i hbelow
        exact .passed next _ hplace hnext (Or.inr ⟨by rw [hfile]; rfl, by simpa using hbelow⟩)
    · rename_i hempty
      split
      · exact .refused _
      · exact .made next _ hplace hnext hempty
  · exact fun h => hname h

theorem ne_nil_of_get? (h : tree.get? place = none) : place ≠ [] := by
  rintro rfl
  rw [get?_nil] at h
  cases h

/-- Where names are made, only places that they lead to change, and only from nothing to a
directory. -/
theorem makeNames_get? (tree : FileTree) (place : Place) (path : String) (names : List String)
    (other : Place) :
    (tree.makeNames place path names).2.get? other = tree.get? other ∨
      (tree.get? other = none ∧ (tree.makeNames place path names).2.get? other =
        some .directory ∧ other ∈ visits place names) := by
  induction names generalizing tree place path with
  | nil => exact Or.inl rfl
  | cons name rest ih =>
    have hfirst := makeNames_cons tree place path name rest
    -- what is visited later is visited
    have hvisits {next : Place} (hnext : descend place name = some next) :
        visits place (name :: rest) = next :: visits next rest := by
      rw [visits, hnext]
    generalize tree.makeNames place path (name :: rest) = result at hfirst ⊢
    cases hfirst with
    | refused e => exact Or.inl rfl
    | skipped path hname =>
      subst hname
      rw [hvisits (descend_empty place)]
      exact (ih tree place path).imp_right fun ⟨hnone, hdir, hmem⟩ =>
        ⟨hnone, hdir, List.mem_cons_of_mem _ hmem⟩
    | passed next path _ hnext _ =>
      rw [hvisits hnext]
      exact (ih tree next path).imp_right fun ⟨hnone, hdir, hmem⟩ =>
        ⟨hnone, hdir, List.mem_cons_of_mem _ hmem⟩
    | made next path _ hnext hempty =>
      rw [hvisits hnext]
      have hput := get?_put tree .directory (ne_nil_of_get? hempty) other
      by_cases hother : other = next
      · -- the directory that was just made stays
        subst hother
        rw [if_pos rfl] at hput
        rcases ih (tree.put other .directory) other path with h | ⟨hnone, -, -⟩
        · exact Or.inr ⟨hempty, h.trans hput, List.mem_cons_self⟩
        · rw [hput] at hnone
          cases hnone
      · rw [if_neg hother] at hput
        rw [← hput]
        exact (ih (tree.put next .directory) next path).imp_right fun ⟨hnone, hdir, hmem⟩ =>
          ⟨hnone, hdir, List.mem_cons_of_mem _ hmem⟩

/-- What is there stays there when names are made. -/
theorem makeNames_keeps (place : Place) (path : String) (names : List String) {other : Place}
    {entry : Entry} (h : tree.get? other = some entry) :
    (tree.makeNames place path names).2.get? other = some entry := by
  rcases makeNames_get? tree place path names other with hsame | ⟨hnone, -, -⟩
  · rw [hsame, h]
  · rw [h] at hnone
    cases hnone

theorem makePath_keeps (directory : Place) (path : String) {other : Place} {entry : Entry}
    (h : tree.get? other = some entry) :
    (tree.makePath directory path).2.get? other = some entry :=
  makeNames_keeps _ _ _ h

/-- From a place without a directory no name can be made. -/
theorem makeNames_of_not_directory (path : String) {names : List String}
    (h : tree.get? place ≠ some .directory) (hnames : names.countP (· != "") ≠ 0) :
    ∃ e, tree.makeNames place path names = (some e, tree) := by
  induction names generalizing path with
  | nil => simp at hnames
  | cons name rest ih =>
    have hfirst := makeNames_cons tree place path name rest
    generalize tree.makeNames place path (name :: rest) = result at hfirst ⊢
    cases hfirst with
    | refused e => exact ⟨e, rfl⟩
    | skipped path hname => exact ih path (by simpa [hname] using hnames)
    | passed next path hplace _ _ => exact absurd hplace h
    | made next path hplace _ _ => exact absurd hplace h

/-- The directories that are there are passed through, unless the making is refused on the way. -/
theorem makeNames_of_reaches {names : List String} (h : Reaches tree place names last)
    (hlast : tree.get? last = some .directory) (path : String) (others : List String) :
    (∃ path', tree.makeNames place path (names ++ others) = tree.makeNames last path' others) ∨
      ∃ e, tree.makeNames place path (names ++ others) = (some e, tree) := by
  induction h generalizing path with
  | nil => exact Or.inl ⟨path, rfl⟩
  | @cons place next last name rest hplace hname hrest ih =>
    -- what `next` leads on from, or ends at, is a directory
    have hdirectory : tree.get? next = some .directory := by
      cases hrest with
      | nil => exact hlast
      | cons hplace' _ _ => exact hplace'
    have hfirst := makeNames_cons tree place path name (rest ++ others)
    rw [List.cons_append]
    generalize tree.makeNames place path (name :: (rest ++ others)) = result at hfirst ⊢
    cases hfirst with
    | refused e => exact Or.inr ⟨e, rfl⟩
    | skipped path hempty =>
      subst hempty
      rw [descend_empty] at hname
      cases hname
      exact ih hlast path
    | passed next' path _ hname' _ =>
      rw [hname] at hname'
      cases hname'
      exact ih hlast path
    | made next' path _ hname' hempty =>
      rw [hname] at hname'
      cases hname'
      rw [hdirectory] at hempty
      cases hempty

/-- Names that were made lead to a directory. -/
theorem reaches_of_makeNames {names : List String} (hplace : tree.get? place = some .directory)
    (h : tree.makeNames place path names = (none, after)) :
    ∃ last, Reaches after place names last ∧ after.get? last = some .directory := by
  induction names generalizing tree place path with
  | nil =>
    cases h
    exact ⟨place, .nil, hplace⟩
  | cons name rest ih =>
    -- the place that the name leads from is still a directory when all is made
    have hkept := makeNames_keeps place path (name :: rest) hplace
    have hfirst := makeNames_cons tree place path name rest
    rw [h] at hkept hfirst
    generalize hresult : ((none, after) : Option SystemError × FileTree) = result at hfirst
    cases hfirst with
    | refused e => cases hresult
    | skipped path hname =>
      subst hname
      obtain ⟨last, hreach, hlast⟩ := ih hplace hresult.symm
      exact ⟨last, .cons hkept (descend_empty place) hreach, hlast⟩
    | passed next path _ hnext hthere =>
      rcases hthere with hdirectory | ⟨-, hbelow⟩
      · obtain ⟨last, hreach, hlast⟩ := ih hdirectory hresult.symm
        exact ⟨last, .cons hkept hnext hreach, hlast⟩
      · -- below a file nothing is made
        by_cases hdirectory : tree.get? next = some .directory
        · obtain ⟨last, hreach, hlast⟩ := ih hdirectory hresult.symm
          exact ⟨last, .cons hkept hnext hreach, hlast⟩
        · obtain ⟨e, he⟩ := makeNames_of_not_directory path hdirectory hbelow
          rw [he] at hresult
          cases hresult
    | made next path _ hnext hempty =>
      have hput : (tree.put next .directory).get? next = some .directory := by
        rw [get?_put tree .directory (ne_nil_of_get? hempty), if_pos rfl]
      obtain ⟨last, hreach, hlast⟩ := ih hput hresult.symm
      exact ⟨last, .cons hkept hnext hreach, hlast⟩

/-- When the first of some names is made and the others are, its path was checked, and the others were
made with a path that begins with it. -/
theorem makeNames_cons_ok {rest : List String}
    (h : tree.makeNames place path (name :: rest) = (none, after)) :
    (name ≠ "" → checkPath (path ++ name) = .ok ()) ∧
      ∃ tree' place', makeNames tree' place' (path ++ name ++ "/") rest = (none, after) := by
  by_cases hname : name = ""
  · subst hname
    rw [makeNames] at h
    rw [String.append_empty]
    exact ⟨fun hne => absurd rfl hne, tree, place, h⟩
  rw [makeNames] at h
  · cases hcheck : checkPath (path ++ name) with
    | error e =>
      rw [hcheck] at h
      cases h
    | ok u =>
      simp only [hcheck] at h
      refine ⟨fun _ => rfl, ?_⟩
      split at h
      · cases h
      · rename_i next _
        split at h
        · exact ⟨tree, next, h⟩
        · split at h
          · cases h
          · exact ⟨tree, next, h⟩
        · split at h
          · cases h
          · exact ⟨tree.put next .directory, next, h⟩
  · exact fun h => hname h

/-- The path of names that are made was checked, unless it ends in a slash. -/
theorem checkPath_of_makeNames {names : List String} (hne : names ≠ [])
    (hlast : names.getLast hne ≠ "") (h : tree.makeNames place path names = (none, after)) :
    checkPath (path ++ Path.ofNames names) = .ok () := by
  induction names generalizing tree place path with
  | nil => exact absurd rfl hne
  | cons name rest ih =>
    obtain ⟨hcheck, tree', place', hrest⟩ := makeNames_cons_ok h
    by_cases hmore : rest = []
    · subst hmore
      rw [Path.ofNames_singleton]
      exact hcheck hlast
    · have hall := ih hmore (by rwa [List.getLast_cons hmore] at hlast) hrest
      rwa [Path.ofNames_cons hmore, ← String.append_assoc, ← String.append_assoc]

/-! ## Names below a directory -/

/-- The names of a path below a directory lead on from where that directory is. The names before them
are those of the directory, and their text is what its path begins with. -/
theorem reaches_parents {directory base : Place} {root p : String} (hroot : root ≠ "")
    (hp : Path.isAbsolute p = false)
    (hbase : Reaches tree (start directory root) (Path.names root) base) :
    ∃ parents, Path.names (Path.join root p) = parents ++ Path.names p ∧
      Reaches tree (start directory (Path.join root p)) parents base ∧
      (Path.ofNames parents).toList <+: root.toList := by
  obtain ⟨parents, hnames, hparents⟩ := Path.names_join hroot hp
  have hstart : start directory (Path.join root p) = start directory root := by
    rw [start, start, Path.isAbsolute_join hroot hp]
  have htext : root.toList = (Path.ofNames (Path.names root)).toList := by
    rw [Path.ofNames_names]
  rw [hstart, htext]
  refine ⟨parents, hnames, ?_⟩
  rcases hparents with hparents | hparents
  · rw [hparents] at hbase ⊢
    exact ⟨hbase, List.prefix_rfl⟩
  · rw [hparents] at hbase ⊢
    exact ⟨hbase.of_append_empty, Path.prefix_ofNames_append parents [""]⟩

/-! ## Plain names -/

/-- A plain name leads one directory down. -/
theorem descend_of_isPlainName (place : Place) (h : Path.IsPlainName name)
    (hsize : name.utf8ByteSize ≤ maxNameSize) : descend place name = some (place ++ [name]) := by
  obtain ⟨hempty, hdot, hdots⟩ := h
  rw [descend, if_neg (by simp [hempty, hdot]), if_neg (by simp [hdots]),
    if_neg (Nat.not_lt.2 hsize)]

/-- Names that lead one directory down each are visited one below the other. -/
theorem mem_visits {names : List String} {other : Place}
    (hnames : ∀ name ∈ names, ∀ p, descend p name = some (p ++ [name]))
    (h : other ∈ visits place names) : ∃ k, k ≠ [] ∧ k <+: names ∧ other = place ++ k := by
  induction names generalizing place with
  | nil => simp [visits] at h
  | cons name rest ih =>
    have hrest : ∀ n ∈ rest, ∀ p, descend p n = some (p ++ [n]) :=
      fun n hn => hnames n (List.mem_cons_of_mem _ hn)
    rw [visits, hnames name List.mem_cons_self place] at h
    rcases List.mem_cons.1 h with rfl | h
    · exact ⟨[name], by simp, ⟨rest, rfl⟩, rfl⟩
    · obtain ⟨k, -, hk, rfl⟩ := ih hrest h
      refine ⟨name :: k, by simp, ?_, by simp⟩
      rw [List.cons_prefix_cons]
      exact ⟨rfl, hk⟩

/-- Names that lead one directory down each lead to the place below that they name. -/
theorem Reaches.eq_append {names : List String} (h : Reaches tree place names last)
    (hnames : ∀ name ∈ names, ∀ p, descend p name = some (p ++ [name])) :
    last = place ++ names := by
  induction h with
  | nil => simp
  | @cons place next last name rest _ hname _ ih =>
    have hrest : ∀ n ∈ rest, ∀ p, descend p n = some (p ++ [n]) :=
      fun n hn => hnames n (List.mem_cons_of_mem _ hn)
    rw [hnames name List.mem_cons_self] at hname
    cases hname
    rw [ih hrest]
    simp

/-! ## Writing -/

/-- A file is written where its path leads to, if there is no directory. -/
theorem write_eq_ok {directory : Place} {content : List UInt8} {executable : Option Bool}
    (h : tree.write directory path content executable = .ok after) :
    checkPath path = .ok () ∧ ∃ parent, Reaches tree (start directory path)
        (Path.names path).dropLast parent ∧ tree.get? parent = some .directory ∧
      ∃ place runs, descend parent (Path.basename path) = some place ∧
        tree.get? place ≠ some .directory ∧ after = tree.put place (.file content runs) := by
  rw [write] at h
  obtain ⟨_, hcheck, h⟩ := bind_eq_ok.1 h
  obtain ⟨parent, hwalk, h⟩ := bind_eq_ok.1 h
  obtain ⟨place, hstep, h⟩ := bind_eq_ok.1 h
  obtain ⟨hreach, -⟩ := walk_eq_ok.1 hwalk
  obtain ⟨hparent, hdescend⟩ := step_eq_ok.1 hstep
  refine ⟨hcheck, parent, hreach, hparent, place, ?_⟩
  -- a directory is not overwritten, and what is put elsewhere is a file
  split at h
  · cases h
  · rename_i before hentry
    cases h
    exact ⟨_, hdescend, by rw [hentry]; simp, rfl⟩
  · rename_i hentry
    cases h
    exact ⟨_, hdescend, by rw [hentry]; simp, rfl⟩

/-- What was written is read again. -/
theorem read_of_write {directory : Place} {content : List UInt8} {executable : Option Bool}
    (h : tree.write directory path content executable = .ok after) :
    after.read directory path = .ok content := by
  obtain ⟨hcheck, parent, hreach, hparent, place, runs, hdescend, hplace, rfl⟩ := write_eq_ok h
  have hne : place ≠ [] := by
    rintro rfl
    exact hplace (get?_nil tree)
  have hentry : (tree.put place (.file content runs)).get? place = some (.file content runs) := by
    rw [get?_put _ _ hne, if_pos rfl]
  -- the file is put where no directory was, so that the way to it stays
  have hkeep : ∀ p, tree.get? p = some .directory →
      (tree.put place (.file content runs)).get? p = some .directory := by
    intro p hp
    have hother : p ≠ place := by
      rintro rfl
      exact hplace hp
    rw [get?_put _ _ hne, if_neg hother, hp]
  have hnames : Path.names path = (Path.names path).dropLast ++ [Path.basename path] := by
    have hsome : Path.names path ≠ [] := by
      simp [Path.names, Text.split_ne_nil]
    rw [Path.basename, List.getLastD_eq_getLast?, List.getLast?_eq_some_getLast hsome,
      Option.getD_some, List.dropLast_concat_getLast]
  have hlocate : (tree.put place (.file content runs)).locate directory path = .ok place := by
    refine locate_eq_ok.2 ⟨hcheck, ?_, by rw [hentry]; rfl⟩
    rw [hnames]
    exact (hreach.mono hkeep).append (.cons (hkeep _ hparent) hdescend .nil)
  rw [read, hlocate]
  simp only [hentry]

end BuildAnalysis.Host.FileTree
