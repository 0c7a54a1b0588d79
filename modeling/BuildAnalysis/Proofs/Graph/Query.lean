import BuildAnalysis.Graph.Load
import BuildAnalysis.Proofs.Host.Actions
import BuildAnalysis.Proofs.Host.Making
import BuildAnalysis.Proofs.Path.Joining

/-!
# Writing the query

The query of the client is one file in a directory of its own below the build directory. Writing it
makes the directories that are missing on the way, puts the file, and touches nothing else, even when
the system refuses a part of it.

* `writeQuery_effect`: what the attempt to write the query changes.
* `DiffersInQuery.other_client`, `DiffersInQuery.reply`: what it leaves alone.
-/

namespace BuildAnalysis.BuildGraph

open Host (Place FileTree)

/-! ## The place of the query -/

/-- The names from the build directory to the directory of the client's query. -/
def queryNames : List String := [".cmake", "api", "v1", "query", client]

/-- The name of the file of the query. -/
def queryName : String := "query.json"

theorem queryDirectory_join (root : String) :
    queryDirectory (Path.join root apiDirectory) =
      Path.join root ".cmake/api/v1/query/client-msvc-code-analysis" := by
  have hfirst : Path.join (Path.join root apiDirectory) "query" =
      Path.join root ".cmake/api/v1/query" :=
    Path.join_assoc (by decide) (by decide) (by decide)
  rw [queryDirectory, hfirst]
  exact Path.join_assoc (by decide) (by decide) (by decide)

theorem queryFile_join (root : String) :
    queryFile (Path.join root apiDirectory) =
      Path.join root ".cmake/api/v1/query/client-msvc-code-analysis/query.json" := by
  rw [queryFile, queryDirectory_join]
  exact Path.join_assoc (by decide) (by decide) (by decide)

/-- The names of the query lead one directory down each. -/
theorem descend_queryNames :
    ∀ name ∈ queryNames ++ [queryName], ∀ place, FileTree.descend place name =
      some (place ++ [name]) := by
  have hplain : ∀ name ∈ queryNames ++ [queryName],
      Path.IsPlainName name ∧ name.utf8ByteSize ≤ FileTree.maxNameSize := by decide
  intro name hname place
  exact FileTree.descend_of_isPlainName place (hplain name hname).1 (hplain name hname).2

/-! ## What is changed -/

/-- Whether two trees differ at most in directories that were missing on the way to the query of the
client from the build directory. -/
def DiffersInDirectories (base : Place) (before after : FileTree) : Prop :=
  ∀ place, after.get? place = before.get? place ∨
    (before.get? place = none ∧ after.get? place = some .directory ∧
      ∃ names, names ≠ [] ∧ names <+: queryNames ∧ place = base ++ names)

/-- Whether two trees differ at most in the query of the client: in directories that were missing on
the way to it from the build directory, and in its file, which holds the query then. -/
def DiffersInQuery (base : Place) (before after : FileTree) : Prop :=
  ∀ place, after.get? place = before.get? place ∨
    (before.get? place = none ∧ after.get? place = some .directory ∧
      ∃ names, names ≠ [] ∧ names <+: queryNames ∧ place = base ++ names) ∨
    (place = base ++ queryNames ++ [queryName] ∧
      ∃ runs, after.get? place = some (.file (Text.Utf8.encode query.document) runs))

namespace DiffersInQuery

variable {base place : Place} {before after : FileTree}

theorem of_directories (h : DiffersInDirectories base before after) :
    DiffersInQuery base before after :=
  fun place => (h place).imp_right Or.inl

/-- Putting the file of the query differs in the query if the directories before it do. -/
theorem of_put {made : FileTree} {runs : Bool} (h : DiffersInDirectories base before made)
    (hput : ∀ place, after.get? place = if place = base ++ queryNames ++ [queryName] then
      some (.file (Text.Utf8.encode query.document) runs) else made.get? place) :
    DiffersInQuery base before after := by
  intro place
  rw [hput place]
  by_cases hplace : place = base ++ queryNames ++ [queryName]
  · rw [if_pos hplace]
    exact Or.inr (Or.inr ⟨hplace, runs, rfl⟩)
  · rw [if_neg hplace]
    exact of_directories h place

/-- What is neither on the way to the query nor the query itself stays as it is. -/
theorem get?_eq (h : DiffersInQuery base before after)
    (hplace : ∀ names, names <+: queryNames ++ [queryName] → place ≠ base ++ names) :
    after.get? place = before.get? place := by
  rcases h place with h | ⟨-, -, names, -, hnames, rfl⟩ | ⟨rfl, -⟩
  · exact h
  · exact absurd rfl (hplace names (hnames.trans (List.prefix_append _ _)))
  · exact absurd (List.append_assoc ..) (hplace _ (List.prefix_refl _))

/-- The queries of other clients stay as they are. -/
theorem other_client (h : DiffersInQuery base before after) {other : String}
    (hother : other ≠ client) (names : List String) :
    after.get? (base ++ [".cmake", "api", "v1", "query", other] ++ names) =
      before.get? (base ++ [".cmake", "api", "v1", "query", other] ++ names) := by
  apply h.get?_eq
  intro others hprefix heq
  rw [List.append_assoc, List.append_cancel_left_eq] at heq
  rw [← heq] at hprefix
  simp [queryNames, List.cons_prefix_cons, hother] at hprefix

/-- The replies stay as they are. -/
theorem reply (h : DiffersInQuery base before after) (names : List String) :
    after.get? (base ++ [".cmake", "api", "v1", "reply"] ++ names) =
      before.get? (base ++ [".cmake", "api", "v1", "reply"] ++ names) := by
  apply h.get?_eq
  intro others hprefix heq
  rw [List.append_assoc, List.append_cancel_left_eq] at heq
  rw [← heq] at hprefix
  simp [queryNames, List.cons_prefix_cons] at hprefix

end DiffersInQuery

/-! ## The two steps -/

section

variable {tree after : FileTree} {directory base : Place} {root : String}

/-- Making the directory of the query puts directories on the way to it. -/
theorem makePath_query (directory : Place) (hroot : root ≠ "")
    (hreach : FileTree.Reaches tree (FileTree.start directory root) (Path.names root) base)
    (hbase : tree.get? base = some .directory) :
    DiffersInDirectories base tree
      (tree.makePath directory (queryDirectory (Path.join root apiDirectory))).2 := by
  intro place
  obtain ⟨parents, hnames, hparents, -⟩ := FileTree.reaches_parents
    (p := ".cmake/api/v1/query/client-msvc-code-analysis") hroot (by decide) hreach
  rw [queryDirectory_join, FileTree.makePath, hnames]
  -- the names of the build directory are passed through, those of the query are made
  rcases FileTree.makeNames_of_reaches hparents hbase "" _ with ⟨path, h⟩ | ⟨e, h⟩
  · rw [h]
    rcases FileTree.makeNames_get? tree base path
      (Path.names ".cmake/api/v1/query/client-msvc-code-analysis") place with h | ⟨hnone, hdir, hmem⟩
    · exact Or.inl h
    · refine Or.inr ⟨hnone, hdir, ?_⟩
      exact FileTree.mem_visits
        (fun name hname => descend_queryNames name (List.mem_append_left _ hname)) hmem
  · rw [h]
    exact Or.inl rfl

/-- When the directory of the query was made it is there. -/
theorem reaches_query (hroot : root ≠ "")
    (hreach : FileTree.Reaches tree (FileTree.start directory root) (Path.names root) base)
    (hbase : tree.get? base = some .directory)
    (hmade : tree.makePath directory (queryDirectory (Path.join root apiDirectory)) =
      (none, after)) :
    FileTree.Reaches after base queryNames (base ++ queryNames) := by
  obtain ⟨parents, hnames, hparents, -⟩ := FileTree.reaches_parents
    (p := ".cmake/api/v1/query/client-msvc-code-analysis") hroot (by decide) hreach
  rw [queryDirectory_join, FileTree.makePath, hnames] at hmade
  rcases FileTree.makeNames_of_reaches hparents hbase "" _ with ⟨path, h⟩ | ⟨e, h⟩
  · rw [h] at hmade
    obtain ⟨last, hlast, -⟩ := FileTree.reaches_of_makeNames hbase hmade
    have hlast' : last = base ++ queryNames := hlast.eq_append
      fun name hname => descend_queryNames name (List.mem_append_left _ hname)
    rw [hlast'] at hlast
    exact hlast
  · rw [h] at hmade
    cases hmade

/-- The query is written into its directory, and nowhere else. -/
theorem write_query {content : List UInt8} {executable : Option Bool} (hroot : root ≠ "")
    (hreach : FileTree.Reaches tree (FileTree.start directory root) (Path.names root) base)
    (hquery : FileTree.Reaches tree base queryNames (base ++ queryNames))
    (hwrite : tree.write directory (queryFile (Path.join root apiDirectory)) content executable =
      .ok after) :
    ∃ runs, ∀ place, after.get? place = if place = base ++ queryNames ++ [queryName] then
      some (.file content runs) else tree.get? place := by
  obtain ⟨parents, hnames, hparents, -⟩ := FileTree.reaches_parents
    (p := ".cmake/api/v1/query/client-msvc-code-analysis/query.json") hroot (by decide) hreach
  obtain ⟨-, parent, hparent, -, place, runs, hdescend, -, rfl⟩ := FileTree.write_eq_ok hwrite
  -- the way to the file ends with the directory of the query, and its last name is the file's
  have hinit : (Path.names (queryFile (Path.join root apiDirectory))).dropLast =
      parents ++ queryNames := by
    rw [queryFile_join, hnames, List.dropLast_append_of_ne_nil (by decide)]
    rfl
  have hlast : Path.basename (queryFile (Path.join root apiDirectory)) = queryName := by
    rw [queryFile_join, Path.basename, hnames]
    simp only [List.getLastD_eq_getLast?, List.getLast?_append]
    rfl
  rw [hinit, queryFile_join] at hparent
  rw [hlast] at hdescend
  have hwhere : parent = base ++ queryNames := hparent.unique (hparents.append hquery)
  have hplace : place = base ++ queryNames ++ [queryName] := by
    rw [hwhere, descend_queryNames queryName (by simp)] at hdescend
    exact (Option.some.inj hdescend).symm
  subst hplace
  exact ⟨runs, fun other => FileTree.get?_put tree _ (by simp) other⟩

end

/-- The attempt to write the query changes the files alone, and among them the query alone. If it
succeeds the file of the query holds the query. -/
theorem writeQuery_effect {host : Host} {root : String} {base : Place} (hroot : root ≠ "")
    (hreach : FileTree.Reaches host.files (FileTree.start host.place root) (Path.names root) base)
    (hbase : host.files.get? base = some .directory) :
    ∃ files, ((writeQuery (Path.join root apiDirectory)).on host).2 = { host with files } ∧
      DiffersInQuery base host.files files ∧
      (((writeQuery (Path.join root apiDirectory)).on host).1 = .ok () →
        files.read host.place (queryFile (Path.join root apiDirectory)) =
          .ok (Text.Utf8.encode query.document)) := by
  have hframe := makePath_query host.place hroot hreach hbase
  simp only [writeQuery, Action.on_bind, Action.on_change]
  cases hmake : host.files.makePath host.place (queryDirectory (Path.join root apiDirectory)) with
  | mk refusal made =>
    rw [hmake] at hframe
    cases refusal with
    | some e =>
      exact ⟨made, rfl, .of_directories hframe, fun h => by cases h⟩
    | none =>
      -- the directories that were there are still there, so the query is written below `base`
      have hkeep : ∀ p, host.files.get? p = some .directory →
          made.get? p = some .directory := by
        intro p hp
        have hkept := FileTree.makePath_keeps host.place
          (queryDirectory (Path.join root apiDirectory)) hp
        rwa [hmake] at hkept
      have hquery := reaches_query hroot hreach hbase hmake
      have hplace : ({ host with files := made } : Host).place = host.place := rfl
      simp only [hplace, FileTree.attempt]
      cases hwrite : made.write host.place (queryFile (Path.join root apiDirectory))
        (Text.Utf8.encode query.document) with
      | error e =>
        exact ⟨made, rfl, .of_directories hframe, fun h => by cases h⟩
      | ok files =>
        obtain ⟨runs, hfiles⟩ := write_query hroot (hreach.mono hkeep) hquery hwrite
        exact ⟨files, rfl, .of_put hframe hfiles, fun _ => FileTree.read_of_write hwrite⟩

end BuildAnalysis.BuildGraph
