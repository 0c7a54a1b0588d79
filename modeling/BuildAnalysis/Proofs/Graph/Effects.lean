import BuildAnalysis.Proofs.Graph.Loading

/-!
# What loading changes

Loading that may not begin changes nothing. Otherwise it makes the query, and nothing else of the
files is changed but by the child process; that process is started once if the query was written, and
not at all if it was not.

* `load_effect`: the changes of loading, however it ends.
-/

namespace BuildAnalysis.BuildGraph

open Host (Place FileTree)

variable {loaded : Option BuildGraph} {root program : String} {cmake : Option String} {host : Host}

/-- A build directory that can be used is at some place. -/
theorem Permitted.located (h : Permitted loaded root cmake host program) :
    ∃ base, host.files.locate host.place root = .ok base ∧
      host.files.get? base = some .directory :=
  FileTree.isDirectory_iff.1 h.isDirectory

/-- What the attempt to write the query makes of the files, where `base` is the place of the build
directory. Directories are made on the way to the query, and its file is written; everything below
the queries of other clients, and everything below the replies, stays as it was. If the attempt
succeeds the file holds the query. -/
structure Queried (root : String) (host : Host) (base : Place) (files : FileTree) : Prop where
  located : host.files.locate host.place root = .ok base
  after : ((writeQuery (Path.join root apiDirectory)).on host).2 = { host with files }
  differs : DiffersInQuery base host.files files
  otherClients : ∀ other, other ≠ client → ∀ names,
    files.get? (base ++ [".cmake", "api", "v1", "query", other] ++ names) =
      host.files.get? (base ++ [".cmake", "api", "v1", "query", other] ++ names)
  replies : ∀ names,
    files.get? (base ++ [".cmake", "api", "v1", "reply"] ++ names) =
      host.files.get? (base ++ [".cmake", "api", "v1", "reply"] ++ names)
  content : ((writeQuery (Path.join root apiDirectory)).on host).1 = .ok () →
    files.read host.place (queryFile (Path.join root apiDirectory)) =
      .ok (Text.Utf8.encode query.document)

/-- When loading may begin, the attempt to write the query is made below the build directory. -/
theorem Permitted.queried (h : Permitted loaded root cmake host program) :
    ∃ base files, Queried root host base files := by
  obtain ⟨base, hlocate, hbase⟩ := h.located
  obtain ⟨-, hreach, -⟩ := FileTree.locate_eq_ok.1 hlocate
  obtain ⟨files, hafter, hdiffers, hcontent⟩ := writeQuery_effect h.root_ne hreach hbase
  exact ⟨base, files, hlocate, hafter, hdiffers,
    fun _ hother names => hdiffers.other_client hother names, fun names => hdiffers.reply names,
    hcontent⟩

/-- What loading changes, however it ends. If it may not begin, it fails and changes nothing at all.
Otherwise the query is the only thing that it changes itself: if the query is not written, loading
fails at that and no process is started, and if it is written, one process is started and everything
else is done by that process. -/
theorem load_effect (loaded : Option BuildGraph) (root : String) (cmake : Option String)
    (host : Host) :
    ((∀ program, ¬ Permitted loaded root cmake host program) →
      ∃ failure, (load loaded root cmake).on host = (.error failure, host)) ∧
    (∀ program, Permitted loaded root cmake host program →
      ∃ base files, Queried root host base files ∧
        (∀ failure, ((writeQuery (Path.join root apiDirectory)).on host).1 = .error failure →
          (load loaded root cmake).on host = (.error failure, { host with files })) ∧
        (((writeQuery (Path.join root apiDirectory)).on host).1 = .ok () →
          ((load loaded root cmake).on host).2 =
              (Host.start { host with files } (configuration program root host)).2 ∧
            ((load loaded root cmake).on host).2.started =
              host.started ++ [configuration program root host])) := by
  have hending := load_ending loaded root cmake host
  generalize (load loaded root cmake).on host = ended at hending ⊢
  constructor
  · intro hrefused
    cases hending with
    | refused _ => exact ⟨_, rfl⟩
    | notWritten hpermit _ => exact absurd (permit_eq_ok.1 hpermit) (hrefused _)
    | ran hpermit _ _ => exact absurd (permit_eq_ok.1 hpermit) (hrefused _)
  · intro program hpermitted
    obtain ⟨base, files, hqueried⟩ := hpermitted.queried
    refine ⟨base, files, hqueried, ?_⟩
    have hprogram := permit_eq_ok.2 hpermitted
    have hafter := hqueried.after
    cases hending with
    | refused hpermit =>
      rw [hprogram] at hpermit
      cases hpermit
    | notWritten _ hwrite =>
      -- what was changed before the refusal is all that `Queried` tells
      rw [hwrite] at hafter ⊢
      simp only at hafter
      rw [hafter]
      exact ⟨fun _ h => (by rw [Except.error.inj h]), fun h => (by cases h)⟩
    | @ran _ _ after _ hpermit hwrite hstart =>
      rw [hprogram] at hpermit
      cases hpermit
      rw [hwrite] at hafter ⊢
      simp only at hafter
      rw [hafter] at hstart
      -- the directory of the process does not depend on the files that were written
      have hchild : (Host.start { host with files } (configuration program root host)).2 = after :=
        congrArg Prod.snd hstart
      refine ⟨fun _ h => (by cases h), fun _ => ⟨hchild.symm, ?_⟩⟩
      change after.started = _
      rw [← hchild]
      exact Host.start_started _ _

end BuildAnalysis.BuildGraph
