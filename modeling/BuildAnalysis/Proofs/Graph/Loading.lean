import BuildAnalysis.Proofs.Graph.Query
import BuildAnalysis.Proofs.Graph.Replies
import BuildAnalysis.Proofs.Host.Requests

/-!
# The steps of loading

Loading first asks whether it may begin, and changes nothing while it asks. Then it writes the query,
runs the program that configures the project, and reads the replies. How it ends is told by the first
of these steps that fails.

* `permit_eq_ok`: what has to be the case for loading to begin.
* `Permitted.request_eq`: configuring is one start of a child process.
* `load_ending`: how loading ends, and what was done until then.
* `load_eq_ok`: the steps that have succeeded when loading has.
-/

namespace BuildAnalysis.BuildGraph

open Host (Place FileTree)

/-! ## What is asked first -/

/-- Whether there is an index, and one of a CMake that is new enough. -/
def checkIndex (api : String) (host : Host) : Except Failure Unit := do
  checkVersion (← Reply.readIndex host api)

/-- Whether the newest index of the replies is one of a CMake that is new enough. -/
def HasSupportedIndex (host : Host) (api : String) : Prop :=
  ∃ index, Reply.IsIndexOf host api index ∧ IsSupported index

theorem checkIndex_eq_ok {api : String} {host : Host} :
    checkIndex api host = .ok () ↔ HasSupportedIndex host api := by
  rw [checkIndex, bind_eq_ok, HasSupportedIndex]
  simp only [checkVersion_eq_ok, Reply.readIndex_eq_ok]

/-- The preflight names the program that is found, if the build directory can be used. -/
theorem preflight_eq_ok {root program : String} {cmake : Option String} {host : Host} :
    preflight root cmake host = .ok program ↔
      root ≠ "" ∧ host.isDirectory root = true ∧ host.list root ≠ [] ∧
        host.which (programName cmake) = some program := by
  -- the questions are asked in this order, and the first that fails decides
  rw [preflight]
  split
  · rename_i h
    simp_all
  · split
    · rename_i h
      simp_all
    · split
      · rename_i h
        simp_all
      · cases host.which (programName cmake) with
        | none => simp
        | some path => simp_all

/-- What is asked before anything is changed: whether a graph is loaded, whether the build directory
and the program can be used, and whether the index is one of a CMake that is new enough. The answer
is the program. -/
def permit (loaded : Option BuildGraph) (root : String) (cmake : Option String) (host : Host) :
    Except Failure String := do
  if loaded.isSome then throw (.analysis .alreadyLoaded)
  let program ← preflight root cmake host
  checkIndex (Path.join root apiDirectory) host
  return program

/-- Whether loading may begin, with a program: nothing is loaded yet, the build directory is there
and something is in it, the program is found, and the newest index is one of a CMake that is new
enough. -/
structure Permitted (loaded : Option BuildGraph) (root : String) (cmake : Option String)
    (host : Host) (program : String) : Prop where
  notLoaded : loaded = none
  root_ne : root ≠ ""
  isDirectory : host.isDirectory root = true
  list_ne : host.list root ≠ []
  which : host.which (programName cmake) = some program
  index : HasSupportedIndex host (Path.join root apiDirectory)

theorem permit_eq_ok {loaded : Option BuildGraph} {root program : String} {cmake : Option String}
    {host : Host} :
    permit loaded root cmake host = .ok program ↔ Permitted loaded root cmake host program := by
  cases loaded with
  | some graph =>
    -- a second graph is refused before the build directory is looked at
    have hpermit : permit (some graph) root cmake host = .error (.analysis .alreadyLoaded) := rfl
    rw [hpermit]
    exact ⟨fun h => (by cases h), fun h => absurd h.notLoaded (by simp)⟩
  | none =>
    have hpermit : permit none root cmake host = (do
        let program ← preflight root cmake host
        checkIndex (Path.join root apiDirectory) host
        return program) := rfl
    rw [hpermit, bind_eq_ok]
    constructor
    · rintro ⟨found, hpreflight, hrest⟩
      obtain ⟨u, hindex, hfound⟩ := bind_eq_ok.1 hrest
      cases hfound
      obtain ⟨hroot, hdirectory, hlist, hwhich⟩ := preflight_eq_ok.1 hpreflight
      exact ⟨rfl, hroot, hdirectory, hlist, hwhich, checkIndex_eq_ok.1 hindex⟩
    · intro h
      refine ⟨program, preflight_eq_ok.2 ⟨h.root_ne, h.isDirectory, h.list_ne, h.which⟩, ?_⟩
      exact bind_eq_ok.2 ⟨(), checkIndex_eq_ok.2 h.index, rfl⟩

/-! ## The child process -/

/-- How the child process is started that configures the project. -/
def configuration (program root : String) (host : Host) : Host.Invocation where
  command := .words [program, root]
  directory := host.absolute root
  environment := none

/-- What the end of that child process means. -/
def configured (outcome : Host.Outcome) : Except Failure Unit :=
  ((Action.answerOf outcome).map fun _ => ()).mapError configureFailure

/-- The child process is asked for once. -/
theorem on_configure (program root : String) (host : Host) :
    (configure program root).on host =
      (configured (host.request (configuration program root host)).1,
        (host.request (configuration program root host)).2) := by
  have hmap : (discard (Action.execute (.words [program, root]) root none) : Action Unit) =
      (fun _ => ()) <$> Action.execute (.words [program, root]) root none := rfl
  rw [configure, Action.on_tryCatch, hmap, Action.on_map, Action.on_execute]
  have hstart : (⟨.words [program, root], host.absolute ((some root).getD ""), none⟩ :
      Host.Invocation) = configuration program root host := rfl
  rw [hstart, configured]
  cases Action.answerOf (host.request (configuration program root host)).1 with
  | ok lines => rfl
  | error failure => rfl

/-- The program and the build directory have been found, so that they can be handed to the system. -/
theorem Permitted.isPassable {loaded : Option BuildGraph} {root program : String}
    {cmake : Option String} {host : Host} (h : Permitted loaded root cmake host program)
    (other : Host) : (configuration program root other).isPassable = true := by
  obtain ⟨place, hlocate, -⟩ := FileTree.isDirectory_iff.1 h.isDirectory
  have hroot := Host.isPassable_of_locate hlocate
  have hprogram := Host.isPassable_of_which h.which
  have hdirectory := Host.isPassable_absolute other hroot
  simp [configuration, Host.Invocation.isPassable, Host.Invocation.texts, Host.Command.texts,
    hprogram, hroot, hdirectory]

/-- When loading may begin the child process is one that the system can be asked to start. -/
theorem Permitted.request_eq {loaded : Option BuildGraph} {root program : String}
    {cmake : Option String} {host : Host} (h : Permitted loaded root cmake host program)
    (other : Host) : other.request (configuration program root other) =
      other.start (configuration program root other) :=
  other.request_of_isPassable (h.isPassable other)

/-- A child process counts as configured when it exits with zero, and only then. -/
theorem configured_eq_ok {outcome : Host.Outcome} :
    configured outcome = .ok () ↔ ∃ output, outcome = .exited 0 output := by
  rw [configured, mapError_eq_ok, map_eq_ok]
  cases outcome with
  | notStarted e => simp [Action.answerOf]
  | exited code output =>
    by_cases hcode : code = 0
    · simp [Action.answerOf, hcode]
    · simp [Action.answerOf, hcode]

/-! ## The steps in their order -/

/-- Loading takes its steps one after the other, up to the first that fails. -/
theorem on_load (loaded : Option BuildGraph) (root : String) (cmake : Option String)
    (host : Host) :
    (load loaded root cmake).on host =
      match permit loaded root cmake host with
      | .error failure => (.error failure, host)
      | .ok program =>
        match (writeQuery (Path.join root apiDirectory)).on host with
        | (.error failure, queried) => (.error failure, queried)
        | (.ok (), queried) =>
          match (configure program root).on queried with
          | (.error failure, after) => (.error failure, after)
          | (.ok (), after) => (ofReplies after (Path.join root apiDirectory), after) := by
  cases hloaded : loaded.isSome with
  | true =>
    -- a second graph is refused before anything is asked of the host
    rw [load, permit, if_pos hloaded, if_pos hloaded]
    rfl
  | false =>
    have hsteps : load loaded root cmake = (do
        let program ← Action.ofExcept (← Action.ask (preflight root cmake))
        Action.ofExcept (← Action.ask (checkIndex (Path.join root apiDirectory)))
        writeQuery (Path.join root apiDirectory)
        configure program root
        Action.ofExcept (← Action.ask fun host =>
          ofReplies host (Path.join root apiDirectory))) := by
      rw [load, hloaded]
      rfl
    simp only [hsteps, permit, hloaded, Action.on_bind, Action.on_ask, Action.on_ofExcept]
    cases preflight root cmake host with
    | error failure => rfl
    | ok program =>
      simp only
      cases checkIndex (Path.join root apiDirectory) host with
      | error failure => rfl
      | ok u =>
        simp only [pure, Except.pure, bind, Except.bind, Bool.false_eq_true, if_false]
        cases (writeQuery (Path.join root apiDirectory)).on host with
        | mk written queried =>
          cases written with
          | error failure => rfl
          | ok u =>
            simp only
            cases (configure program root).on queried with
            | mk ended after =>
              cases ended with
              | error failure => rfl
              | ok u => rfl

/-- How loading ends: it may not begin, or the query is not written, or the program was started, and
the answer is what its end and the replies tell. -/
inductive Ending (loaded : Option BuildGraph) (root : String) (cmake : Option String)
    (host : Host) : Except Failure BuildGraph × Host → Prop
  | refused {failure : Failure} (hpermit : permit loaded root cmake host = .error failure) :
    Ending loaded root cmake host (.error failure, host)
  | notWritten {program : String} {failure : Failure} {queried : Host}
    (hpermit : permit loaded root cmake host = .ok program)
    (hwrite : (writeQuery (Path.join root apiDirectory)).on host = (.error failure, queried)) :
    Ending loaded root cmake host (.error failure, queried)
  | ran {program : String} {queried after : Host} {outcome : Host.Outcome}
    (hpermit : permit loaded root cmake host = .ok program)
    (hwrite : (writeQuery (Path.join root apiDirectory)).on host = (.ok (), queried))
    (hstart : queried.start (configuration program root queried) = (outcome, after)) :
    Ending loaded root cmake host
      (configured outcome >>= fun _ => ofReplies after (Path.join root apiDirectory), after)

/-- Loading ends in one of these ways. -/
theorem load_ending (loaded : Option BuildGraph) (root : String) (cmake : Option String)
    (host : Host) : Ending loaded root cmake host ((load loaded root cmake).on host) := by
  rw [on_load]
  cases hpermit : permit loaded root cmake host with
  | error failure => exact .refused hpermit
  | ok program =>
    cases hwrite : (writeQuery (Path.join root apiDirectory)).on host with
    | mk written queried =>
      cases written with
      | error failure => exact .notWritten hpermit hwrite
      | ok u =>
        -- the child process is started on the host that the query has left behind
        simp only [on_configure, (permit_eq_ok.1 hpermit).request_eq]
        cases hstart : queried.start (configuration program root queried) with
        | mk outcome after =>
          have hran := Ending.ran hpermit hwrite hstart
          cases hconfigured : configured outcome with
          | error failure => rwa [hconfigured] at hran
          | ok u => rwa [hconfigured] at hran

/-- Whether loading may begin on a host, writes the query, and runs the program to the end, which
exits with zero and leaves the host `after` behind. -/
def Configures (loaded : Option BuildGraph) (root : String) (cmake : Option String)
    (host after : Host) : Prop :=
  ∃ program queried output, Permitted loaded root cmake host program ∧
    (writeQuery (Path.join root apiDirectory)).on host = (.ok (), queried) ∧
    queried.start (configuration program root queried) = (.exited 0 output, after)

/-- The host that configuring the project leaves behind, if it gets that far. -/
def afterConfiguring (loaded : Option BuildGraph) (root : String) (cmake : Option String)
    (host : Host) : Option Host :=
  match permit loaded root cmake host with
  | .error _ => none
  | .ok program =>
    match (writeQuery (Path.join root apiDirectory)).on host with
    | (.error _, _) => none
    | (.ok (), queried) =>
      match queried.start (configuration program root queried) with
      | (.exited 0 _, after) => some after
      | _ => none

theorem configures_of_afterConfiguring {loaded : Option BuildGraph} {root : String}
    {cmake : Option String} {host after : Host}
    (h : afterConfiguring loaded root cmake host = some after) :
    Configures loaded root cmake host after := by
  rw [afterConfiguring] at h
  split at h
  · cases h
  · rename_i program hpermit
    split at h
    · cases h
    · rename_i queried hwrite
      split at h
      · rename_i output left hstart
        cases h
        exact ⟨program, queried, output, permit_eq_ok.1 hpermit, hwrite, hstart⟩
      · cases h

/-- Once the project is configured loading ends as the replies tell. -/
theorem Configures.on_load {loaded : Option BuildGraph} {root : String} {cmake : Option String}
    {host after : Host} (h : Configures loaded root cmake host after) :
    (load loaded root cmake).on host = (ofReplies after (Path.join root apiDirectory), after) := by
  obtain ⟨program, queried, output, hpermitted, hwrite, hstart⟩ := h
  have hconfigured : configured (.exited 0 output) = .ok () := configured_eq_ok.2 ⟨output, rfl⟩
  rw [BuildGraph.on_load, permit_eq_ok.2 hpermitted]
  simp only [hwrite, on_configure, hpermitted.request_eq, hstart, hconfigured]

/-- Loading succeeds only if each of its steps does. -/
theorem load_eq_ok {loaded : Option BuildGraph} {root : String} {cmake : Option String}
    {host after : Host} {graph : BuildGraph}
    (h : (load loaded root cmake).on host = (.ok graph, after)) :
    ∃ program queried output, Permitted loaded root cmake host program ∧
      (writeQuery (Path.join root apiDirectory)).on host = (.ok (), queried) ∧
      queried.start (configuration program root queried) = (.exited 0 output, after) ∧
      ofReplies after (Path.join root apiDirectory) = .ok graph := by
  have hending := load_ending loaded root cmake host
  rw [h] at hending
  generalize hanswer : (Except.ok graph : Except Failure BuildGraph) = answer at hending
  cases hending with
  | refused => cases hanswer
  | notWritten => cases hanswer
  | @ran program queried after outcome hpermit hwrite hstart =>
    obtain ⟨u, hconfigured, hreplies⟩ := bind_eq_ok.1 hanswer.symm
    obtain ⟨output, rfl⟩ := configured_eq_ok.1 hconfigured
    exact ⟨program, queried, output, permit_eq_ok.1 hpermit, hwrite, hstart,
      hreplies.trans hanswer⟩

end BuildAnalysis.BuildGraph
