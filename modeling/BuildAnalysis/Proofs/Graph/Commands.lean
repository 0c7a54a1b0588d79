import BuildAnalysis.Graph.Commands
import BuildAnalysis.Proofs.Graph.Failures
import BuildAnalysis.Proofs.Target.Feed

/-!
# The commands of all targets

The commands of a graph are those of its targets, one target after the other. All of them are there
only if the file of every target is read and accepted.

* `BuildGraph.commands_ok`: what has been read when all commands are there.
-/

namespace BuildAnalysis

/-- The target that a file describes. -/
def Target.load (host : Host) (file : String) : Except Failure Target := do
  let data ← Reply.load host file
  (Target.ofReply file data).mapError .analysis

/-- A target is there if its file is read and accepted. -/
theorem Target.load_eq_ok {host : Host} {file : String} {target : Target} :
    Target.load host file = .ok target ↔
      ∃ data, Reply.load host file = .ok data ∧ Target.ofReply file data = .ok target := by
  rw [Target.load, bind_eq_ok]
  simp only [mapError_eq_ok]

theorem Target.load_failsInside (host : Host) (file : String) :
    FailsInside (Target.load host file) :=
  (Reply.load_failsInside host file).bind fun _ => failsInside_analysis _

namespace Target

/-- Commands that cannot be made are missing because of a value of the reply. -/
theorem commandsAt_failure {target : Target} {root : Json} {args : String} {compiler : Compiler}
    {indexes : List Json} {failure : Failure}
    (h : (target.commandsAt root args compiler indexes).failure = some failure) :
    ∃ fault, failure = .fault fault := by
  induction indexes with
  | nil => cases h
  | cons index rest ih =>
    rw [commandsAt] at h
    split at h
    · rename_i fault hfault
      cases h
      exact ⟨fault, rfl⟩
    · exact ih h

theorem groupCommands_failure {target : Target} {root : Json} {compilers : Compilers}
    {options : CommandOptions} {group : CompileGroup} {failure : Failure}
    (h : (target.groupCommands root compilers options group).failure = some failure) :
    ∃ fault, failure = .fault fault := by
  unfold groupCommands at h
  split at h
  · rename_i fault hfault
    cases h
    exact ⟨fault, rfl⟩
  · cases h
  · split at h
    · rename_i fault hfault
      cases h
      exact ⟨fault, rfl⟩
    · exact commandsAt_failure h

theorem commands_failure {target : Target} {root : Json} {compilers : Compilers}
    {options : CommandOptions} {failure : Failure}
    (h : (target.commands root compilers options).failure = some failure) :
    ∃ fault, failure = .fault fault := by
  rw [commands_eq_concat] at h
  obtain ⟨stretch, hmem, hfailure⟩ := Stretch.mem_of_concat_failure h
  obtain ⟨group, -, rfl⟩ := List.mem_map.1 hmem
  exact groupCommands_failure hfailure

end Target

namespace BuildGraph

variable {graph : BuildGraph} {options : CommandOptions} {host after : Host}

/-- The commands of a target are made when its file is read and accepted. -/
theorem targetCommands_eq (graph : BuildGraph) (options : CommandOptions) (host : Host)
    (file : String) :
    graph.targetCommands options host file =
      match Target.load host file with
      | .error failure => .failed failure
      | .ok target => target.commands graph.sourceRoot graph.toolchains.compiler? options := by
  unfold targetCommands Target.load
  cases Reply.load host file with
  | error failure => rfl
  | ok data =>
    simp only [bind, Except.bind]
    cases Target.ofReply file data with
    | error e => rfl
    | ok target => rfl

theorem targetCommands_failure {file : String} {failure : Failure}
    (h : (graph.targetCommands options host file).failure = some failure) : failure.IsInner := by
  rw [targetCommands_eq] at h
  cases hload : Target.load host file with
  | error other =>
    rw [hload] at h
    cases h
    exact Target.load_failsInside host file failure hload
  | ok target =>
    rw [hload] at h
    obtain ⟨fault, rfl⟩ := Target.commands_failure h
    trivial

/-- All that the targets of a graph give on a host. -/
def allCommands (graph : BuildGraph) (options : CommandOptions) (host : Host) : Stretch :=
  .concat (graph.targetFiles.map (graph.targetCommands options host))

end BuildGraph

namespace CommandStream

variable {graph : BuildGraph} {limit : Option Nat}

/-- A stream begins with the targets of the graph when it is asked for a command. -/
theorem pull_fresh (hroot : graph.sourceRoot ≠ .null) (hlimit : limit ≠ some 0)
    (options : CommandOptions) (host : Host) :
    (fresh options).pull host (some graph) limit =
      pullBegun host limit graph options { pending := graph.targetFiles } := by
  rw [pull, if_neg (by simpa using hlimit)]
  cases h : graph.sourceRoot with
  | null => exact absurd h hroot
  | _ => rfl

/-- Without a source directory there are no commands. -/
theorem pull_fresh_null (hroot : graph.sourceRoot = .null) (hlimit : limit ≠ some 0)
    (options : CommandOptions) (host : Host) :
    (fresh options).pull host (some graph) limit = refuse .noSourceRoot := by
  rw [pull, if_neg (by simpa using hlimit)]
  simp only [hroot]

end CommandStream

namespace BuildGraph

variable {graph : BuildGraph} {options : CommandOptions} {host after : Host}

/-- All commands are asked of a stream at once, which changes nothing. -/
theorem on_commands (h : graph.sourceRoot ≠ .null) (options : CommandOptions) (host : Host) :
    (commands (some graph) options).on host =
      match (graph.allCommands options host).failure with
      | some failure => (.error failure, host)
      | none => (.ok (graph.allCommands options host).commands, host) := by
  have hpull : ((CommandStream.fresh options).pull host (some graph) none).1 =
      ((graph.allCommands options host).pull none).1 := by
    rw [CommandStream.pull_fresh h (by simp)]
    exact congrArg Prod.fst (Feed.pullFrom_eq (graph.targetCommands options host) none [] none
      graph.targetFiles)
  rw [commands, Action.on_bind, Action.on_ask]
  simp only [hpull, Stretch.pull_none]
  cases (graph.allCommands options host).failure with
  | some failure => rfl
  | none => rfl

theorem on_commands_null (h : graph.sourceRoot = .null) (options : CommandOptions) (host : Host) :
    (commands (some graph) options).on host = (.error .noSourceRoot, host) := by
  rw [commands, Action.on_bind, Action.on_ask]
  simp only [CommandStream.pull_fresh_null h (by simp : (none : Option Nat) ≠ some 0)]
  rfl

/-- Asking for commands changes nothing. -/
theorem commands_after (loaded : Option BuildGraph) (options : CommandOptions) (host : Host) :
    ((commands loaded options).on host).2 = host := by
  rw [commands, Action.on_bind, Action.on_ask]
  simp only
  split
  · rfl
  · rfl

/-- Commands are missing because of what is found on the host. -/
theorem commands_failsInside (graph : BuildGraph) (options : CommandOptions) :
    (commands (some graph) options).FailsInside := by
  intro host
  by_cases hroot : graph.sourceRoot = .null
  · rw [on_commands_null hroot]
    exact failsInside_error trivial
  · rw [on_commands hroot]
    cases hfailure : (graph.allCommands options host).failure with
    | none => exact failsInside_ok _
    | some failure =>
      obtain ⟨stretch, hmem, hstretch⟩ := Stretch.mem_of_concat_failure hfailure
      obtain ⟨file, -, rfl⟩ := List.mem_map.1 hmem
      exact failsInside_error (targetCommands_failure hstretch)

/-- All commands are there only if every target is read and accepted, and they are those of the
targets in their order. -/
theorem commands_ok {commands : List CompileCommand}
    (h : ((BuildGraph.commands (some graph) options).on host).1 = .ok commands) :
    (∀ file ∈ graph.targetFiles, ∃ target, Target.load host file = .ok target) ∧
      commands = graph.targetFiles.flatMap fun file =>
        (graph.targetCommands options host file).commands := by
  by_cases hroot : graph.sourceRoot = .null
  · rw [on_commands_null hroot] at h
    cases h
  rw [on_commands hroot] at h
  cases hfailure : (graph.allCommands options host).failure with
  | some failure =>
    rw [hfailure] at h
    cases h
  | none =>
    rw [hfailure] at h
    cases h
    have hnone := Stretch.failure_of_concat hfailure
    refine ⟨?_, ?_⟩
    · intro file hfile
      have hstretch := hnone _ (List.mem_map.2 ⟨file, hfile, rfl⟩)
      rw [targetCommands_eq] at hstretch
      cases hload : Target.load host file with
      | ok target => exact ⟨target, rfl⟩
      | error failure =>
        rw [hload] at hstretch
        cases hstretch
    · rw [allCommands, Stretch.concat_of_none hnone, List.flatMap_map]

end BuildGraph

end BuildAnalysis
