import BuildAnalysis.Analysis.Run
import BuildAnalysis.Proofs.Analysis.ReportNames
import BuildAnalysis.Proofs.Host.Processes
import BuildAnalysis.Proofs.Host.Walking

/-!
# The runs of the analyzer

For each command the analyzer is asked for once, in the order of the commands, and whatever becomes of
a run the next one follows. A run that the system refuses counts as failed, and so does one that
exits with another code than zero. Only a process that the system cannot be asked for ends the runs.

* `runFrom_started`: no other processes are started than those for the commands, in their order.
* `runAll_answered`: if the arguments for each command are there and the system answers, which
  processes are started, and what the answer is.
-/

namespace BuildAnalysis

open Host (Invocation Outcome)

/-- An environment in which a variable was given a value: that variable has the value, and all
others have the values that they had. -/
theorem Host.Environment.get?_set (environment : Host.Environment) (name value other : String) :
    (environment.set name value).get? other =
      if other = name then some value else environment.get? other := by
  unfold set get?
  exact FileTree.find?_replace environment name value other

namespace Analysis

/-! ## One run -/

/-- The command line that analyzes the source of a command whose report has a name. Without an entry
in the table there are no common arguments. -/
def lineOf (table : ArgumentTable) (results : String) (command : CompileCommand) (report : String) :
    String :=
  analyzerLine command ((table.get? command.compiler.path).getD "")
    (ReportNames.path results report)

/-- How the analyzer is started for a command whose report has a name. -/
def analysisOf (host : Host) (table : ArgumentTable) (results : String) (command : CompileCommand)
    (report : String) : Invocation where
  command := .words (CommandLine.split (lineOf table results command report))
  directory := host.absolute (Path.dirname command.source)
  environment := some (analyzerEnvironment host.environment)

/-- The result of a run whose process ends in some way. -/
def resultOf (line : String) : Outcome → Except Failure RunResult
  | .notStarted .invalidPath => .error .badValue
  | .notStarted .tooDeep => .error .tooDeep
  | .notStarted _ => .ok ⟨["failed to execute " ++ line], 127⟩
  | .exited code output => .ok ⟨Text.lines (String.ofList (Text.Utf8.decodeLenient output)), code⟩

/-- A run of the analyzer asks for one child process. -/
theorem on_runAnalyzer (line directory : String) (host : Host) :
    (runAnalyzer line directory).on host =
      (resultOf line (host.request ⟨.words (CommandLine.split line), host.absolute directory,
          some (analyzerEnvironment host.environment)⟩).1,
        (host.request ⟨.words (CommandLine.split line), host.absolute directory,
          some (analyzerEnvironment host.environment)⟩).2) := by
  rw [runAnalyzer, Action.on_bind, Action.on_ask]
  simp only [Action.on_tryCatch, Action.on_bind, Action.on_execute, Option.getD_some]
  cases host.request ⟨.words (CommandLine.split line), host.absolute directory,
      some (analyzerEnvironment host.environment)⟩ with
  | mk outcome after =>
    cases outcome with
    | notStarted error => cases error <;> rfl
    | exited code output =>
      by_cases hcode : code = 0
      · simp [Action.answerOf, resultOf, hcode]
      · simp [Action.answerOf, resultOf, hcode, RunResult.ofFailure]

/-- A run that the system answers has a result, and its code is zero if and only if the process has
exited with zero. -/
theorem resultOf_of_isAnswer (line : String) {outcome : Outcome} (h : outcome.IsAnswer) :
    ∃ result, resultOf line outcome = .ok result ∧ (result.code == 0) = outcome.succeeded := by
  cases outcome with
  | exited code output => exact ⟨_, rfl, rfl⟩
  | notStarted error =>
    cases error with
    | invalidPath => exact absurd rfl h.1
    | tooDeep => exact absurd rfl h.2
    | _ => exact ⟨_, rfl, rfl⟩

/-- Tells what became of a run. -/
def tellResult (command : CompileCommand) (result : RunResult) : Action Unit := do
  logOutput result
  if result.code == 0 then return
  Action.log .warning "run_analyzer_sequential" ("analysis failed: " ++ command.source)

theorem tells_tellResult (command : CompileCommand) (result : RunResult) :
    (tellResult command result).Tells := by
  have hprinted : (logOutput result).Tells :=
    Action.tells_forM fun _ => Action.tells_log _ _ _
  refine hprinted.bind ?_
  split
  · exact Action.tells_pure
  · exact Action.tells_log _ _ _

/-! ## One run after the other -/

variable {table : ArgumentTable} {results : String} {names : ReportNames} {failures : Nat}
  {command : CompileCommand} {rest : List CompileCommand} {host : Host}

/-- How the analyzer is started for commands, in their order. -/
def analyses (host : Host) (table : ArgumentTable) (results : String) (names : ReportNames)
    (commands : List CompileCommand) : List Invocation :=
  List.zipWith (analysisOf host table results) commands
    (names.allocateAll (commands.map (·.source)))

theorem analyses_cons (host : Host) (table : ArgumentTable) (results : String)
    (names : ReportNames) (command : CompileCommand) (rest : List CompileCommand) :
    analyses host table results names (command :: rest) =
      analysisOf host table results command (names.allocate command.source).1 ::
        analyses host table results (names.allocate command.source).2 rest := rfl

theorem length_analyses (commands : List CompileCommand) :
    (analyses host table results names commands).length = commands.length := by
  rw [analyses, List.length_zipWith, ReportNames.length_allocateAll, List.length_map, Nat.min_self]

/-- How the analyzer is started depends on the directory and the environment of the host alone. -/
theorem analyses_congr {other : Host} (hdirectory : other.directory = host.directory)
    (henvironment : other.environment = host.environment) :
    analyses other table results names rest = analyses host table results names rest := by
  have hsame : analysisOf other table results = analysisOf host table results := by
    funext command report
    simp only [analysisOf, Host.absolute, hdirectory, henvironment]
  rw [analyses, analyses, hsame]

theorem analyses_after (invocation : Invocation) (console : Host.Console) :
    analyses ((host.start invocation).2.withConsole console) table results names rest =
      analyses host table results names rest :=
  analyses_congr (host.start_directory invocation) (host.start_environment invocation)

/-- The runs end at a command for whose compiler there are no arguments. -/
theorem runFrom_of_none (h : table.get? command.compiler.path = none) :
    (runFrom table results names failures (command :: rest)).on host =
      (.error (.fault (.noMember command.compiler.path)), host) := by
  rw [runFrom, h]
  rfl

/-- With arguments for its compiler a command is run, and then the rest, with one more failure unless
the code is zero. -/
theorem runFrom_of_isSome (h : (table.get? command.compiler.path).isSome = true) :
    runFrom table results names failures (command :: rest) = (do
      let result ← runAnalyzer (lineOf table results command (names.allocate command.source).1)
        (Path.dirname command.source)
      tellResult command result
      runFrom table results (names.allocate command.source).2
        (if result.code == 0 then failures else failures + 1) rest) := by
  obtain ⟨common, hcommon⟩ := Option.isSome_iff_exists.1 h
  rw [runFrom, lineOf, hcommon, Option.getD_some]
  simp only [tellResult, bind_assoc]
  congr 1
  funext result
  congr 1
  funext _
  split
  · rw [pure_bind]
  · rfl

/-- What a run does: the analyzer is asked for once, and if there is a result the rest follows on the
host after it. -/
theorem on_runFrom_cons (names : ReportNames) (failures : Nat) (rest : List CompileCommand)
    (host : Host) (h : (table.get? command.compiler.path).isSome = true) {invocation : Invocation}
    (hinvocation : analysisOf host table results command (names.allocate command.source).1 =
      invocation) :
    match resultOf (lineOf table results command (names.allocate command.source).1)
      (host.request invocation).1 with
    | .error failure => (runFrom table results names failures (command :: rest)).on host =
        (.error failure, (host.request invocation).2)
    | .ok result => ∃ console,
        (runFrom table results names failures (command :: rest)).on host =
          (runFrom table results (names.allocate command.source).2
            (if result.code == 0 then failures else failures + 1) rest).on
              ((host.request invocation).2.withConsole console) := by
  rw [analysisOf] at hinvocation
  rw [runFrom_of_isSome h, Action.on_bind, on_runAnalyzer, hinvocation]
  cases resultOf (lineOf table results command (names.allocate command.source).1)
      (host.request invocation).1 with
  | error failure => rfl
  | ok result =>
    obtain ⟨console, htold⟩ := tells_tellResult command result (host.request invocation).2
    refine ⟨console, ?_⟩
    simp only [Action.on_bind, htold]

/-- If the system can be asked for the process of a command, it is started. -/
theorem on_runFrom_cons_of_isPassable (names : ReportNames) (failures : Nat)
    (rest : List CompileCommand) (host : Host)
    (h : (table.get? command.compiler.path).isSome = true) {invocation : Invocation}
    (hinvocation : analysisOf host table results command (names.allocate command.source).1 =
      invocation) (hpassable : invocation.isPassable = true) :
    match resultOf (lineOf table results command (names.allocate command.source).1)
      (host.start invocation).1 with
    | .error failure => (runFrom table results names failures (command :: rest)).on host =
        (.error failure, (host.start invocation).2)
    | .ok result => ∃ console,
        (runFrom table results names failures (command :: rest)).on host =
          (runFrom table results (names.allocate command.source).2
            (if result.code == 0 then failures else failures + 1) rest).on
              ((host.start invocation).2.withConsole console) := by
  have hrun := on_runFrom_cons names failures rest host h hinvocation
  rwa [host.request_of_isPassable hpassable] at hrun

/-- The runs end at a command whose process the system cannot be asked for. -/
theorem on_runFrom_cons_of_not_isPassable (names : ReportNames) (failures : Nat)
    (rest : List CompileCommand) (host : Host)
    (h : (table.get? command.compiler.path).isSome = true)
    (hpassable : ¬ (analysisOf host table results command
      (names.allocate command.source).1).isPassable = true) :
    (runFrom table results names failures (command :: rest)).on host = (.error .badValue, host) := by
  generalize hinvocation :
    analysisOf host table results command (names.allocate command.source).1 = invocation at hpassable
  have hrun := on_runFrom_cons names failures rest host h hinvocation
  rw [host.request_of_not_isPassable hpassable] at hrun
  exact hrun

/-- No other processes are started than those for the commands, in their order; the runs may end
early. -/
theorem runFrom_started (table : ArgumentTable) (results : String) (names : ReportNames)
    (failures : Nat) (commands : List CompileCommand) (host : Host) :
    ∃ children, ((runFrom table results names failures commands).on host).2.started =
        host.started ++ children ∧
      children <+: analyses host table results names commands := by
  induction commands generalizing names failures host with
  | nil => exact ⟨[], (List.append_nil _).symm, List.nil_prefix⟩
  | cons command rest ih =>
    cases hcommon : table.get? command.compiler.path with
    | none =>
      rw [runFrom_of_none hcommon]
      exact ⟨[], (List.append_nil _).symm, List.nil_prefix⟩
    | some common =>
      have hsome : (table.get? command.compiler.path).isSome = true := by rw [hcommon]; rfl
      by_cases hpassable : (analysisOf host table results command
        (names.allocate command.source).1).isPassable = true
      case neg =>
        rw [on_runFrom_cons_of_not_isPassable names failures rest host hsome hpassable]
        exact ⟨[], (List.append_nil _).symm, List.nil_prefix⟩
      rw [analyses_cons]
      generalize hinvocation :
        analysisOf host table results command (names.allocate command.source).1 = invocation
        at hpassable ⊢
      have hstarted := host.start_started invocation
      have hrun := on_runFrom_cons_of_isPassable names failures rest host hsome hinvocation hpassable
      cases hresult : resultOf (lineOf table results command (names.allocate command.source).1)
          (host.start invocation).1 with
      | error failure =>
        rw [hresult] at hrun
        rw [hrun]
        exact ⟨[invocation], hstarted, List.prefix_append [invocation] _⟩
      | ok result =>
        rw [hresult] at hrun
        obtain ⟨console, hrun⟩ := hrun
        obtain ⟨children, hchildren, hprefix⟩ := ih (names.allocate command.source).2
          (if result.code == 0 then failures else failures + 1)
          ((host.start invocation).2.withConsole console)
        rw [analyses_after] at hprefix
        refine ⟨invocation :: children, ?_, List.cons_prefix_cons.2 ⟨rfl, hprefix⟩⟩
        rw [hrun, hchildren, Host.withConsole_started, hstarted, List.append_assoc,
          List.singleton_append]

/-- The answer of runs that ask for processes: if the system can be asked for all of them it is the
number of failures, to which those of the processes are added. -/
def countOf (failures : Nat) (invocations : List Invocation) (outcomes : List Outcome) :
    Except Failure Nat :=
  if invocations.all (·.isPassable) then .ok (failures + outcomes.countP (!·.succeeded))
  else .error .badValue

theorem countOf_of_isPassable {invocations : List Invocation}
    (h : ∀ invocation ∈ invocations, invocation.isPassable = true) (failures : Nat)
    (outcomes : List Outcome) :
    countOf failures invocations outcomes = .ok (failures + outcomes.countP (!·.succeeded)) :=
  if_pos (List.all_eq_true.2 h)

theorem countOf_of_not_isPassable {invocations : List Invocation}
    (h : ¬ ∀ invocation ∈ invocations, invocation.isPassable = true) (failures : Nat)
    (outcomes : List Outcome) : countOf failures invocations outcomes = .error .badValue :=
  if_neg (mt List.all_eq_true.1 h)

/-- One process more: its failure is one more before the others. -/
theorem countOf_cons {invocation : Invocation} (h : invocation.isPassable = true)
    (failures : Nat) (rest : List Invocation) (outcome : Outcome) (outcomes : List Outcome) :
    countOf failures (invocation :: rest) (outcome :: outcomes) =
      countOf (if outcome.succeeded then failures else failures + 1) rest outcomes := by
  simp only [countOf, List.all_cons, h, Bool.true_and, List.countP_cons]
  cases outcome.succeeded with
  | true => rfl
  | false =>
    simp only [Bool.not_false, if_true, Bool.false_eq_true, if_false, Nat.add_assoc]
    rw [Nat.add_comm 1]

/-- If the arguments for each command are there and the system answers, then the processes are started
up to the first that the system cannot be asked for, and if there is none as many failures are added
as processes fail. -/
theorem runFrom_answered {commands : List CompileCommand} (names : ReportNames) (failures : Nat)
    (htable : ∀ command ∈ commands, (table.get? command.compiler.path).isSome = true)
    (hanswered : host.IsAnswered) :
    ∃ console, (runFrom table results names failures commands).on host =
      (countOf failures (analyses host table results names commands)
          (host.startAll (Host.begun (analyses host table results names commands))).1,
        (host.startAll (Host.begun (analyses host table results names commands))).2.withConsole
          console) := by
  induction commands generalizing names failures host with
  | nil => exact ⟨host.console, rfl⟩
  | cons command rest ih =>
    have hsome := htable command List.mem_cons_self
    rw [analyses_cons]
    by_cases hpassable : (analysisOf host table results command
      (names.allocate command.source).1).isPassable = true
    case neg =>
      rw [Host.begun_cons_of_not_isPassable hpassable,
        countOf_of_not_isPassable fun h => hpassable (h _ List.mem_cons_self),
        on_runFrom_cons_of_not_isPassable names failures rest host hsome hpassable]
      exact ⟨host.console, rfl⟩
    rw [Host.begun_cons_of_isPassable hpassable, Host.startAll_cons, countOf_cons hpassable]
    generalize hinvocation :
      analysisOf host table results command (names.allocate command.source).1 = invocation
      at hpassable ⊢
    have hrun := on_runFrom_cons_of_isPassable names failures rest host hsome hinvocation hpassable
    obtain ⟨hanswer, hafter⟩ := hanswered.start invocation
    obtain ⟨result, hresult, hcode⟩ := resultOf_of_isAnswer
      (lineOf table results command (names.allocate command.source).1) hanswer
    rw [hresult] at hrun
    obtain ⟨console, hrun⟩ := hrun
    obtain ⟨last, hrest⟩ := ih (names.allocate command.source).2
      (if result.code == 0 then failures else failures + 1)
      (fun command hmem => htable command (List.mem_cons_of_mem _ hmem))
      ((Host.keepsProcesses_withConsole _ console).isAnswered hafter)
    rw [analyses_after, Host.startAll_withConsole, hcode] at hrest
    refine ⟨last, ?_⟩
    rw [hrun, hcode, hrest, Host.withConsole_withConsole]

/-- If the arguments for each command are there and the system answers, the processes for the commands
are started up to the first that the system cannot be asked for, and if there is none the answer is
the number of those that fail. -/
theorem runAll_answered {commands : List CompileCommand}
    (htable : ∀ command ∈ commands, (table.get? command.compiler.path).isSome = true)
    (hanswered : host.IsAnswered) :
    ∃ console, (runAll commands table results).on host =
      (countOf 0 (analyses host table results {} commands)
          (host.startAll (Host.begun (analyses host table results {} commands))).1,
        (host.startAll (Host.begun (analyses host table results {} commands))).2.withConsole
          console) :=
  runFrom_answered {} 0 htable hanswered

end Analysis

end BuildAnalysis
