import BuildAnalysis.Command
import BuildAnalysis.Proofs.Analysis.PassableTexts
import BuildAnalysis.Proofs.Graph.Loaded

/-!
# A whole run of the command

Whatever the command line, the host and the child processes are, the command does all or nothing: no
source is analyzed unless every stage before has succeeded, and then all of them are. The exit code
tells which it was. What is left out of this is a text with the null character, which the system
cannot be handed: the run breaks off at the first source whose process has such a text.

* `Command.analyze_isSound`: what a run of the command does, and its exit code.
* `Command.analyze_helped_or_broken`: a run that asks for help, and one that breaks off.
-/

namespace BuildAnalysis.Command

open Analysis
open BuildGraph (replyFile replyPlace)

/-! ## Failures -/

/-- The host on which the body of a command is run. -/
def opened (program : String) (host : Host) : Host :=
  host.withConsole { Host.Console.ofCommand (Path.basename program) with
    printed := host.console.printed }

/-- The answer that a command gives after a failure. -/
def answerTo : Failure → Except Failure Int
  | .interrupted => .ok interruptedCode
  | .analysis _ => .ok failedCode
  | .system _ | .exited _ _ => .ok internalCode
  | failure => .error failure

theorem on_reportInternal (word : String) (host : Host) :
    ∃ console, (reportInternal word).on host = (.ok internalCode, host.withConsole console) := by
  simp only [reportInternal, Action.on_bind, Action.on_log, Action.on_ask]
  split
  · simp only [Action.on_bind, Action.on_modify, Action.on_ask]
    split
    · exact ⟨_, rfl⟩
    · exact ⟨_, rfl⟩
  · simp only [Action.on_bind, Action.on_ask]
    split
    · exact ⟨_, rfl⟩
    · exact ⟨_, rfl⟩

/-- A failure is reported, and nothing else is done about it. -/
theorem on_handle (failure : Failure) (host : Host) :
    ∃ console, (handle failure).on host = (answerTo failure, host.withConsole console) := by
  cases failure with
  | interrupted => exact ⟨_, rfl⟩
  | analysis error => exact ⟨_, rfl⟩
  | system error => exact on_reportInternal error.word host
  | exited code output => exact on_reportInternal "CalledProcessError" host
  | _ => exact ⟨host.console, rfl⟩

/-- How a command ends whose body has ended in some way. -/
theorem on_guarded (program : String) (body : Action Int) (host : Host) :
    ∃ console, (guarded program body).on host =
      ((match (body.on (opened program host)).1 with
        | .ok code => .ok code
        | .error failure => answerTo failure),
        (body.on (opened program host)).2.withConsole console) := by
  rw [guarded, Action.on_bind, Action.on_modify]
  change ∃ console, (tryCatch body handle).on (opened program host) = _
  rw [Action.on_tryCatch]
  cases body.on (opened program host) with
  | mk answer after =>
    cases answer with
    | ok code => exact ⟨after.console, rfl⟩
    | error failure => exact on_handle failure after

/-! ## The exit code -/

/-- The exit code of the command. -/
def exitCode (program : String) (words : List String) (host : Host) : Int :=
  (ending program ((analyze program words).on host).1).2

variable {program : String} {words : List String} {host : Host}

/-- The body decides the exit code. -/
theorem exitCode_eq (program : String) (words : List String) (host : Host) :
    exitCode program words host =
      match ((Analysis.analyze words).on (opened program host)).1 with
      | .ok code => code
      | .error failure => (ending program (answerTo failure)).2 := by
  obtain ⟨console, hguarded⟩ := on_guarded program (Analysis.analyze words) host
  rw [exitCode, analyze, hguarded]
  cases ((Analysis.analyze words).on (opened program host)).1 with
  | ok code => rfl
  | error failure => rfl

/-- What is found on the host never makes a run exit with zero. -/
theorem code_of_isInner {failure : Failure} (h : failure.IsInner) :
    (ending program (answerTo failure)).2 ≠ 0 := by
  cases failure with
  | exited code output => exact absurd h id
  | interrupted => exact absurd h id
  | usage message => exact absurd h id
  | _ => simp [answerTo, ending, lastWords, failedCode, internalCode, defectCode]

/-- A command line that is refused makes a run exit with zero if there is no message for it. -/
theorem code_of_usage (message : Option String) :
    (ending program (answerTo (.usage message))).2 = 0 ↔ message = none := by
  cases message with
  | none => simp [answerTo, ending, lastWords]
  | some message => simp [answerTo, ending, lastWords, refusedCode]

/-! ## The whole run -/

/-- Whether a child process analyzes the source of a command: its words are those of a command line
for the source, it is run in the directory of the source, and its environment is that of the host, but
for the variable that asks for reports. -/
structure Analyzes (host : Host) (table : ArgumentTable) (results : String)
    (command : CompileCommand) (child : Host.Invocation) : Prop where
  words : ∃ report, child.command =
    .words (CommandLine.split (lineOf table results command report))
  directory : child.directory = host.absolute (Path.dirname command.source)
  environment : ∃ environment, child.environment = some environment ∧ ∀ name,
    environment.get? name =
      if name = "CAEmitSarifLog" then some "1" else host.environment.get? name

theorem analyzes_analysisOf (host : Host) (table : ArgumentTable) (results : String)
    (command : CompileCommand) (report : String) :
    Analyzes host table results command (analysisOf host table results command report) := by
  constructor
  · exact ⟨report, by rw [analysisOf]⟩
  · rw [analysisOf]
  · refine ⟨analyzerEnvironment host.environment, by rw [analysisOf], fun name => ?_⟩
    exact Host.Environment.get?_set host.environment "CAEmitSarifLog" "1" name

theorem analyzes_analyses (host : Host) (table : ArgumentTable) (results : String)
    (names : ReportNames) (commands : List CompileCommand) :
    List.Forall₂ (Analyzes host table results) commands
      (analyses host table results names commands) := by
  induction commands generalizing names with
  | nil => exact .nil
  | cons command rest ih =>
    rw [analyses_cons]
    exact .cons (analyzes_analysisOf host table results command _) (ih _)

/-- What a run of the command does, and its exit code. -/
structure IsSound (program : String) (words : List String) (host : Host) : Prop where
  /-- If a stage fails, no process is started but the one that configures the project. -/
  stopped : IsEmpty (Preparation words (opened program host)) →
    ((analyze program words).on host).2.started = host.started ∨ ∃ configurator root,
      ((analyze program words).on host).2.started =
        host.started ++ [BuildGraph.configuration configurator root host]
  /-- If all stages succeed, everything is prepared. -/
  prepared : ∀ p : Preparation words (opened program host), ∃ cleared console,
    (prepareResults p.settings.resultsDirectory p.settings.cleanSarif).on p.loaded =
      (.ok p.results, cleared) ∧
    IsPrepared p.settings p.graph cleared p.commands p.table ∧
    p.ready = cleared.withConsole console
  /-- Each command has one process that analyzes its source, and the system can be asked for all of
  these processes unless a null character is in a text that they are made from. -/
  children : ∀ p : Preparation words (opened program host),
    List.Forall₂ (Analyzes host p.table p.results) p.commands p.children ∧
    (AreFromPassable host p.table p.results p.commands → p.IsPassable)
  /-- If the system can be asked for all of them, they are started, in the order of the commands. -/
  started : ∀ p : Preparation words (opened program host), p.IsPassable → ∃ configurator,
    ((analyze program words).on host).2.started = host.started ++
      BuildGraph.configuration configurator p.settings.buildDirectory host :: p.children
  /-- They end as those to come do after the one that configures the project, and the runs of the
  analyzer answer the number of processes that fail. -/
  failures : ∀ p : Preparation words (opened program host), p.IsPassable →
    p.ready.children = host.children.tail ∧ p.outcomes.length = p.commands.length ∧
    ((runAll p.commands p.table p.results).on p.ready).1 = .ok (p.outcomes.countP (!·.succeeded))
  /-- If there are some that the system cannot be asked for, those before the first of them are
  started, and the run ends with a failure that is not reported. -/
  broken : ∀ p : Preparation words (opened program host), ¬ p.IsPassable →
    (∃ configurator, ((analyze program words).on host).2.started = host.started ++
      BuildGraph.configuration configurator p.settings.buildDirectory host ::
        Host.begun p.children) ∧
    ((analyze program words).on host).1 = .error .badValue
  /-- The exit code is zero if help is asked for, or if all processes are started and exit with
  zero. -/
  zero : exitCode program words host = 0 ↔
    CommandLine.parse words = .error .help ∨
      ∃ p : Preparation words (opened program host), p.IsPassable ∧
        ∀ outcome ∈ p.outcomes, outcome.succeeded = true
  /-- The exit code is one if a process fails or the system cannot be asked for it, or if an error is
  to be reported. -/
  one : ((∃ p : Preparation words (opened program host),
        ¬ p.IsPassable ∨ ∃ outcome ∈ p.outcomes, outcome.succeeded = false) ∨
      ∃ error, ((Analysis.analyze words).on (opened program host)).1 = .error (.analysis error)) →
    exitCode program words host = 1

theorem configuration_opened (program : String) (host : Host) (configurator root : String) :
    BuildGraph.configuration configurator root (opened program host) =
      BuildGraph.configuration configurator root host :=
  BuildGraph.configuration_eq (Host.keepsProcesses_withConsole host _) configurator root

/-- The command starts the processes that its body starts. -/
theorem analyze_started (program : String) (words : List String) (host : Host) :
    ((analyze program words).on host).2.started =
      ((Analysis.analyze words).on (opened program host)).2.started := by
  obtain ⟨console, hguarded⟩ := on_guarded program (Analysis.analyze words) host
  rw [analyze, hguarded]
  rfl

/-- No process is started if a stage fails, but the one that configures the project. -/
theorem started_of_isEmpty (h : IsEmpty (Preparation words (opened program host))) :
    ((analyze program words).on host).2.started = host.started ∨ ∃ configurator root,
      ((analyze program words).on host).2.started =
        host.started ++ [BuildGraph.configuration configurator root host] := by
  rw [analyze_started]
  rcases (Analysis.stopped h).started with hnone | ⟨configurator, root, hone⟩
  · exact .inl hnone
  · rw [configuration_opened] at hone
    exact .inr ⟨configurator, root, hone⟩

/-- If a stage fails, the exit code is zero only for a run that was asked for help. -/
theorem exitCode_of_isEmpty (h : IsEmpty (Preparation words (opened program host))) :
    exitCode program words host = 0 ↔ CommandLine.parse words = .error .help := by
  obtain ⟨failure, hfailed, hinner | ⟨message, rfl⟩, hhelp⟩ := (Analysis.stopped h).failed
  · have hcode : exitCode program words host ≠ 0 := by
      rw [exitCode_eq, hfailed]
      exact code_of_isInner hinner
    have hnone : failure ≠ .usage none := by
      rintro rfl
      exact hinner
    exact iff_of_false hcode fun hparse => hnone (hhelp.2 hparse)
  · rw [exitCode_eq, hfailed, ← hhelp, Failure.usage.injEq]
    exact code_of_usage message

theorem isEmpty_of_help (h : CommandLine.parse words = .error .help) :
    IsEmpty (Preparation words host) :=
  ⟨fun p => Settings.ofCommandLine_ok p.on_settings h⟩

theorem isAnswered_opened (h : host.IsAnswered) : (opened program host).IsAnswered :=
  (Host.keepsProcesses_withConsole host _).isAnswered h

/-- If all stages succeed, the processes for the commands are started, up to the first that the system
cannot be asked for. -/
theorem started_of_preparation (h : host.IsAnswered)
    (p : Preparation words (opened program host)) : ∃ configurator,
    ((analyze program words).on host).2.started = host.started ++
      BuildGraph.configuration configurator p.settings.buildDirectory host ::
        Host.begun p.children := by
  obtain ⟨console, hrun⟩ := p.on_runAll (isAnswered_opened h)
  obtain ⟨⟨configurator, hstarted⟩, -⟩ := p.processes
  refine ⟨configurator, ?_⟩
  rw [analyze_started, p.on_analyze, hrun, Host.withConsole_started, Host.startAll_started, hstarted,
    configuration_opened, List.append_assoc, List.singleton_append]
  rfl

/-- If all stages succeed and all processes are started, the number of those that fail is the answer
of the runs. -/
theorem runAll_of_isPassable (h : host.IsAnswered) {p : Preparation words (opened program host)}
    (hpassable : p.IsPassable) :
    ((runAll p.commands p.table p.results).on p.ready).1 =
      .ok (p.outcomes.countP (!·.succeeded)) := by
  obtain ⟨console, hrun⟩ := p.on_runAll (isAnswered_opened h)
  rw [hrun, countOf_of_isPassable hpassable, Nat.zero_add]

/-- It decides the exit code. -/
theorem answer_of_isPassable (h : host.IsAnswered)
    {p : Preparation words (opened program host)} (hpassable : p.IsPassable) :
    ((analyze program words).on host).1 = .ok (codeOf (p.outcomes.countP (!·.succeeded))) := by
  obtain ⟨last, hguarded⟩ := on_guarded program (Analysis.analyze words) host
  rw [analyze, hguarded, p.on_analyze, runAll_of_isPassable h hpassable]
  rfl

theorem exitCode_of_isPassable (h : host.IsAnswered)
    {p : Preparation words (opened program host)} (hpassable : p.IsPassable) :
    exitCode program words host = codeOf (p.outcomes.countP (!·.succeeded)) := by
  rw [exitCode, answer_of_isPassable h hpassable]
  rfl

/-- If all stages succeed and there is a process that the system cannot be asked for, the run ends
with the failure of a text that is not accepted. -/
theorem answer_of_not_isPassable (h : host.IsAnswered)
    {p : Preparation words (opened program host)} (hbroken : ¬ p.IsPassable) :
    ((analyze program words).on host).1 = .error .badValue := by
  obtain ⟨console, hrun⟩ := p.on_runAll (isAnswered_opened h)
  obtain ⟨last, hguarded⟩ := on_guarded program (Analysis.analyze words) host
  rw [analyze, hguarded, p.on_analyze, hrun, countOf_of_not_isPassable hbroken]
  rfl

theorem exitCode_of_not_isPassable (h : host.IsAnswered)
    {p : Preparation words (opened program host)} (hbroken : ¬ p.IsPassable) :
    exitCode program words host = 1 := by
  rw [exitCode, answer_of_not_isPassable h hbroken]
  rfl

/-- The texts are the same when the command begins. -/
theorem isPassable_of_texts {p : Preparation words (opened program host)}
    (h : AreFromPassable host p.table p.results p.commands) : p.IsPassable :=
  AreFromPassable.isPassable_analyses
    ⟨h.environment, h.results, h.common, h.compiler, h.args, h.source⟩ {}

theorem codeOf_countP_eq_zero (outcomes : List Host.Outcome) :
    codeOf (outcomes.countP (!·.succeeded)) = 0 ↔ ∀ outcome ∈ outcomes, outcome.succeeded = true := by
  have hcount : outcomes.countP (!·.succeeded) = 0 ↔
      ∀ outcome ∈ outcomes, outcome.succeeded = true := by
    simp [List.countP_eq_zero]
  rw [← hcount, codeOf]
  cases outcomes.countP (!·.succeeded) with
  | zero => simp
  | succ n => simp

theorem codeOf_of_ne_zero {failures : Nat} (h : codeOf failures ≠ 0) : codeOf failures = 1 := by
  unfold codeOf at h ⊢
  split
  · rename_i hzero
    exact absurd (if_pos hzero) h
  · rfl

/-- Whatever the command line, the files and the processes are, as long as the system answers each
start: the command does all that is known of a run. -/
theorem analyze_isSound (program : String) (words : List String) (host : Host)
    (h : host.IsAnswered) : IsSound program words host where
  stopped := started_of_isEmpty
  prepared p := prepare_ok p.on_prepare
  children p := ⟨analyzes_analyses host p.table p.results {} p.commands, isPassable_of_texts⟩
  started p hpassable := by
    obtain ⟨configurator, hstarted⟩ := started_of_preparation h p
    rw [Host.begun_eq_self hpassable] at hstarted
    exact ⟨configurator, hstarted⟩
  failures p hpassable := by
    obtain ⟨-, -, -, hchildren⟩ := p.processes
    refine ⟨hchildren, ?_, runAll_of_isPassable h hpassable⟩
    rw [Preparation.outcomes, Host.length_startAll, Host.begun_eq_self hpassable,
      Preparation.children, length_analyses]
  broken p hbroken := ⟨started_of_preparation h p, answer_of_not_isPassable h hbroken⟩
  zero := by
    rcases isEmpty_or_nonempty (Preparation words (opened program host)) with hempty | ⟨⟨p⟩⟩
    · rw [exitCode_of_isEmpty hempty]
      exact ⟨.inl, fun hcode => hcode.resolve_right fun ⟨p, _⟩ => hempty.false p⟩
    · constructor
      · intro hcode
        by_cases hpassable : p.IsPassable
        · rw [exitCode_of_isPassable h hpassable, codeOf_countP_eq_zero] at hcode
          exact .inr ⟨p, hpassable, hcode⟩
        · rw [exitCode_of_not_isPassable h hpassable] at hcode
          cases hcode
      · rintro (hhelp | ⟨p, hpassable, hall⟩)
        · exact ((isEmpty_of_help hhelp).false p).elim
        · rw [exitCode_of_isPassable h hpassable, codeOf_countP_eq_zero]
          exact hall
  one := by
    rintro (⟨p, hfailed⟩ | ⟨error, herror⟩)
    · by_cases hpassable : p.IsPassable
      · obtain ⟨outcome, hmem, hfailed⟩ := hfailed.resolve_left (not_not.2 hpassable)
        rw [exitCode_of_isPassable h hpassable]
        refine codeOf_of_ne_zero fun hcode => ?_
        rw [(codeOf_countP_eq_zero _).1 hcode outcome hmem] at hfailed
        cases hfailed
      · exact exitCode_of_not_isPassable h hpassable
    · rw [exitCode_eq, herror]
      rfl

/-- The reply about a target of two sources, each in a group of its own; the second group has a
define. -/
def targetWith (define : String) : Json :=
  .object [("sources", .array [.object [("path", .string "a.c")], .object [("path", .string "b.c")]]),
    ("compileGroups", .array [
      .object [("language", .string "C"), ("sourceIndexes", .array [.integer 0])],
      .object [("language", .string "C"),
        ("defines", .array [.object [("define", .string define)]]),
        ("sourceIndexes", .array [.integer 1])]])]

/-- The reply about a project with one target. -/
def sampleCodemodel : Json :=
  .object [("paths", .object [("source", .string "/s")]),
    ("configurations", .array [.object [("targets", .array [.object [("jsonFile", .string "x")]])]])]

/-- A host with a project of that target. The process that analyzes its first source fails. -/
def hostWith (define : String) : Host :=
  { BuildGraph.sampleHost with
    files := ((BuildGraph.sampleHost.files.put (replyPlace "x") (replyFile (targetWith define))).put
      (replyPlace "m") (replyFile sampleCodemodel)).put ["EspXEngine.dll"] (.file [] false)
    children := BuildGraph.sampleHost.children ++
      [{ outcome := .exited (-1) [] }, { outcome := .exited 0 [] }] }

/-- The command line that analyzes that project. -/
def sampleWords : List String := ["--build-dir", "/b", "-o", "/b"]

theorem isAnswered_hostWith (define : String) : (hostWith define).IsAnswered := by
  intro child hchild
  simp only [hostWith, BuildGraph.sampleHost, List.cons_append, List.nil_append,
    List.mem_cons, List.not_mem_nil, or_false] at hchild
  rcases hchild with rfl | rfl | rfl
  · exact ⟨fun _ _ h => (by cases h), trivial⟩
  · exact ⟨fun _ _ h => (by cases h), trivial⟩
  · exact ⟨fun _ _ h => (by cases h), trivial⟩

/-- A run that starts two processes at least has prepared everything. -/
theorem nonempty_of_started {define : String}
    (h : 2 ≤ ((analyze programName sampleWords).on (hostWith define)).2.started.length) :
    Nonempty (Preparation sampleWords (opened programName (hostWith define))) := by
  rw [← not_isEmpty_iff]
  intro hempty
  have hnew : (hostWith define).started = [] := rfl
  rcases started_of_isEmpty hempty with hnone | ⟨configurator, root, hone⟩
  · rw [hnone, hnew] at h
    cases h
  · rw [hone, hnew] at h
    exact absurd h (by simp)

theorem analyze_isSound_sample : (hostWith "A").IsAnswered ∧
    IsSound programName sampleWords (hostWith "A") ∧
    (∃ p : Preparation sampleWords (opened programName (hostWith "A")),
      p.IsPassable ∧ p.outcomes.length = 2) ∧
    exitCode programName sampleWords (hostWith "A") = 1 := by
  have hended : ((analyze programName sampleWords).on (hostWith "A")).map
      (·.toOption) (·.started.length) = (some 1, 3) := by decide +kernel
  have hsound := analyze_isSound programName sampleWords (hostWith "A") (isAnswered_hostWith "A")
  rw [Prod.ext_iff, Prod.map_fst, Prod.map_snd] at hended
  obtain ⟨hanswer, hthree⟩ := hended
  have hanswer := toOption_eq_some.1 hanswer
  obtain ⟨p⟩ := nonempty_of_started (by rw [hthree]; decide)
  have hpassable : p.IsPassable := by
    by_contra hbroken
    rw [(hsound.broken p hbroken).2] at hanswer
    cases hanswer
  obtain ⟨configurator, hstarted⟩ := hsound.started p hpassable
  rw [hstarted] at hthree
  refine ⟨isAnswered_hostWith "A", hsound, ⟨p, hpassable, ?_⟩, by rw [exitCode, hanswer]; rfl⟩
  rw [Preparation.outcomes, Host.length_startAll, Host.begun_eq_self hpassable]
  exact Nat.succ.inj hthree

/-- A run that is asked for help exits with zero, and analyzes nothing. And a run that comes to a
define with the null character, after it has started the process for the source before, breaks off:
the process for the other source is not started. -/
theorem analyze_helped_or_broken :
    (exitCode programName ["--help"] (hostWith "A") = 0 ∧
      ((analyze programName ["--help"]).on (hostWith "A")).2.started = [] ∧
      ¬ ∃ p : Preparation ["--help"] (opened programName (hostWith "A")),
        ∀ outcome ∈ p.outcomes, outcome.succeeded = true) ∧
    (hostWith "A\x00B").IsAnswered ∧
    (∃ p : Preparation sampleWords (opened programName (hostWith "A\x00B")),
      1 < p.commands.length ∧ ∃ configurator child,
        ((analyze programName sampleWords).on (hostWith "A\x00B")).2.started =
          [BuildGraph.configuration configurator p.settings.buildDirectory (hostWith "A\x00B"),
            child]) ∧
    ((analyze programName sampleWords).on (hostWith "A\x00B")).1 = .error .badValue := by
  have hhelp : CommandLine.parse ["--help"] = .error .help := rfl
  refine ⟨⟨by decide +kernel, by decide +kernel, fun ⟨p, _⟩ => (isEmpty_of_help hhelp).false p⟩,
    isAnswered_hostWith _, ?_⟩
  have hended : ((analyze programName sampleWords).on (hostWith "A\x00B")).map
      (·.toOption) (·.started.length) = (none, 2) := by decide +kernel
  rw [Prod.ext_iff, Prod.map_fst, Prod.map_snd] at hended
  obtain ⟨hanswer, htwo⟩ := hended
  have hanswered := isAnswered_hostWith "A\x00B"
  obtain ⟨p⟩ := nonempty_of_started (by rw [htwo])
  have hbroken : ¬ p.IsPassable := by
    intro hpassable
    rw [answer_of_isPassable hanswered hpassable] at hanswer
    cases hanswer
  obtain ⟨configurator, hstarted⟩ := started_of_preparation hanswered p
  rw [hstarted] at htwo
  obtain ⟨child, hchild⟩ := List.length_eq_one_iff.1 (Nat.succ.inj htwo)
  have hmore := Host.length_begun_lt hbroken
  rw [hchild, Preparation.children, length_analyses] at hmore
  refine ⟨⟨p, hmore, configurator, child, ?_⟩, answer_of_not_isPassable hanswered hbroken⟩
  rw [hstarted, hchild]
  rfl

end BuildAnalysis.Command
