import BuildAnalysis.Proofs.Analysis.AnalyzerRuns
import BuildAnalysis.Proofs.Analysis.ArgumentTable
import BuildAnalysis.Proofs.Graph.Commands

/-!
# What has to succeed before the first source is analyzed

The command line is read, the graph is loaded, the directory of the results is made, the commands of
all targets are asked for, and the arguments for their compilers are found. Each of these stages is
taken only if the one before it has succeeded, and only if all of them have is the analyzer run. Until
then no process is started but the one that configures the project.

* `prepare_ok`: what is known when everything is prepared.
* `Preparation.on_runAll`: what follows when all stages have succeeded.
* `stopped`: how a run ends when a stage fails.
-/

namespace BuildAnalysis

/-! ## The command line -/

namespace CommandLine

/-- Help is the only refusal without a message. -/
theorem Refusal.message?_eq_none {refusal : Refusal} : refusal.message? = none ↔ refusal = .help := by
  cases refusal with
  | help => simp [message?]
  | _ => simp [message?]

end CommandLine

namespace Settings

open CommandLine (Refusal)

/-- Values of switches are never refused for help. -/
theorem ofValues_error {host : Host} {values : CommandLine.Values} {refusal : Refusal}
    (h : ofValues host values = .error refusal) : refusal ≠ .help := by
  unfold ofValues at h
  simp only at h
  split at h
  · split at h
    · split at h
      · cases h
        simp
      · cases h
    · cases h
      simp
  · cases h
    simp

theorem on_orRefuse {α : Type} (answer : Except Refusal α) (host : Host) :
    (orRefuse answer).on host = (answer.mapError fun refusal => .usage refusal.message?, host) := by
  cases answer with
  | ok a => rfl
  | error refusal => rfl

/-- How the reading of the command line ends: it is refused, for help if that is what it asks for, or
there are settings. Nothing but the console has changed. -/
theorem ofCommandLine_ending (words : List String) (host : Host) :
    ∃ console, ((ofCommandLine words).on host).2 = host.withConsole console ∧
      ((∃ refusal : Refusal,
          ((ofCommandLine words).on host).1 = .error (.usage refusal.message?) ∧
          (refusal = Refusal.help ↔ CommandLine.parse words = .error .help)) ∨
        ∃ settings values, ((ofCommandLine words).on host).1 = .ok settings ∧
          CommandLine.parse words = .ok values) := by
  simp only [ofCommandLine, Action.on_bind, on_orRefuse, Action.on_modify, Action.on_ask]
  cases CommandLine.parse words with
  | error refusal =>
    refine ⟨host.console, rfl, .inl ⟨refusal, rfl, ?_⟩⟩
    rw [Except.error.injEq]
  | ok values =>
    simp only [mapError_ok]
    generalize hshown : ({ host with console := host.console.setVerbosity values.verbosity } : Host) =
      shown
    cases hvalues : ofValues shown values with
    | error refusal =>
      refine ⟨host.console.setVerbosity values.verbosity, hshown.symm, .inl ⟨refusal, rfl, ?_⟩⟩
      simp [ofValues_error hvalues]
    | ok settings =>
      subst hshown
      simp only [mapError_ok]
      split
      · exact ⟨_, rfl, .inr ⟨settings, values, rfl, rfl⟩⟩
      · exact ⟨_, rfl, .inr ⟨settings, values, rfl, rfl⟩⟩

/-- Reading the command line prints messages at most. -/
theorem ofCommandLine_keepsProcesses (words : List String) :
    (ofCommandLine words).KeepsProcesses := by
  intro host
  obtain ⟨console, hafter, -⟩ := ofCommandLine_ending words host
  rw [hafter]
  exact Host.keepsProcesses_withConsole host console

/-- Settings that are not there were refused; help was asked for if there is no message. -/
theorem ofCommandLine_error {words : List String} {host after : Host} {failure : Failure}
    (h : (ofCommandLine words).on host = (.error failure, after)) :
    ∃ message, failure = .usage message ∧
      (message = none ↔ CommandLine.parse words = .error .help) := by
  obtain ⟨console, -, ⟨refusal, hrefused, hhelp⟩ | ⟨settings, values, hok, -⟩⟩ :=
    ofCommandLine_ending words host
  · rw [h] at hrefused
    cases hrefused
    exact ⟨_, rfl, Refusal.message?_eq_none.trans hhelp⟩
  · rw [h] at hok
    cases hok

theorem ofCommandLine_ok {words : List String} {host after : Host} {settings : Settings}
    (h : (ofCommandLine words).on host = (.ok settings, after)) :
    CommandLine.parse words ≠ .error .help := by
  obtain ⟨console, -, ⟨refusal, hrefused, -⟩ | ⟨settings, values, -, hparse⟩⟩ :=
    ofCommandLine_ending words host
  · rw [h] at hrefused
    cases hrefused
  · rw [hparse]
    simp

end Settings

/-! ## Loading -/

namespace BuildGraph

theorem writeQuery_keepsProcesses (api : String) : (writeQuery api).KeepsProcesses :=
  (Action.keepsProcesses_change _ _).bind fun _ => Action.keepsProcesses_change _ _

theorem configuration_eq {host other : Host} (h : host.KeepsProcesses other)
    (program root : String) : configuration program root other = configuration program root host := by
  rw [configuration, configuration, h.absolute_eq]

/-- Loading starts no process but the one that configures the project, and that once at most. -/
theorem load_started (root : String) (cmake : Option String) (host : Host) :
    ((load none root cmake).on host).2.started = host.started ∨
      ∃ program, ((load none root cmake).on host).2.started =
        host.started ++ [configuration program root host] := by
  have hending := load_ending none root cmake host
  generalize (load none root cmake).on host = ended at hending ⊢
  cases hending with
  | refused => exact .inl rfl
  | @notWritten _ _ queried _ hwrite =>
    have hkeeps := writeQuery_keepsProcesses (Path.join root apiDirectory) host
    rw [hwrite] at hkeeps
    exact .inl hkeeps.started
  | @ran program queried after outcome _ hwrite hstart =>
    have hkeeps := writeQuery_keepsProcesses (Path.join root apiDirectory) host
    rw [hwrite] at hkeeps
    have hkeeps : host.KeepsProcesses queried := hkeeps
    have hafter := queried.start_started (configuration program root queried)
    rw [hstart, configuration_eq hkeeps, hkeeps.started] at hafter
    exact .inr ⟨program, hafter⟩

/-- The same after actions that have started no process. -/
theorem load_started_of_keeps {host other : Host} (h : host.KeepsProcesses other) (root : String)
    (cmake : Option String) :
    ((load none root cmake).on other).2.started = host.started ∨ ∃ program root',
      ((load none root cmake).on other).2.started =
        host.started ++ [configuration program root' host] := by
  have hstarted := load_started root cmake other
  rw [h.started] at hstarted
  rcases hstarted with hnone | ⟨program, hone⟩
  · exact .inl hnone
  · rw [configuration_eq h] at hone
    exact .inr ⟨program, root, hone⟩

/-- Loading that succeeds starts the process that configures the project, and no other. -/
theorem load_processes {root : String} {cmake : Option String} {host after : Host}
    {graph : BuildGraph} (h : (load none root cmake).on host = (.ok graph, after)) :
    (∃ program, after.started = host.started ++ [configuration program root host]) ∧
      after.directory = host.directory ∧ after.environment = host.environment ∧
      after.children = host.children.tail := by
  obtain ⟨program, queried, output, -, hwrite, hstart, -⟩ := load_eq_ok h
  have hkeeps := writeQuery_keepsProcesses (Path.join root apiDirectory) host
  rw [hwrite] at hkeeps
  have hkeeps : host.KeepsProcesses queried := hkeeps
  have hafter : after = (queried.start (configuration program root queried)).2 := by rw [hstart]
  subst hafter
  refine ⟨⟨program, ?_⟩, ?_, ?_, ?_⟩
  · rw [Host.start_started, configuration_eq hkeeps, hkeeps.started]
  · rw [Host.start_directory, hkeeps.directory]
  · rw [Host.start_environment, hkeeps.environment]
  · rw [Host.start_children, hkeeps.children]

end BuildGraph

namespace Analysis

/-! ## The directory of the results -/

theorem keepsProcesses_cleaning (results : String) :
    Action.KeepsProcesses (modify fun host =>
      match host.files.locate host.place results with
      | .ok place => { host with files := clean host.files results place }
      | .error _ => host) := by
  intro host
  rw [Action.on_modify]
  split
  · exact Host.keepsProcesses_files host _
  · exact Host.KeepsProcesses.refl host

theorem prepareResults_keepsProcesses (path : String) (cleanReports : Bool) :
    (prepareResults path cleanReports).KeepsProcesses := by
  refine (Action.keepsProcesses_ask _).bind fun results => ?_
  refine (Action.keepsProcesses_change _ _).bind fun _ => ?_
  cases cleanReports with
  | true => exact (keepsProcesses_cleaning results).bind fun _ => Action.keepsProcesses_pure results
  | false => exact Action.keepsProcesses_pure results

theorem prepareResults_failsInside (path : String) (cleanReports : Bool) :
    (prepareResults path cleanReports).FailsInside := by
  refine (Action.failsInside_ask _).bind fun results => ?_
  refine (Action.failsInside_change _ _).bind fun _ => ?_
  cases cleanReports with
  | true => exact fun _ => failsInside_ok results
  | false => exact Action.failsInside_pure results

/-! ## All stages -/

/-- What is prepared when the graph is loaded: the directory of the results, the commands of all
targets, and the arguments for their compilers. -/
def prepare (settings : Settings) (graph : BuildGraph) :
    Action (String × List CompileCommand × ArgumentTable) := do
  let results ← prepareResults settings.resultsDirectory settings.cleanSarif
  let commands ← BuildGraph.commands (some graph) settings.commandOptions
  if commands.isEmpty then Action.report .nothingToAnalyze
  let table ←
    argumentTable commands settings.ruleset.text? settings.workspace settings.commandOptions
  return (results, commands, table)

/-- The exit code of an analysis in which some runs have failed. -/
def codeOf (failures : Nat) : Int :=
  if failures == 0 then 0 else 1

/-- The analyzer is run when everything is prepared. -/
theorem analyze_eq (words : List String) :
    analyze words = (do
      let settings ← Settings.ofCommandLine words
      let graph ← BuildGraph.load none settings.buildDirectory settings.cmake.text?
      let (results, commands, table) ← prepare settings graph
      codeOf <$> runAll commands table results) := by
  unfold analyze prepare
  simp only [bind_assoc, map_eq_pure_bind]
  refine bind_congr fun settings => bind_congr fun graph => bind_congr fun results => ?_
  refine bind_congr fun commands => ?_
  cases commands.isEmpty with
  | true => rfl
  | false =>
    simp only [Bool.false_eq_true, if_false, bind_assoc, pure_bind]
    rfl

theorem prepare_keepsProcesses (settings : Settings) (graph : BuildGraph) :
    (prepare settings graph).KeepsProcesses := by
  have hcommands : (BuildGraph.commands (some graph) settings.commandOptions).KeepsProcesses := by
    intro host
    rw [BuildGraph.commands_after]
    exact Host.KeepsProcesses.refl host
  refine (prepareResults_keepsProcesses _ _).bind fun results => hcommands.bind fun commands => ?_
  have htable : (argumentTable commands settings.ruleset.text? settings.workspace
      settings.commandOptions).KeepsProcesses :=
    (onlyLogs_foldlM_addArguments commands []).keepsProcesses
  split
  · exact (Action.keepsProcesses_report _).bind fun _ => htable.bind fun _ =>
      Action.keepsProcesses_pure _
  · exact htable.bind fun _ => Action.keepsProcesses_pure _

theorem prepare_failsInside (settings : Settings) (graph : BuildGraph) :
    (prepare settings graph).FailsInside := by
  refine (prepareResults_failsInside _ _).bind fun results => ?_
  refine (BuildGraph.commands_failsInside _ _).bind fun commands => ?_
  split
  · exact (Action.failsInside_report _).bind fun _ =>
      (argumentTable_failsInside _ _ _ _).bind fun _ => Action.failsInside_pure _
  · exact (argumentTable_failsInside _ _ _ _).bind fun _ => Action.failsInside_pure _

/-- Whether everything is prepared on a host: every target was read and accepted, the commands are
those of all targets in their order, there are some, and the table has the arguments for the compiler
of each. -/
structure IsPrepared (settings : Settings) (graph : BuildGraph) (host : Host)
    (commands : List CompileCommand) (table : ArgumentTable) : Prop where
  read : ∀ file ∈ graph.targetFiles, ∃ data target,
    Reply.load host file = .ok data ∧ Target.ofReply file data = .ok target
  commands_eq : commands = graph.targetFiles.flatMap fun file =>
    (graph.targetCommands settings.commandOptions host file).commands
  commands_ne_nil : commands ≠ []
  common : ∀ command ∈ commands, ∃ common, table.get? command.compiler.path = some common ∧
    ((commonArguments command.compiler.path settings.ruleset.text? settings.workspace
      settings.commandOptions).on host).1 = .ok common

/-- What is known when everything is prepared: the directory of the results is there, and the rest is
prepared on the host with that directory. -/
theorem prepare_ok {settings : Settings} {graph : BuildGraph} {host ready : Host}
    {results : String} {commands : List CompileCommand} {table : ArgumentTable}
    (h : (prepare settings graph).on host = (.ok (results, commands, table), ready)) :
    ∃ cleared console,
      (prepareResults settings.resultsDirectory settings.cleanSarif).on host =
        (.ok results, cleared) ∧
      IsPrepared settings graph cleared commands table ∧ ready = cleared.withConsole console := by
  obtain ⟨directory, cleared, hresults, hrest⟩ := Action.on_bind_eq_ok.1 h
  obtain ⟨all, same, hcommands, hlast⟩ := Action.on_bind_eq_ok.1 hrest
  have hsame := BuildGraph.commands_after (some graph) settings.commandOptions cleared
  rw [hcommands] at hsame
  have hsame : same = cleared := hsame
  subst hsame
  simp only at hlast
  split at hlast
  · cases hlast
  · rename_i hempty
    obtain ⟨filled, after, htable, hend⟩ := Action.on_bind_eq_ok.1 hlast
    cases hend
    obtain ⟨⟨console, hready⟩, hcommon⟩ := argumentTable_ok htable
    obtain ⟨hread, hall⟩ := BuildGraph.commands_ok (congrArg Prod.fst hcommands)
    refine ⟨same, console, hresults, ⟨?_, hall, by simpa using hempty, hcommon⟩, hready⟩
    intro file hfile
    obtain ⟨target, htarget⟩ := hread file hfile
    obtain ⟨data, hdata, haccepted⟩ := Target.load_eq_ok.1 htarget
    exact ⟨data, target, hdata, haccepted⟩

/-- The stages before the first source is analyzed, when all of them have succeeded. -/
structure Preparation (words : List String) (host : Host) where
  settings : Settings
  /-- The host when the command line is read. -/
  configured : Host
  graph : BuildGraph
  /-- The host when the graph is loaded. -/
  loaded : Host
  results : String
  commands : List CompileCommand
  table : ArgumentTable
  /-- The host before the first source is analyzed. -/
  ready : Host
  on_settings : (Settings.ofCommandLine words).on host = (.ok settings, configured)
  on_graph : (BuildGraph.load none settings.buildDirectory settings.cmake.text?).on configured =
    (.ok graph, loaded)
  on_prepare : (prepare settings graph).on loaded = (.ok (results, commands, table), ready)

variable {words : List String} {host : Host}

/-- When all stages have succeeded the analyzer is run, and its failures tell the exit code. -/
theorem Preparation.on_analyze (p : Preparation words host) :
    (analyze words).on host =
      (((runAll p.commands p.table p.results).on p.ready).1.map codeOf,
        ((runAll p.commands p.table p.results).on p.ready).2) := by
  simp only [analyze_eq, Action.on_bind, p.on_settings, p.on_graph, p.on_prepare, Action.on_map]

/-- How the analyzer is started for the commands, in their order. -/
def Preparation.children (p : Preparation words host) : List Host.Invocation :=
  analyses host p.table p.results {} p.commands

/-- Whether the system can be asked for all of these processes. -/
def Preparation.IsPassable (p : Preparation words host) : Prop :=
  ∀ child ∈ p.children, child.isPassable = true

/-- How the processes end that are started, one after the other. -/
def Preparation.outcomes (p : Preparation words host) : List Host.Outcome :=
  (p.ready.startAll (Host.begun p.children)).1

/-- Until everything is prepared one process is started, the one that configures the project, and the
directory and the environment stay as they are. -/
theorem Preparation.processes (p : Preparation words host) :
    (∃ program, p.ready.started =
        host.started ++ [BuildGraph.configuration program p.settings.buildDirectory host]) ∧
      p.ready.directory = host.directory ∧ p.ready.environment = host.environment ∧
      p.ready.children = host.children.tail := by
  have hconfigured := Settings.ofCommandLine_keepsProcesses words host
  rw [p.on_settings] at hconfigured
  have hconfigured : host.KeepsProcesses p.configured := hconfigured
  obtain ⟨⟨program, hstarted⟩, hdirectory, henvironment, hchildren⟩ :=
    BuildGraph.load_processes p.on_graph
  have hready := prepare_keepsProcesses p.settings p.graph p.loaded
  rw [p.on_prepare] at hready
  have hready : p.loaded.KeepsProcesses p.ready := hready
  refine ⟨⟨program, ?_⟩, ?_, ?_, ?_⟩
  · rw [hready.started, hstarted, BuildGraph.configuration_eq hconfigured, hconfigured.started]
  · rw [hready.directory, hdirectory, hconfigured.directory]
  · rw [hready.environment, henvironment, hconfigured.environment]
  · rw [hready.children, hchildren, hconfigured.children]

/-- When everything is prepared and the system answers, the commands are run up to the first whose
process the system cannot be asked for, and if there is none the answer is the number of those that
fail. -/
theorem Preparation.on_runAll (p : Preparation words host) (hanswered : host.IsAnswered) :
    ∃ console, (runAll p.commands p.table p.results).on p.ready =
      (countOf 0 p.children p.outcomes,
        (p.ready.startAll (Host.begun p.children)).2.withConsole console) := by
  obtain ⟨-, hdirectory, henvironment, hchildren⟩ := p.processes
  obtain ⟨cleared, console, -, hprepared, -⟩ := prepare_ok p.on_prepare
  have hready : p.ready.IsAnswered := by
    intro child hchild
    rw [hchildren] at hchild
    exact hanswered child (List.mem_of_mem_tail hchild)
  have htable : ∀ command ∈ p.commands, (p.table.get? command.compiler.path).isSome = true := by
    intro command hcommand
    obtain ⟨common, hcommon, -⟩ := hprepared.common command hcommand
    rw [hcommon]
    rfl
  have hsame : analyses p.ready p.table p.results {} p.commands = p.children :=
    analyses_congr hdirectory henvironment
  obtain ⟨console, hrun⟩ := runAll_answered htable hready
  rw [hsame] at hrun
  exact ⟨console, hrun⟩

/-- How a run ends in which a stage fails: there is no exit code, and no process was started but the
one that configures the project. -/
structure Stopped (words : List String) (host : Host) : Prop where
  failed : ∃ failure, ((analyze words).on host).1 = .error failure ∧
    (failure.IsInner ∨ ∃ message, failure = .usage message) ∧
    (failure = .usage none ↔ CommandLine.parse words = .error .help)
  started : ((analyze words).on host).2.started = host.started ∨ ∃ program root,
    ((analyze words).on host).2.started =
      host.started ++ [BuildGraph.configuration program root host]

/-- A run that is not stopped by the command line and fails is stopped by what is found. -/
theorem stopped_of_isInner {failure : Failure} {after : Host}
    (hparse : CommandLine.parse words ≠ .error .help)
    (hended : (analyze words).on host = (.error failure, after)) (hinner : failure.IsInner)
    (hstarted : after.started = host.started ∨ ∃ program root, after.started =
      host.started ++ [BuildGraph.configuration program root host]) : Stopped words host := by
  refine ⟨⟨failure, by rw [hended], .inl hinner, ?_⟩, by rw [hended]; exact hstarted⟩
  refine ⟨?_, fun h => absurd h hparse⟩
  rintro rfl
  exact absurd hinner id

/-- A run whose command line is refused is stopped by that. -/
theorem stopped_of_refused {failure : Failure} {after : Host}
    (h : (Settings.ofCommandLine words).on host = (.error failure, after)) :
    Stopped words host := by
  obtain ⟨message, rfl, hhelp⟩ := Settings.ofCommandLine_error h
  have hkeeps := Settings.ofCommandLine_keepsProcesses words host
  rw [h] at hkeeps
  have hended : (analyze words).on host = (.error (.usage message), after) := by
    rw [analyze, Action.on_bind, h]
  refine ⟨⟨.usage message, by rw [hended], .inr ⟨message, rfl⟩, ?_⟩, .inl ?_⟩
  · rw [Failure.usage.injEq]
    exact hhelp
  · rw [hended]
    exact hkeeps.started

/-- A run in which a stage fails is stopped. -/
theorem stopped (h : IsEmpty (Preparation words host)) : Stopped words host := by
  cases hsettings : (Settings.ofCommandLine words).on host with
  | mk answer configured =>
    cases answer with
    | error failure => exact stopped_of_refused hsettings
    | ok settings =>
      have hparse := Settings.ofCommandLine_ok hsettings
      have hconfigured := Settings.ofCommandLine_keepsProcesses words host
      rw [hsettings] at hconfigured
      have hstarted := BuildGraph.load_started_of_keeps hconfigured settings.buildDirectory
        settings.cmake.text?
      have hinner := BuildGraph.load_failsInside none settings.buildDirectory
        settings.cmake.text? configured
      cases hgraph : (BuildGraph.load none settings.buildDirectory
          settings.cmake.text?).on configured with
      | mk answer loaded =>
        rw [hgraph] at hstarted hinner
        cases answer with
        | error failure =>
          have hended : (analyze words).on host = (.error failure, loaded) := by
            simp only [analyze_eq, Action.on_bind, hsettings, hgraph]
          exact stopped_of_isInner hparse hended (hinner failure rfl) hstarted
        | ok graph =>
          have hkeeps := prepare_keepsProcesses settings graph loaded
          have hfails := prepare_failsInside settings graph loaded
          cases hprepare : (prepare settings graph).on loaded with
          | mk answer ready =>
            rw [hprepare] at hkeeps hfails
            cases answer with
            | error failure =>
              have hended : (analyze words).on host = (.error failure, ready) := by
                simp only [analyze_eq, Action.on_bind, hsettings, hgraph, hprepare]
              rw [← hkeeps.started] at hstarted
              exact stopped_of_isInner hparse hended (hfails failure rfl) hstarted
            | ok prepared =>
              exact (h.false ⟨settings, configured, graph, loaded, prepared.1, prepared.2.1,
                prepared.2.2, ready, hsettings, hgraph, hprepare⟩).elim

end Analysis

end BuildAnalysis
