import BuildAnalysis.Proofs.Graph.Alike
import BuildAnalysis.Proofs.Graph.LastResponses

/-!
# The source directory of a loaded graph

A codemodel reply that does not tell a source directory is refused. What it tells is not looked at:
the graph has any value for its source directory, and only the streams of commands find out whether it
is a path. A stream stops at once if it is null. If it is no string, there is no command. Which string
it is does not matter for anything but the sources of the commands.

* `Session.run_sourceRoot`: the source directory in any run of a client.
* `Session.sourceRoot_null`: a run in which the source directory is null.
-/

namespace BuildAnalysis

/-! ## Values that are no paths -/

section

variable {target : Target} {root : Json} {compilers : Compilers} {options : CommandOptions}

/-- Without a path for the source directory no source is found. -/
theorem Target.source_of_not_text (h : ¬ root.IsText) (target : Target) (index : Int) :
    ∃ fault, target.source root index = .error fault := by
  rw [source]
  cases target.sourceAt index with
  | error fault => exact ⟨fault, rfl⟩
  | ok source =>
    cases root with
    | string text => exact absurd rfl h
    | _ => exact ⟨_, rfl⟩

/-- So there is no command either. -/
theorem Target.commands_of_not_text (h : ¬ root.IsText) (target : Target) (compilers : Compilers)
    (options : CommandOptions) : (target.commands root compilers options).commands = [] := by
  have hgroup (group : CompileGroup) :
      (target.groupCommands root compilers options group).commands = [] := by
    unfold groupCommands
    split
    · rfl
    · rfl
    · split
      · rfl
      · cases group.sourceIndexes with
        | nil => rfl
        | cons index rest =>
          obtain ⟨fault, hfault⟩ := source_of_not_text h target (index.integer?.getD 0)
          rw [commandsAt, hfault]
          rfl
  rw [commands]
  induction target.groups with
  | nil => rfl
  | cons group rest ih =>
    rw [List.foldr_cons]
    cases hfailure : (target.groupCommands root compilers options group).failure with
    | some failure => rw [Stretch.append_of_failure hfailure, hgroup]
    | none => rw [Stretch.append_of_none hfailure, hgroup, ih, List.append_nil]

/-- Between two paths for the source directory only the sources tell a difference. -/
theorem Target.source_map_unit (target : Target) (root other : String) (index : Int) :
    (target.source (.string other) index).map (fun _ => ()) =
      (target.source (.string root) index).map (fun _ => ()) := by
  rw [source, source]
  simp only [Json.path, bind, Except.bind, pure, Except.pure]
  cases target.sourceAt index with
  | error fault => simp only [Except.map]
  | ok source =>
    cases source with
    | string path => simp only [Except.map]
    | _ => simp only [Except.map]

end

/-! ## What holds of all pieces -/

variable {P : CompileCommand → Prop} {Q : Failure → Prop}

/-- Whether something holds of all commands of a stretch, and of its failure. -/
structure Stretch.All (P : CompileCommand → Prop) (Q : Failure → Prop) (stretch : Stretch) :
    Prop where
  commands : ∀ command ∈ stretch.commands, P command
  failure : ∀ failure, stretch.failure = some failure → Q failure

/-- Whether something holds of all commands of a piece, and of its failure. -/
structure Pull.All (P : CompileCommand → Prop) (Q : Failure → Prop) (pull : Pull) : Prop where
  commands : ∀ command ∈ pull.commands, P command
  failure : ∀ failure, pull.failure = some failure → Q failure

namespace Feed

variable {σ : Type} {read : σ → Stretch}

/-- What holds of all that a feed has ready and of all targets holds of a piece, and of what the feed
has ready after it. -/
theorem pullFrom_all (hread : ∀ target, (read target).All P Q) (limit : Option Nat)
    (ready : List CompileCommand) (failure : Option Failure) (pending : List σ)
    (h : (⟨ready, failure⟩ : Stretch).All P Q) :
    (pullFrom read limit ready failure pending).1.All P Q ∧
      (⟨(pullFrom read limit ready failure pending).2.ready,
        (pullFrom read limit ready failure pending).2.failure⟩ : Stretch).All P Q := by
  have hempty : ({} : Stretch).All P Q :=
    ⟨fun command hcommand => absurd hcommand List.not_mem_nil, fun failure h => by cases h⟩
  fun_induction pullFrom read limit ready failure pending with
  | case1 pending limit ready failure hlimit n =>
    refine ⟨⟨fun command hcommand => ?_, fun failure h => by cases h⟩,
      ⟨fun command hcommand => ?_, h.failure⟩⟩
    · exact h.commands command (List.mem_of_mem_take hcommand)
    · exact h.commands command (List.mem_of_mem_drop hcommand)
  | case2 pending limit ready hlimit failure => exact ⟨⟨h.commands, h.failure⟩, hempty⟩
  | case3 limit ready hlimit => exact ⟨⟨h.commands, fun failure h => by cases h⟩, hempty⟩
  | case4 limit ready hlimit target rest stretch pull feed hpull ih =>
    obtain ⟨hpiece, hfeed⟩ := ih ⟨(hread target).commands, (hread target).failure⟩
    rw [hpull] at hpiece hfeed
    refine ⟨⟨fun command hcommand => ?_, hpiece.failure⟩, hfeed⟩
    rcases List.mem_append.1 hcommand with hcommand | hcommand
    · exact h.commands command hcommand
    · exact hpiece.commands command hcommand

end Feed

/-- Targets never fail for want of a source directory: a value in its place that is no path is the
fault of the one who uses it. -/
theorem BuildGraph.targetCommands_failure_ne {graph : BuildGraph} {options : CommandOptions}
    {host : Host} {file : String} {failure : Failure}
    (h : (graph.targetCommands options host file).failure = some failure) :
    failure ≠ .noSourceRoot := by
  have hload : Reply.load host file ≠ .error .noSourceRoot := by
    intro hload
    rw [Reply.load] at hload
    split at hload
    · cases hload
    · split at hload
      · cases hload
      · split at hload
        · rename_i e he
          cases e <;> cases hload
        · rename_i bytes hbytes
          cases hread : Json.readBytes bytes host.maxDepth with
          | ok data =>
            rw [hread] at hload
            cases hload
          | error fault =>
            rw [hread, mapError_error] at hload
            cases fault <;> cases hload
  rintro rfl
  rw [targetCommands] at h
  split at h
  · rename_i other hother
    cases h
    exact hload hother
  · split at h
    · cases h
    · obtain ⟨fault, hfault⟩ := Target.commands_failure h
      cases hfault

/-! ## Streams of a loaded graph -/

namespace Session

variable {s : Session} {events rest : List Event} {event : Event} {k : Nat} {graph : BuildGraph}
  {options : CommandOptions} {feed : Feed String}

/-- What holds of all targets of a graph, at any time, holds of the pieces of its streams. -/
theorem given_all (hroot : graph.sourceRoot ≠ .null)
    (htargets : ∀ host file, (graph.targetCommands options host file).All P Q)
    (hcarries : s.Carries k graph options feed)
    (hfeed : (⟨feed.ready, feed.failure⟩ : Stretch).All P Q) :
    ∀ piece ∈ s.given k events, piece.All P Q := by
  induction events generalizing s feed with
  | nil => exact fun piece hpiece => absurd hpiece List.not_mem_nil
  | cons event rest ih =>
    cases hevent : event.limit? k with
    | none =>
      rw [given_of_none hevent]
      exact ih (hcarries.step hevent) hfeed
    | some limit =>
      obtain rfl := Event.limit?_eq_some.1 hevent
      obtain ⟨hanswer, hafter⟩ := hcarries.step_pull hroot limit
      obtain ⟨hpiece, hnext⟩ := Feed.pullFrom_all (htargets s.host) limit feed.ready feed.failure
        feed.pending hfeed
      rw [given_of_pull hanswer]
      exact List.forall_mem_cons.2 ⟨hpiece, ih hafter hnext⟩

/-- The pieces of a stream whose graph has no source directory: it stops when it is first asked for a
command, and is at its end from then on. -/
def refusals : List (Option Nat) → List Pull
  | [] => []
  | limit :: rest =>
    if limit = some 0 then ⟨[], false, none⟩ :: refusals rest
    else ⟨[], false, some .noSourceRoot⟩ :: rest.map fun limit => ⟨[], limit != some 0, none⟩

/-- A stream at its end tells its end whenever it is asked for a command. -/
theorem given_of_finished (h : s.client.streams[k]? = some .finished) :
    s.given k events = (asked k events).map fun limit => ⟨[], limit != some 0, none⟩ := by
  induction events generalizing s with
  | nil => rfl
  | cons event rest ih =>
    cases hevent : event.limit? k with
    | none =>
      have hasked : asked k (event :: rest) = asked k rest := List.filterMap_cons_none hevent
      rw [given_of_none hevent, hasked]
      rcases step_stream h event with hsame | ⟨limit, rfl⟩
      · exact ih hsame
      · rw [Event.limit?_eq_some.2 rfl] at hevent
        cases hevent
    | some limit =>
      have hasked : asked k (event :: rest) = limit :: asked k rest :=
        List.filterMap_cons_some hevent
      obtain rfl := Event.limit?_eq_some.1 hevent
      obtain ⟨hanswer, hafter⟩ := step_pull h limit
      rw [given_of_pull hanswer, hasked, List.map_cons, ih hafter]
      rfl

/-- A stream whose graph has no source directory stops when it is first asked for a command. -/
theorem given_of_null (hgraph : s.client.graph = some graph) (hroot : graph.sourceRoot = .null)
    (h : s.client.streams[k]? = some (.fresh options)) :
    s.given k events = refusals (asked k events) := by
  induction events generalizing s with
  | nil => rfl
  | cons event rest ih =>
    cases hevent : event.limit? k with
    | none =>
      have hasked : asked k (event :: rest) = asked k rest := List.filterMap_cons_none hevent
      rw [given_of_none hevent, hasked]
      rcases step_stream h event with hsame | ⟨limit, rfl⟩
      · exact ih (step_loaded hgraph event) hsame
      · rw [Event.limit?_eq_some.2 rfl] at hevent
        cases hevent
    | some limit =>
      have hasked : asked k (event :: rest) = limit :: asked k rest :=
        List.filterMap_cons_some hevent
      obtain rfl := Event.limit?_eq_some.1 hevent
      obtain ⟨hanswer, hafter⟩ := step_pull h limit
      rw [given_of_pull hanswer, hasked, refusals]
      rw [hgraph] at hafter ⊢
      by_cases hlimit : limit = some 0
      · subst hlimit
        rw [if_pos rfl, ih (step_loaded hgraph _) hafter]
        rfl
      · rw [CommandStream.pull_fresh_null hroot hlimit] at hafter ⊢
        rw [if_neg hlimit, given_of_finished hafter]
        rfl

/-- The failure is among the pieces if a command is asked for at all. -/
theorem exists_refusal {limits : List (Option Nat)} :
    (∃ piece ∈ refusals limits, piece.failure = some .noSourceRoot) ↔
      ∃ limit ∈ limits, limit ≠ some 0 := by
  induction limits with
  | nil => simp [refusals]
  | cons limit rest ih =>
    by_cases hlimit : limit = some 0
    · simp [refusals, hlimit, ih]
    · simp [refusals, hlimit]

/-- Pieces without a source directory hold no commands. -/
theorem commands_of_mem_refusals {limits : List (Option Nat)} {piece : Pull}
    (h : piece ∈ refusals limits) : piece.commands = [] := by
  induction limits with
  | nil => exact absurd h List.not_mem_nil
  | cons limit rest ih =>
    rw [refusals] at h
    split at h
    · rcases List.mem_cons.1 h with rfl | h
      · rfl
      · exact ih h
    · rcases List.mem_cons.1 h with rfl | h
      · rfl
      · obtain ⟨limit, -, rfl⟩ := List.mem_map.1 h
        rfl

/-- A stream that has not begun carries the targets of the graph. -/
theorem carries_fresh (hgraph : s.client.graph = some graph)
    (hstream : s.client.streams[k]? = some (.fresh options)) :
    s.Carries k graph options { pending := graph.targetFiles } :=
  ⟨hgraph, .fresh options, hstream, .fresh⟩

/-- A stream of a graph stops for want of a source directory exactly if that is null and a command is
asked for. -/
theorem exists_noSourceRoot_iff (hgraph : s.client.graph = some graph)
    (hstream : s.client.streams[k]? = some (.fresh options)) (events : List Event) :
    (∃ piece ∈ s.given k events, piece.failure = some .noSourceRoot) ↔
      graph.sourceRoot = .null ∧ ∃ limit ∈ asked k events, limit ≠ some 0 := by
  by_cases hroot : graph.sourceRoot = .null
  · rw [given_of_null hgraph hroot hstream, exists_refusal]
    exact ⟨fun h => ⟨hroot, h⟩, fun h => h.2⟩
  · have hall : ∀ piece ∈ s.given k events, piece.All (fun _ => True) (· ≠ .noSourceRoot) :=
      given_all hroot
        (fun host file => ⟨fun _ _ => trivial, fun failure h =>
          BuildGraph.targetCommands_failure_ne h⟩)
        (carries_fresh hgraph hstream) ⟨fun _ _ => trivial, fun failure h => by cases h⟩
    constructor
    · rintro ⟨piece, hpiece, hfailure⟩
      exact absurd rfl ((hall piece hpiece).failure _ hfailure)
    · exact fun h => absurd h.1 hroot

/-- Without a path for the source directory there is no command in any piece. -/
theorem commands_of_not_text (hgraph : s.client.graph = some graph)
    (hroot : ¬ graph.sourceRoot.IsText) (hstream : s.client.streams[k]? = some (.fresh options))
    (events : List Event) : ∀ piece ∈ s.given k events, piece.commands = [] := by
  by_cases hnull : graph.sourceRoot = .null
  · rw [given_of_null hgraph hnull hstream]
    exact fun piece hpiece => commands_of_mem_refusals hpiece
  · have htargets (host : Host) (file : String) :
        (graph.targetCommands options host file).commands = [] := by
      rw [BuildGraph.targetCommands]
      split
      · rfl
      · split
        · rfl
        · exact Target.commands_of_not_text hroot _ _ _
    have hall : ∀ piece ∈ s.given k events, piece.All (fun _ => False) (fun _ => True) :=
      given_all hnull
        (fun host file => ⟨fun command h => (by rw [htargets] at h; cases h), fun _ _ => trivial⟩)
        (carries_fresh hgraph hstream)
        ⟨fun command h => absurd h List.not_mem_nil, fun _ _ => trivial⟩
    exact fun piece hpiece => List.eq_nil_iff_forall_not_mem.2 (hall piece hpiece).commands

end Session

/-! ## Another text for the source directory -/

/-- A graph with another value for its source directory. -/
def BuildGraph.withRoot (graph : BuildGraph) (root : Json) : BuildGraph :=
  { graph with sourceRoot := root }

/-- Graphs that differ in the text of the source directory look alike, apart from the sources of their
commands. -/
theorem BuildGraph.alike_withRoot {graph : BuildGraph} {root : String}
    (h : graph.sourceRoot = .string root) (other : String) :
    graph.Alike (CompileCommand.seen (fun _ => ()) id) (graph.withRoot (.string other)) := by
  have hother : (graph.withRoot (.string other)).sourceRoot = .string other := rfl
  refine alike_of_seen rfl ?_ (fun target index => ?_) fun language => rfl
  · rw [hother, h]
    simp only [reduceCtorEq]
  · rw [hother, h]
    exact Target.source_map_unit target root other index

namespace Session

variable {s s' : Session} {events : List Event} {k : Nat} {graph : BuildGraph}
  {options : CommandOptions}

/-- A session whose client has another value for the source directory. -/
def withRoot (s : Session) (root : Json) : Session :=
  { s with client := { s.client with sourceRoot := root } }

theorem graph_withRoot (h : s.client.graph = some graph) (root : Json) :
    (s.withRoot root).client.graph = some (graph.withRoot root) := by
  change ({ s.client with sourceRoot := root } : Client).graph = _
  rw [← Client.withGraph_of_graph h]
  rfl

/-- The host of a client that has a graph changes by itself alone. -/
theorem step_host (h : s.client.graph = some graph) (event : Event) :
    (s.step event).2.host = match event with
      | .change edit => edit s.host
      | _ => s.host := by
  cases event with
  | load root cmake =>
    have hsome : s.client.graph.isSome = true := by rw [h, Option.isSome_some]
    change (s.client.load root cmake s.host).2.2 = _
    rw [Client.load_loaded hsome]
  | _ => rfl

/-- So two clients that have graphs stay on the same host. -/
theorem before_host_eq {graph' : BuildGraph} (h : s.client.graph = some graph)
    (h' : s'.client.graph = some graph') (hhost : s'.host = s.host) (events : List Event) (m : Nat) :
    (s'.before events m).host = (s.before events m).host := by
  induction m with
  | zero => exact hhost
  | succ m ih =>
    cases hevent : events[m]? with
    | none => rw [before_succ_of_none hevent, before_succ_of_none hevent, ih]
    | some event =>
      have hbefore : (s.before events m).client.graph = some graph :=
        graph_before (Nat.zero_le m) h
      have hbefore' : (s'.before events m).client.graph = some graph' :=
        graph_before (Nat.zero_le m) h'
      rw [before_succ hevent, before_succ hevent, step_host hbefore, step_host hbefore', ih]

/-- Which text the source directory is tells no difference but in the sources of the commands. -/
theorem given_withRoot {root : String} (hgraph : s.client.graph = some graph)
    (hroot : graph.sourceRoot = .string root)
    (hstream : s.client.streams[k]? = some (.fresh options)) (other : String)
    (events : List Event) :
    ((s.withRoot (.string other)).given k events).map
        (·.seen (CompileCommand.seen (fun _ => ()) id)) =
      (s.given k events).map (·.seen (CompileCommand.seen (fun _ => ()) id)) := by
  have hgraph' : (s.withRoot (.string other)).client.graph =
      some (graph.withRoot (.string other)) :=
    graph_withRoot hgraph (.string other)
  refine given_alike (BuildGraph.alike_withRoot hroot other)
    ⟨hgraph, hgraph', _, _, hstream, hstream, .fresh⟩ fun m file _ => ?_
  rw [before_host_eq hgraph hgraph' rfl]

end Session

/-! ## Codemodel replies without a source directory -/

namespace BuildGraph

/-- Whether the codemodel reply of a host tells no source directory, while the index and the cache
reply can be used. -/
structure LacksSource (host : Host) (api : String) : Prop where
  replies : ∃ index list cacheReply cache codemodelReply, HasResponses host api index list ∧
    IsSupported index ∧ HoldsReply host api list "cache" cacheReply ∧
    cacheOfReply cacheReply = .ok cache ∧ HoldsReply host api list "codemodel" codemodelReply ∧
    ∀ paths, codemodelReply.find "paths" = some paths → paths.find "source" = none

/-- Such a reply is refused. -/
theorem LacksSource.ofReplies_eq {host : Host} {api : String} (h : LacksSource host api) :
    ∃ path fault, ofReplies host api =
      .error (.analysis (.replyUnexpected (.codemodel path) fault)) := by
  obtain ⟨index, list, cacheReply, cache, reply, hresponses, hsupported,
    ⟨cacheName, hcacheName, hcacheLoad⟩, hcache, ⟨name, hname, hload⟩, hlacks⟩ := h.replies
  have hread : readReply host (.cache (Path.join (Reply.directory api) cacheName))
      (Path.join (Reply.directory api) cacheName) cacheOfReply = .ok cache :=
    readReply_eq_ok.2 ⟨_, hcacheLoad, hcache⟩
  refine ⟨Path.join (Reply.directory api) name, ?_⟩
  cases hask : codemodelOfReply (Reply.directory api) reply with
  | ok codemodel =>
    obtain ⟨paths, hpaths, hsource⟩ := (codemodelOfReply_ok hask).sourceRoot
    rw [hlacks paths hpaths] at hsource
    cases hsource
  | error fault =>
    have hrefused : readReply host (.codemodel (Path.join (Reply.directory api) name))
        (Path.join (Reply.directory api) name) (codemodelOfReply (Reply.directory api)) =
          .error (.analysis
            (.replyUnexpected (.codemodel (Path.join (Reply.directory api) name)) fault)) := by
      rw [readReply, hload]
      simp only [bind, Except.bind, hask]
      rfl
    refine ⟨fault, ?_⟩
    rw [hresponses.ofReplies_eq, checkVersion_eq_ok.2 hsupported, ofPaths, hcacheName, hname]
    simp only [Option.map_some, hread, hrefused]
    rfl

end BuildGraph

/-! ## Any run -/

namespace Session

/-- What is known of the source directory in a run of a client that was new at first. -/
structure SourceRoots (host : Host) (events : List Event) : Prop where
  /-- A graph has the value for its source directory that the codemodel reply tells of which it was
  made, whatever value that is. -/
  told : ∀ j graph, ((fresh host).before events j).client.graph = some graph →
    ∃ i root cmake after index reply paths, i < j ∧ events[i]? = some (.load root cmake) ∧
      (BuildGraph.load none root cmake).on ((fresh host).before events i).host =
        (.ok graph, after) ∧
      Reply.IsIndexOf after (Path.join root BuildGraph.apiDirectory) index ∧
      BuildGraph.ReplyHolds after (Reply.directory (Path.join root BuildGraph.apiDirectory)) index
        "codemodel" reply ∧
      reply.find "paths" = some paths ∧ paths.find "source" = some graph.sourceRoot
  /-- Loading fails, as an error of the codemodel reply, when that tells no source directory. -/
  untold : ∀ i root cmake after, events[i]? = some (.load root cmake) →
    BuildGraph.Configures ((fresh host).before events i).client.graph root cmake
      ((fresh host).before events i).host after →
    BuildGraph.LacksSource after (Path.join root BuildGraph.apiDirectory) →
    ∃ path fault, (fresh host).answer events i (.load root cmake) =
      .loaded (.error (.analysis (.replyUnexpected (.codemodel path) fault)))
  /-- A stream of a graph stops for want of a source directory when that is null and a command is
  asked for, and never else. -/
  null : ∀ j k graph options rest, ((fresh host).before events j).client.graph = some graph →
    ((fresh host).before events j).client.streams[k]? = some (.fresh options) →
    ((∃ piece ∈ ((fresh host).before events j).given k rest, piece.failure = some .noSourceRoot) ↔
      graph.sourceRoot = .null ∧ ∃ limit ∈ asked k rest, limit ≠ some 0)
  /-- A stream of a graph gives no command when the source directory is no string. -/
  noText : ∀ j k graph options rest, ((fresh host).before events j).client.graph = some graph →
    ((fresh host).before events j).client.streams[k]? = some (.fresh options) →
    ¬ graph.sourceRoot.IsText →
    ∀ piece ∈ ((fresh host).before events j).given k rest, piece.commands = []
  /-- When the source directory is a string no failure comes from it: with any other string a stream
  would give as many commands, with the same arguments, and would fail in the same way. -/
  text : ∀ j k graph options rest root other,
    ((fresh host).before events j).client.graph = some graph →
    ((fresh host).before events j).client.streams[k]? = some (.fresh options) →
    graph.sourceRoot = .string root →
    ((((fresh host).before events j).withRoot (.string other)).given k rest).map
        (·.seen (CompileCommand.seen (fun _ => ()) id)) =
      (((fresh host).before events j).given k rest).map
        (·.seen (CompileCommand.seen (fun _ => ()) id))

/-- The source directory of a graph is the value that the codemodel reply tells. Whether it is a path
is found out by the streams: null stops them, and without a string there are no commands. -/
theorem run_sourceRoot (host : Host) (events : List Event) : SourceRoots host events where
  told j graph hgraph := by
    obtain ⟨i, root, cmake, after, hij, hevent, -, hload⟩ := exists_load rfl hgraph
    obtain ⟨-, hloaded⟩ := BuildGraph.load_isLoaded hload
    obtain ⟨index, hindex, -, hgraphOf⟩ := hloaded.indexAfter
    obtain ⟨reply, hreply, hcodemodel⟩ := hgraphOf.codemodel
    obtain ⟨paths, hpaths, hsource⟩ := hcodemodel.sourceRoot
    exact ⟨i, root, cmake, after, index, reply, paths, hij, hevent, hload, hindex, hreply, hpaths,
      hsource⟩
  untold i root cmake after hevent hconfigures hlacks := by
    obtain ⟨path, fault, hreplies⟩ := hlacks.ofReplies_eq
    have hload := hconfigures.on_load
    rw [hreplies] at hload
    refine ⟨path, fault, ?_⟩
    rw [answer, step, Client.load_of_error hload]
  null j k graph options rest hgraph hstream := exists_noSourceRoot_iff hgraph hstream rest
  noText j k graph options rest hgraph hstream hroot :=
    commands_of_not_text hgraph hroot hstream rest
  text j k graph options rest root other hgraph hstream hroot :=
    given_withRoot hgraph hroot hstream other rest

/-- The host of the sample with a codemodel reply whose source directory is null. -/
def nullHost : Host :=
  { BuildGraph.sampleHost with
    files := BuildGraph.sampleHost.files.put (BuildGraph.replyPlace "m") (BuildGraph.replyFile
      (.object [("paths", .object [("source", .null)]), ("configurations", .array [.object []])])) }

/-- A run in which the project is loaded, and then a stream is asked for its commands. -/
def nullEvents : List Event :=
  [.load "/b" none, .openStream {}, .pull 0 none]

/-- In this run the stream stops if the graph has no source directory. -/
theorem answer_nullEvents {host : Host} {graph : BuildGraph}
    (hgraph : ((fresh host).before nullEvents 2).client.graph = some graph)
    (hroot : graph.sourceRoot = .null) :
    (fresh host).answer nullEvents 2 (.pull 0 none) =
      .pulled (some ⟨[], false, some .noSourceRoot⟩) := by
  have hfirst : nullEvents[0]? = some (.load "/b" none) := rfl
  have hsecond : nullEvents[1]? = some (.openStream {}) := rfl
  have hnone : ((fresh host).before nullEvents 1).client.streams = [] := by
    rw [before_succ hfirst]
    exact Client.load_streams {} "/b" none host
  have hopened := getElem?_openStream ((fresh host).before nullEvents 1).client {}
  rw [hnone] at hopened
  have hstream : ((fresh host).before nullEvents 2).client.streams[0]? = some (.fresh {}) := by
    rw [before_succ hsecond]
    exact hopened
  have hlimit : (none : Option Nat) ≠ some 0 := by simp
  rw [answer, (step_pull hstream none).1, hgraph, CommandStream.pull_fresh_null hroot hlimit]
  rfl

theorem sourceRoot_null : ∃ graph,
    ((fresh nullHost).before nullEvents 2).client.graph = some graph ∧ graph.sourceRoot = .null ∧
      (fresh nullHost).answer nullEvents 2 (.pull 0 none) =
        .pulled (some ⟨[], false, some .noSourceRoot⟩) := by
  have hnull : ((fresh nullHost).before nullEvents 2).client.graph.map (·.sourceRoot) =
      some .null := by
    decide +kernel
  obtain ⟨graph, hgraph, hroot⟩ := Option.map_eq_some_iff.1 hnull
  exact ⟨graph, hgraph, hroot, answer_nullEvents hgraph hroot⟩

end Session

end BuildAnalysis
