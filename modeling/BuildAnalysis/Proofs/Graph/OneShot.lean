import BuildAnalysis.Proofs.Graph.Runs
import BuildAnalysis.Proofs.Toolchain.Resolved

/-!
# A client loads once

After any run a client has nothing, or it has the graph of the one load that has succeeded, as a
whole. Loads that fail change nothing of the client, and those after the one that succeeded change
nothing at all. A stream that was asked too early is at its end for ever.

* `Session.run_oneShot`: the client and its streams after any run.
-/

namespace BuildAnalysis

/-! ## What a client has -/

namespace Client

/-- Whether a client has nothing but what it had at first, apart from streams. -/
structure IsUnloaded (client : Client) : Prop where
  loaded : client.loaded = false
  sourceRoot : client.sourceRoot = .null
  cache : client.cache = []
  targetFiles : client.targetFiles = []
  toolchains : client.toolchains = {}

/-- Whether a client has loaded a graph and has what it tells, and compilers among that. -/
structure Holds (client : Client) (graph : BuildGraph) : Prop where
  loaded : client.loaded = true
  graph_eq : client.graph = some graph
  sourceRoot : client.sourceRoot = graph.sourceRoot
  cache : client.cache = graph.cache
  targetFiles : client.targetFiles = graph.targetFiles
  toolchains : client.toolchains = graph.toolchains
  resolved : client.toolchains.Resolved

theorem isUnloaded_new : IsUnloaded {} :=
  ⟨rfl, rfl, rfl, rfl, rfl⟩

theorem holds {client : Client} {graph : BuildGraph} (h : client.graph = some graph)
    (hresolved : graph.toolchains.Resolved) : client.Holds graph := by
  rw [← withGraph_of_graph h]
  exact ⟨rfl, rfl, rfl, rfl, rfl, rfl, hresolved⟩

end Client

/-! ## After any run -/

namespace Session

section

variable {s : Session} {events : List Event} {i : Nat} {root : String} {cmake : Option String}

/-- Whether one load of a run gives the client its graph: a new client would be given that graph in
its place, and no other load of the run succeeds. -/
structure LoadsAt (s : Session) (events : List Event) (i : Nat) (graph : BuildGraph) : Prop where
  load : ∃ root cmake after, events[i]? = some (.load root cmake) ∧
    Client.load {} root cmake (s.before events i).host = (.ok (), Client.withGraph {} graph, after)
  only : ∀ j root cmake, events[j]? = some (.load root cmake) →
    (s.answer events j (.load root cmake) = .loaded (.ok ()) ↔ j = i)

/-- Whether the stream that is opened at one position of a run is first asked for commands at
another one. -/
structure FirstAsked (s : Session) (events : List Event) (i j k : Nat) (options : CommandOptions)
    (limit : Option Nat) : Prop where
  opened : events[i]? = some (.openStream options)
  index : k = (s.before events i).client.streams.length
  lt : i < j
  asked : events[j]? = some (.pull k limit)
  limit_ne : limit ≠ some 0
  quiet : ∀ m l, i < m → m < j → events[m]? = some (.pull k l) → l = some 0

/-- What is known after any run of a client that was new at first. -/
structure OneShot (host : Host) (events : List Event) : Prop where
  /-- Either every load has failed and the client is as it was at first, or one load has succeeded
  and the client has the graph of that load. -/
  state :
    (((fresh host).run events).client.IsUnloaded ∧ ∀ i root cmake,
      events[i]? = some (.load root cmake) → ∃ failure,
        (fresh host).answer events i (.load root cmake) = .loaded (.error failure)) ∨
    ∃ i graph, (fresh host).LoadsAt events i graph ∧ ((fresh host).run events).client.Holds graph
  /-- A load that fails changes nothing of the client. -/
  failed : ∀ i root cmake failure, events[i]? = some (.load root cmake) →
    (fresh host).answer events i (.load root cmake) = .loaded (.error failure) →
    ((fresh host).before events (i + 1)).client = ((fresh host).before events i).client
  /-- A load after the one that succeeded is refused, and changes nothing of the host either. -/
  refused : ∀ i j root cmake graph, (fresh host).LoadsAt events i graph → i < j →
    events[j]? = some (.load root cmake) →
    ((fresh host).before events j).step (.load root cmake) =
      (.loaded (.error (.analysis .alreadyLoaded)), (fresh host).before events j)
  /-- A stream that is first asked before a graph is loaded fails, and gives nothing ever after. -/
  early : ∀ i j k options limit, (fresh host).FirstAsked events i j k options limit →
    ((fresh host).before events j).client.graph = none →
    (fresh host).answer events j (.pull k limit) =
        .pulled (some ⟨[], false, some (.analysis .notLoaded)⟩) ∧
      ∀ m l, j < m → events[m]? = some (.pull k l) →
        (fresh host).answer events m (.pull k l) = .pulled (some ⟨[], l != some 0, none⟩)
  /-- A stream that is first asked when a graph is loaded gives the commands of that graph. -/
  late : ∀ i j k options limit graph, (fresh host).FirstAsked events i j k options limit →
    ((fresh host).before events j).client.graph = some graph →
    (fresh host).answer events j (.pull k limit) = .pulled (some
      ((CommandStream.fresh options).pull ((fresh host).before events j).host (some graph) limit).1)

/-- A client that has nothing still has nothing after an event, unless it has a graph then. -/
theorem step_isUnloaded (h : s.client.IsUnloaded) {event : Event}
    (hnone : (s.step event).2.client.graph = none) : (s.step event).2.client.IsUnloaded := by
  cases event with
  | load root cmake =>
    change (s.client.load root cmake s.host).2.1.IsUnloaded
    cases hanswer : (s.client.load root cmake s.host).1 with
    | error failure => rwa [Client.load_error hanswer]
    | ok u =>
      obtain ⟨graph, after, -, -, heq⟩ := Client.load_eq_ok hanswer
      rw [step, heq] at hnone
      cases hnone
  | openStream options => exact ⟨h.loaded, h.sourceRoot, h.cache, h.targetFiles, h.toolchains⟩
  | pull index limit =>
    change (s.client.pull s.host index limit).2.IsUnloaded
    rw [Client.pull]
    split
    · exact h
    · exact ⟨h.loaded, h.sourceRoot, h.cache, h.targetFiles, h.toolchains⟩
  | change edit => exact h

/-- So a client that had nothing at first has nothing as long as it has no graph. -/
theorem before_isUnloaded (h : s.client.IsUnloaded)
    (hnone : (s.before events i).client.graph = none) :
    (s.before events i).client.IsUnloaded := by
  refine before_of_le (P := fun s => s.client.graph = none → s.client.IsUnloaded) (i := 0)
    (Nat.zero_le i) (fun _ => h) (fun m event _ _ _ hm hafter => ?_) hnone
  -- a graph would still be there after the event, so there was none before it
  rcases step_graph (s.before events m) event with hsame | ⟨_, _, _, _, -, -, -, hgraph⟩
  · exact step_isUnloaded (hm (hsame.symm.trans hafter)) hafter
  · rw [hgraph] at hafter
    cases hafter

/-- A load fails or succeeds; if it succeeds there is a graph from then on. -/
theorem answer_load (hevent : events[i]? = some (.load root cmake)) :
    (∃ failure, s.answer events i (.load root cmake) = .loaded (.error failure)) ∨
      (s.answer events i (.load root cmake) = .loaded (.ok ()) ∧
        (s.before events i).client.graph = none ∧
        (s.before events (i + 1)).client.graph.isSome = true) := by
  cases hanswer : ((s.before events i).client.load root cmake (s.before events i).host).1 with
  | error failure => exact Or.inl ⟨failure, congrArg Answer.loaded hanswer⟩
  | ok u =>
    have hloaded : s.answer events i (.load root cmake) = .loaded (.ok ()) :=
      congrArg Answer.loaded hanswer
    obtain ⟨hnone, hsome⟩ := graph_of_loaded hloaded
    refine Or.inr ⟨hloaded, hnone, ?_⟩
    rwa [before_succ hevent]

/-- The load that a graph comes from is the only one that succeeds. -/
theorem loadsAt_of_load {graph : BuildGraph} {after : Host}
    (hevent : events[i]? = some (.load root cmake))
    (hnone : (s.before events i).client.graph = none)
    (hload : (BuildGraph.load none root cmake).on (s.before events i).host = (.ok graph, after)) :
    s.LoadsAt events i graph ∧ (s.before events (i + 1)).client.graph = some graph := by
  have hstep : (s.before events i).client.load root cmake (s.before events i).host =
      (.ok (), (s.before events i).client.withGraph graph, after) := by
    apply Client.load_of_ok
    rwa [hnone]
  have hsome : (s.before events (i + 1)).client.graph = some graph := by
    rw [before_succ hevent, step, hstep]
    exact Client.graph_withGraph _ graph
  refine ⟨⟨⟨root, cmake, after, hevent, Client.load_of_ok hload⟩, ?_⟩, hsome⟩
  intro j root' cmake' hj
  constructor
  · intro hanswer
    obtain ⟨hbefore, hafter⟩ := graph_of_loaded hanswer
    rw [← before_succ hj] at hafter
    obtain ⟨graph', hgraph'⟩ := Option.isSome_iff_exists.1 hafter
    -- a load that succeeds before this one leaves a graph, and one after it would need none
    rcases Nat.lt_trichotomy j i with hlt | heq | hgt
    · rw [graph_before (Nat.succ_le_of_lt hlt) hgraph'] at hnone
      cases hnone
    · exact heq
    · rw [graph_before (Nat.succ_le_of_lt hgt) hsome] at hbefore
      cases hbefore
  · rintro rfl
    rw [hevent] at hj
    cases hj
    rw [answer, step, hstep]

theorem LoadsAt.graph_succ {graph : BuildGraph} (h : s.LoadsAt events i graph) :
    (s.before events (i + 1)).client.graph.isSome = true := by
  obtain ⟨root, cmake, after, hevent, -⟩ := h.load
  have hanswer := (h.only i root cmake hevent).2 rfl
  rw [before_succ hevent]
  exact (graph_of_loaded hanswer).2

/-- A stream has not begun when it is first asked for commands. -/
theorem FirstAsked.fresh {j k : Nat} {options : CommandOptions} {limit : Option Nat}
    (h : s.FirstAsked events i j k options limit) :
    (s.before events j).client.streams[k]? = some (.fresh options) := by
  refine stream_fresh (Nat.succ_le_of_lt h.lt) ?_ fun m l him => h.quiet m l him
  rw [before_succ h.opened, h.index]
  exact getElem?_openStream _ options

/-- The graph that was loaded has compilers. -/
theorem resolved_of_load {graph : BuildGraph} {host after : Host}
    (h : (BuildGraph.load none root cmake).on host = (.ok graph, after)) :
    graph.toolchains.Resolved := by
  obtain ⟨_, _, _, -, -, -, hreplies⟩ := BuildGraph.load_eq_ok h
  obtain ⟨_, -, -, hgraph⟩ := BuildGraph.ofReplies_ok hreplies
  rcases hgraph.toolchains with ⟨data, -, hreply⟩ | ⟨-, hcache⟩
  · exact Toolchains.ofReply_resolved hreply
  · exact Toolchains.ofCache_resolved hcache

/-- However a client is used, it loads at most once, and as a whole. -/
theorem run_oneShot (host : Host) (events : List Event) : OneShot host events := by
  constructor
  case state =>
    rw [← before_length]
    cases hgraph : ((fresh host).before events events.length).client.graph with
    | none =>
      refine Or.inl ⟨before_isUnloaded Client.isUnloaded_new hgraph, fun i root cmake hevent => ?_⟩
      -- a load that had succeeded would have left a graph up to the end
      rcases answer_load (s := fresh host) hevent with hfailed | ⟨-, -, hsome⟩
      · exact hfailed
      · obtain ⟨graph, hsome⟩ := Option.isSome_iff_exists.1 hsome
        have hi : i < events.length := (List.getElem?_eq_some_iff.1 hevent).1
        rw [graph_before (Nat.succ_le_of_lt hi) hsome] at hgraph
        cases hgraph
    | some graph =>
      obtain ⟨i, root, cmake, after, -, hevent, hnone, hload⟩ := exists_load rfl hgraph
      exact Or.inr ⟨i, graph, (loadsAt_of_load hevent hnone hload).1,
        Client.holds hgraph (resolved_of_load hload)⟩
  case failed =>
    intro i root cmake failure hevent hanswer
    rw [before_succ hevent]
    exact Client.load_error (Answer.loaded.inj hanswer)
  case refused =>
    intro i j root cmake graph hloads hij hevent
    obtain ⟨graph', hgraph'⟩ := Option.isSome_iff_exists.1 hloads.graph_succ
    have hj := graph_before (Nat.succ_le_of_lt hij) hgraph'
    rw [step, Client.load_loaded (by rw [hj, Option.isSome_some])]
  case early =>
    intro i j k options limit hasked hnone
    obtain ⟨hanswer, hstream⟩ := step_pull hasked.fresh limit
    have hpull : (CommandStream.fresh options).pull ((fresh host).before events j).host
        ((fresh host).before events j).client.graph limit =
          CommandStream.refuse (.analysis .notLoaded) := by
      rw [hnone, CommandStream.pull, if_neg (by simpa using hasked.limit_ne)]
    rw [hpull] at hanswer hstream
    refine ⟨hanswer, fun m l hjm hevent => ?_⟩
    -- the stream ended with the failure, and so it is at an end whenever it is asked again
    rw [← before_succ hasked.asked] at hstream
    exact (step_pull (stream_finished (Nat.succ_le_of_lt hjm) hstream) l).1
  case late =>
    intro i j k options limit graph hasked hgraph
    rw [← hgraph]
    exact (step_pull hasked.fresh limit).1

end

end Session

end BuildAnalysis
