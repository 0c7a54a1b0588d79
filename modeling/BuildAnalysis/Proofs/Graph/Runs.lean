import BuildAnalysis.Graph.Client
import BuildAnalysis.Proofs.Graph.Loading

/-!
# Runs of a client

A client is asked to load and to give commands, in any order and any number of times, while the host
changes in any way in between. What one event does to the graph and to the streams of the client is
said first; what holds after a whole run follows event by event.

* `Client.load_eq`: loading fails before the first attribute is set, or sets them all.
* `Client.load_loaded`, `Client.load_error`: loads that change nothing.
* `Session.exists_load`, `Session.graph_before`: a graph comes from a load, and stays.
* `Session.stream_fresh`, `Session.stream_finished`: a stream begins when it is asked, and ends once.
-/

namespace BuildAnalysis

/-! ## Methods -/

namespace Client

section

variable {α β : Type}

/-- How a method ends, and the client and the host after it. -/
def perform (method : Method α) (client : Client) (host : Host) :
    Except Failure α × Client × Host :=
  method.run.run (client, host)

theorem perform_bind (method : Method α) (rest : α → Method β) (client : Client) (host : Host) :
    perform (method >>= rest) client host =
      match perform method client host with
      | (.ok a, client, host) => perform (rest a) client host
      | (.error failure, client, host) => (.error failure, client, host) := by
  unfold perform ExceptT.run StateT.run
  simp only [bind, ExceptT.bind, ExceptT.mk, StateT.bind, ExceptT.bindCont]
  cases method (client, host) with
  | mk answer after =>
    cases answer with
    | ok a => rfl
    | error failure => rfl

theorem perform_get (client : Client) (host : Host) :
    perform get client host = (.ok (client, host), client, host) := rfl

/-- An action may fail and may change the host, but the client stays as it was. -/
theorem perform_onHost (action : Action α) (client : Client) (host : Host) :
    perform (onHost action) client host =
      ((action.on host).1, client, (action.on host).2) := rfl

/-- An attribute is set without fail, and the host stays as it was. -/
theorem perform_assign (change : Client → Client) (client : Client) (host : Host) :
    perform (assign change) client host = (.ok (), change client, host) := rfl

end

/-! ## Loading -/

variable {client : Client} {root : String} {cmake : Option String} {host after : Host}
  {graph : BuildGraph} {failure : Failure}

/-- A client that has loaded a graph, with the streams of another one. -/
def withGraph (client : Client) (graph : BuildGraph) : Client where
  loaded := true
  toolchains := graph.toolchains
  sourceRoot := graph.sourceRoot
  cache := graph.cache
  targetFiles := graph.targetFiles
  streams := client.streams

@[simp] theorem graph_withGraph (client : Client) (graph : BuildGraph) :
    (client.withGraph graph).graph = some graph := rfl

@[simp] theorem streams_withGraph (client : Client) (graph : BuildGraph) :
    (client.withGraph graph).streams = client.streams := rfl

/-- A client that has a graph is one that has loaded it. -/
theorem withGraph_of_graph (h : client.graph = some graph) : client.withGraph graph = client := by
  cases client with
  | mk loaded toolchains sourceRoot cache targetFiles streams =>
    cases loaded with
    | false => cases h
    | true =>
      cases h
      rfl

/-- The attributes that the replies tell are set without fail. -/
theorem perform_setReplies (graph : BuildGraph) (client : Client) (host : Host) :
    perform (setReplies graph) client host =
      (.ok (), { client.withGraph graph with loaded := client.loaded }, host) := by
  simp only [setReplies, perform_bind, perform_assign, withGraph]

/-- Loading fails before the first attribute is set, or sets them all. -/
theorem load_eq (client : Client) (root : String) (cmake : Option String) (host : Host) :
    client.load root cmake host =
      match (BuildGraph.load client.graph root cmake).on host with
      | (.ok graph, after) => (.ok (), client.withGraph graph, after)
      | (.error failure, after) => (.error failure, client, after) := by
  change perform (loadGraph root cmake) client host = _
  rw [loadGraph, perform_bind, perform_get]
  simp only [perform_bind, perform_onHost]
  cases (BuildGraph.load client.graph root cmake).on host with
  | mk answer after =>
    cases answer with
    | error failure => rfl
    | ok graph =>
      simp only [perform_setReplies, perform_assign]
      rfl

theorem load_of_ok (h : (BuildGraph.load client.graph root cmake).on host = (.ok graph, after)) :
    client.load root cmake host = (.ok (), client.withGraph graph, after) := by
  rw [load_eq, h]

theorem load_of_error
    (h : (BuildGraph.load client.graph root cmake).on host = (.error failure, after)) :
    client.load root cmake host = (.error failure, client, after) := by
  rw [load_eq, h]

/-- Loading leaves the streams alone. -/
theorem load_streams (client : Client) (root : String) (cmake : Option String) (host : Host) :
    (client.load root cmake host).2.1.streams = client.streams := by
  cases hload : (BuildGraph.load client.graph root cmake).on host with
  | mk answer after =>
    cases answer with
    | ok graph => rw [load_of_ok hload, streams_withGraph]
    | error failure => rw [load_of_error hload]

/-- Loading succeeds only if a client that has loaded nothing is given a graph. -/
theorem load_eq_ok (h : (client.load root cmake host).1 = .ok ()) :
    ∃ graph after, client.graph = none ∧
      (BuildGraph.load none root cmake).on host = (.ok graph, after) ∧
      client.load root cmake host = (.ok (), client.withGraph graph, after) := by
  cases hload : (BuildGraph.load client.graph root cmake).on host with
  | mk answer after =>
    cases answer with
    | error failure =>
      rw [load_of_error hload] at h
      cases h
    | ok graph =>
      obtain ⟨_, _, _, hpermitted, -⟩ := BuildGraph.load_eq_ok hload
      have hnone := hpermitted.notLoaded
      refine ⟨graph, after, hnone, ?_, load_of_ok hload⟩
      rwa [hnone] at hload

/-- A load that fails leaves the client as it was. -/
theorem load_error (h : (client.load root cmake host).1 = .error failure) :
    (client.load root cmake host).2.1 = client := by
  cases hload : (BuildGraph.load client.graph root cmake).on host with
  | mk answer after =>
    cases answer with
    | ok graph =>
      rw [load_of_ok hload] at h
      cases h
    | error failure => rw [load_of_error hload]

/-- A client that has a graph refuses to load another one, and does nothing else. -/
theorem load_loaded (h : client.graph.isSome = true) (root : String) (cmake : Option String)
    (host : Host) :
    client.load root cmake host = (.error (.analysis .alreadyLoaded), client, host) := by
  apply load_of_error
  rw [BuildGraph.on_load, BuildGraph.permit, if_pos h]
  rfl

end Client

/-! ## Runs -/

/-- A client and the host that it works on. -/
structure Session where
  client : Client
  host : Host

/-- What may happen: the client is asked for something, or the host changes in any way. -/
inductive Event where
  | load (root : String) (cmake : Option String)
  | openStream (options : CommandOptions)
  | pull (index : Nat) (limit : Option Nat)
  | change (edit : Host → Host)

/-- What the client answers. -/
inductive Answer where
  | loaded (answer : Except Failure Unit)
  | pulled (pull : Option Pull)
  | nothing

namespace Session

/-- The answer to an event, and the session after it. -/
def step (s : Session) : Event → Answer × Session
  | .load root cmake =>
    let (answer, client, host) := s.client.load root cmake s.host
    (.loaded answer, ⟨client, host⟩)
  | .openStream options => (.nothing, ⟨s.client.openStream options, s.host⟩)
  | .pull index limit =>
    let (pull, client) := s.client.pull s.host index limit
    (.pulled pull, ⟨client, s.host⟩)
  | .change edit => (.nothing, ⟨s.client, edit s.host⟩)

/-- The session after events, one after the other. -/
def run (s : Session) (events : List Event) : Session :=
  events.foldl (fun s event => (s.step event).2) s

/-- A client that was not asked for anything yet. -/
def fresh (host : Host) : Session := ⟨{}, host⟩

/-- The session before the event at a position. -/
def before (s : Session) (events : List Event) (i : Nat) : Session :=
  s.run (events.take i)

/-- The answer to an event that comes at a position. -/
def answer (s : Session) (events : List Event) (i : Nat) (event : Event) : Answer :=
  ((s.before events i).step event).1

section

variable {s : Session} {events : List Event} {event : Event} {i j : Nat}

@[simp] theorem before_zero (s : Session) (events : List Event) : s.before events 0 = s := rfl

theorem before_length (s : Session) (events : List Event) :
    s.before events events.length = s.run events := by
  rw [before, List.take_length]

/-- Each event leads from the session before it to that before the next one. -/
theorem before_succ (h : events[i]? = some event) :
    s.before events (i + 1) = ((s.before events i).step event).2 := by
  rw [before, List.take_add_one, h, before, run, List.foldl_append]
  rfl

theorem before_succ_of_none (h : events[i]? = none) :
    s.before events (i + 1) = s.before events i := by
  rw [before, List.take_add_one, h, Option.toList_none, List.append_nil, before]

/-- What holds before an event, and is kept by that event and those after it, holds later on. -/
theorem before_of_le {P : Session → Prop} (hij : i ≤ j) (hi : P (s.before events i))
    (hstep : ∀ m event, i ≤ m → m < j → events[m]? = some event → P (s.before events m) →
      P ((s.before events m).step event).2) :
    P (s.before events j) := by
  induction hij with
  | refl => exact hi
  | @step j hij ih =>
    have hj := ih fun m event him hmj => hstep m event him (Nat.lt_succ_of_lt hmj)
    cases hevent : events[j]? with
    | none => rwa [before_succ_of_none hevent]
    | some event =>
      rw [before_succ hevent]
      exact hstep j event hij (Nat.lt_succ_self j) hevent hj

end

/-! ## The graph -/

section

variable {s : Session} {events : List Event} {i j : Nat} {graph : BuildGraph}

/-- The graph of a client stays the same, or is the one that a load has given it. -/
theorem step_graph (s : Session) (event : Event) :
    (s.step event).2.client.graph = s.client.graph ∨
      ∃ root cmake graph after, event = .load root cmake ∧ s.client.graph = none ∧
        (BuildGraph.load none root cmake).on s.host = (.ok graph, after) ∧
        (s.step event).2.client.graph = some graph := by
  -- no other event touches the graph, and a load that fails does not either
  cases event with
  | load root cmake =>
    cases hanswer : (s.client.load root cmake s.host).1 with
    | error failure =>
      refine Or.inl ?_
      change (s.client.load root cmake s.host).2.1.graph = _
      rw [Client.load_error hanswer]
    | ok u =>
      obtain ⟨graph, after, hnone, hload, heq⟩ := Client.load_eq_ok hanswer
      refine Or.inr ⟨root, cmake, graph, after, rfl, hnone, hload, ?_⟩
      rw [step, heq]
      exact s.client.graph_withGraph graph
  | openStream options => exact Or.inl rfl
  | pull index limit =>
    refine Or.inl ?_
    change (s.client.pull s.host index limit).2.graph = _
    rw [Client.pull]
    split
    · rfl
    · rfl
  | change edit => exact Or.inl rfl

/-- A load that succeeds gives the client a graph. -/
theorem graph_of_loaded {root : String} {cmake : Option String}
    (h : (s.step (.load root cmake)).1 = .loaded (.ok ())) :
    s.client.graph = none ∧ (s.step (.load root cmake)).2.client.graph.isSome = true := by
  have hanswer : (s.client.load root cmake s.host).1 = .ok () := Answer.loaded.inj h
  obtain ⟨graph, after, hnone, -, heq⟩ := Client.load_eq_ok hanswer
  refine ⟨hnone, ?_⟩
  rw [step, heq]
  rfl

/-- A graph that is there stays for ever. -/
theorem graph_before (hij : i ≤ j) (h : (s.before events i).client.graph = some graph) :
    (s.before events j).client.graph = some graph := by
  refine before_of_le (P := fun s => s.client.graph = some graph) hij h fun m event _ _ _ hm => ?_
  rcases step_graph (s.before events m) event with hsame | ⟨_, _, _, _, _, hnone, _, _⟩
  · rw [hsame, hm]
  · rw [hm] at hnone
    cases hnone

/-- A graph comes from a load that the client was asked for when it had none. -/
theorem exists_load (h : s.client.graph = none)
    (hgraph : (s.before events j).client.graph = some graph) :
    ∃ i root cmake after, i < j ∧ events[i]? = some (.load root cmake) ∧
      (s.before events i).client.graph = none ∧
      (BuildGraph.load none root cmake).on (s.before events i).host = (.ok graph, after) := by
  induction j with
  | zero =>
    rw [before_zero, h] at hgraph
    cases hgraph
  | succ j ih =>
    cases hevent : events[j]? with
    | none =>
      rw [before_succ_of_none hevent] at hgraph
      obtain ⟨i, root, cmake, after, hij, hload⟩ := ih hgraph
      exact ⟨i, root, cmake, after, Nat.lt_succ_of_lt hij, hload⟩
    | some event =>
      -- the graph was there before this event, or this event is the load
      rw [before_succ hevent] at hgraph
      rcases step_graph (s.before events j) event with
        hsame | ⟨root, cmake, loaded, after, rfl, hnone, hload, hloaded⟩
      · rw [hsame] at hgraph
        obtain ⟨i, root, cmake, after, hij, hload⟩ := ih hgraph
        exact ⟨i, root, cmake, after, Nat.lt_succ_of_lt hij, hload⟩
      · rw [hloaded] at hgraph
        cases hgraph
        exact ⟨j, root, cmake, after, Nat.lt_succ_self j, hevent, hnone, hload⟩

end

/-! ## The streams -/

section

variable {s : Session} {k : Nat} {options : CommandOptions}

theorem getElem?_openStream (client : Client) (options : CommandOptions) :
    (client.openStream options).streams[client.streams.length]? = some (.fresh options) := by
  rw [Client.openStream, List.getElem?_concat_length]

/-- A stream that commands are asked of gives them, and goes on. -/
theorem step_pull {stream : CommandStream} (h : s.client.streams[k]? = some stream)
    (limit : Option Nat) :
    (s.step (.pull k limit)).1 = .pulled (some (stream.pull s.host s.client.graph limit).1) ∧
      (s.step (.pull k limit)).2.client.streams[k]? =
        some (stream.pull s.host s.client.graph limit).2 := by
  simp only [step, Client.pull, h, true_and]
  rw [List.getElem?_set_self (List.getElem?_eq_some_iff.1 h).1]

/-- A stream that no commands are asked of stays as it is. -/
theorem step_stream {stream : CommandStream} (h : s.client.streams[k]? = some stream)
    (event : Event) :
    (s.step event).2.client.streams[k]? = some stream ∨ ∃ limit, event = .pull k limit := by
  cases event with
  | load root cmake =>
    refine Or.inl ?_
    change (s.client.load root cmake s.host).2.1.streams[k]? = _
    rw [Client.load_streams, h]
  | openStream options =>
    refine Or.inl ?_
    change (s.client.openStream options).streams[k]? = _
    rw [Client.openStream, List.getElem?_append_left (List.getElem?_eq_some_iff.1 h).1, h]
  | change edit => exact Or.inl h
  | pull index limit =>
    by_cases hindex : index = k
    · subst hindex
      exact Or.inr ⟨limit, rfl⟩
    · refine Or.inl ?_
      change (s.client.pull s.host index limit).2.streams[k]? = _
      rw [Client.pull]
      split
      · exact h
      · simp only
        rw [List.getElem?_set_ne hindex, h]

end

section

variable {s : Session} {events : List Event} {i j k : Nat} {options : CommandOptions}

/-- A stream that no command is asked of does not begin. -/
theorem stream_fresh (hij : i ≤ j)
    (h : (s.before events i).client.streams[k]? = some (.fresh options))
    (hquiet : ∀ m limit, i ≤ m → m < j → events[m]? = some (.pull k limit) → limit = some 0) :
    (s.before events j).client.streams[k]? = some (.fresh options) := by
  refine before_of_le (P := fun s => s.client.streams[k]? = some (.fresh options)) hij h
    fun m event him hmj hevent hm => ?_
  rcases step_stream hm event with hsame | ⟨limit, rfl⟩
  · exact hsame
  · rw [(step_pull hm limit).2, hquiet m limit him hmj hevent]
    rfl

/-- A stream that has ended gives nothing more. -/
theorem stream_finished (hij : i ≤ j)
    (h : (s.before events i).client.streams[k]? = some .finished) :
    (s.before events j).client.streams[k]? = some .finished := by
  refine before_of_le (P := fun s => s.client.streams[k]? = some .finished) hij h
    fun m event _ _ _ hm => ?_
  rcases step_stream hm event with hsame | ⟨limit, rfl⟩
  · exact hsame
  · rw [(step_pull hm limit).2]
    rfl

end

end Session

end BuildAnalysis
