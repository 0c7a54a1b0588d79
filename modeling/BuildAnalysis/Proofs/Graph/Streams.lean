import BuildAnalysis.Proofs.Graph.Commands
import BuildAnalysis.Proofs.Graph.Runs
import BuildAnalysis.Proofs.Target.Pieces
import BuildAnalysis.Proofs.Target.Usable

/-!
# What the streams of a client give

A client with a graph may have any number of streams, each with options of its own, and ask them in
any order and up to any limits. Whatever happens to the other streams, each of them gives the pieces
of one list of commands, which the targets tell in their order.

* `BuildGraph.concat_targetCommands`: the commands of targets are those that they have to give.
* `Session.given_eq`: a stream gives the pieces of a stretch, whatever happens in between.
* `Session.streamsFollow`: what the streams of a client give in a run.
-/

namespace BuildAnalysis

/-! ## All that targets have to give -/

/-- The targets that files describe, up to the first that is missing or rejected, and why it is. -/
def Target.loadAll (host : Host) : List String → List Target × Option Failure
  | [] => ([], none)
  | file :: rest =>
    match Target.load host file with
    | .error failure => ([], some failure)
    | .ok target => (target :: (loadAll host rest).1, (loadAll host rest).2)

/-- Whether the targets that files describe are targets of texts. -/
def Target.AreTexts (host : Host) (files : List String) : Prop :=
  ∀ file ∈ files, ∀ target, Target.load host file = .ok target → target.HasTexts

theorem Target.mem_toOption_load {host : Host} {file : String} {target : Target} :
    target ∈ (Target.load host file).toOption ↔ Target.load host file = .ok target := by
  cases Target.load host file with
  | error failure => simp [Except.toOption]
  | ok loaded => simp [Except.toOption]

instance (host : Host) (files : List String) : Decidable (Target.AreTexts host files) :=
  decidable_of_iff
    (∀ file ∈ files, ∀ target ∈ (Target.load host file).toOption, target.HasTexts)
    (forall₂_congr fun _ _ => forall_congr' fun _ => imp_congr_left Target.mem_toOption_load)

theorem Target.badIndex?_of_load {host : Host} {file : String} {target : Target}
    (h : Target.load host file = .ok target) : target.badIndex? = none := by
  obtain ⟨data, -, haccepted⟩ := Target.load_eq_ok.1 h
  rw [Target.ofReply] at haccepted
  split at haccepted
  · cases haccepted
  · split at haccepted
    · cases haccepted
    · rename_i hnone
      cases haccepted
      exact hnone

namespace BuildGraph

/-- The commands that the targets of files have to give, and the failure after them if a target is
missing or rejected. -/
def reference (graph : BuildGraph) (root : String) (options : CommandOptions) (host : Host)
    (files : List String) : Stretch where
  commands := (Target.loadAll host files).1.flatMap (·.reference root graph.toolchains options)
  failure := (Target.loadAll host files).2

variable {graph : BuildGraph} {root : String} {options : CommandOptions} {host other : Host}
  {file : String} {files : List String}

/-- The commands of a target depend on its reply alone. -/
theorem targetCommands_congr (h : Reply.load other file = Reply.load host file) :
    graph.targetCommands options other file = graph.targetCommands options host file := by
  rw [targetCommands, targetCommands, h]

/-- Targets of texts give the commands that they have to give. -/
theorem concat_targetCommands (hroot : graph.sourceRoot = .string root)
    (htexts : Target.AreTexts host files) :
    .concat (files.map (graph.targetCommands options host)) =
      graph.reference root options host files := by
  induction files with
  | nil => rfl
  | cons file rest ih =>
    have hrest := ih fun f hf => htexts f (List.mem_cons_of_mem _ hf)
    rw [List.map_cons, Stretch.concat_cons, hrest, targetCommands_eq, reference, reference,
      Target.loadAll]
    cases hload : Target.load host file with
    | error failure => rfl
    | ok target =>
      have htarget := htexts file List.mem_cons_self target hload
      simp only [hroot]
      rw [Target.commands_of_hasTexts (Target.badIndex?_of_load hload) htarget,
        Stretch.append_of_none rfl, List.flatMap_cons]

end BuildGraph

/-! ## One stream -/

namespace CommandStream

/-- Whether a stream is that of a graph and has a feed: it has not begun and would begin with all
targets, or it has begun. -/
inductive Carries (graph : BuildGraph) (options : CommandOptions) :
    CommandStream → Feed String → Prop where
  | fresh : Carries graph options (.fresh options) { pending := graph.targetFiles }
  | begun (feed : Feed String) : Carries graph options (.begun graph options feed) feed

variable {graph : BuildGraph} {options : CommandOptions} {stream : CommandStream}
  {feed : Feed String}

/-- A stream gives what its feed gives. -/
theorem Carries.pull (h : Carries graph options stream feed) (hroot : graph.sourceRoot ≠ .null)
    (host : Host) (limit : Option Nat) :
    (stream.pull host (some graph) limit).1 =
        (feed.pull (graph.targetCommands options host) limit).1 ∧
      Carries graph options (stream.pull host (some graph) limit).2
        (feed.pull (graph.targetCommands options host) limit).2 := by
  cases h with
  | begun => exact ⟨rfl, .begun _⟩
  | fresh =>
    by_cases hlimit : limit = some 0
    · subst hlimit
      have hnothing : Feed.pull (graph.targetCommands options host) (some 0)
          { pending := graph.targetFiles } =
            (⟨[], false, none⟩, { pending := graph.targetFiles }) :=
        Feed.pullFrom_of_le rfl none graph.targetFiles
      rw [hnothing]
      exact ⟨rfl, .fresh⟩
    · rw [pull_fresh hroot hlimit]
      exact ⟨rfl, .begun _⟩

end CommandStream

/-! ## Runs -/

/-- What an event asks a stream for, if it asks that stream. -/
def Event.limit? (k : Nat) : Event → Option (Option Nat)
  | .pull index limit => if index = k then some limit else none
  | _ => none

theorem Event.limit?_eq_some {k : Nat} {event : Event} {limit : Option Nat} :
    event.limit? k = some limit ↔ event = .pull k limit := by
  cases event with
  | pull index l =>
    by_cases hindex : index = k
    · simp [limit?, hindex]
    · simp [limit?, hindex]
  | _ => simp [limit?]

namespace Session

/-- The limits up to which a stream is asked in a run. -/
def asked (k : Nat) (events : List Event) : List (Option Nat) :=
  events.filterMap (·.limit? k)

/-- What a stream gives in a run, one piece for each time that it is asked. -/
def given (s : Session) (k : Nat) : List Event → List Pull
  | [] => []
  | event :: rest =>
    match event.limit? k, (s.step event).1 with
    | some _, .pulled (some piece) => piece :: (s.step event).2.given k rest
    | _, _ => (s.step event).2.given k rest

/-- Whether a stream of the client is that of its graph and has a feed. -/
structure Carries (s : Session) (k : Nat) (graph : BuildGraph) (options : CommandOptions)
    (feed : Feed String) : Prop where
  loaded : s.client.graph = some graph
  stream : ∃ stream, s.client.streams[k]? = some stream ∧ stream.Carries graph options feed

variable {s : Session} {events rest : List Event} {event : Event} {k : Nat} {graph : BuildGraph}
  {options : CommandOptions} {feed : Feed String} {limit : Option Nat} {files : List String}
  {read : String → Stretch} {stretch : Stretch}

/-- The graph of a client is not lost. -/
theorem step_loaded (h : s.client.graph = some graph) (event : Event) :
    (s.step event).2.client.graph = some graph := by
  rcases step_graph s event with hsame | ⟨_, _, _, _, _, hnone, _, _⟩
  · rw [hsame, h]
  · rw [h] at hnone
    cases hnone

/-- An event that does not ask a stream leaves it as it is. -/
theorem Carries.step (h : s.Carries k graph options feed) (hevent : event.limit? k = none) :
    (s.step event).2.Carries k graph options feed := by
  obtain ⟨stream, hstream, hcarries⟩ := h.stream
  refine ⟨step_loaded h.loaded event, stream, ?_, hcarries⟩
  rcases step_stream hstream event with hsame | ⟨limit, hpull⟩
  · exact hsame
  · rw [Event.limit?_eq_some.2 hpull] at hevent
    cases hevent

/-- A stream that is asked gives what its feed gives. -/
theorem Carries.step_pull (h : s.Carries k graph options feed) (hroot : graph.sourceRoot ≠ .null)
    (limit : Option Nat) :
    (s.step (.pull k limit)).1 =
        .pulled (some (feed.pull (graph.targetCommands options s.host) limit).1) ∧
      (s.step (.pull k limit)).2.Carries k graph options
        (feed.pull (graph.targetCommands options s.host) limit).2 := by
  obtain ⟨stream, hstream, hcarries⟩ := h.stream
  obtain ⟨hanswer, hafter⟩ := Session.step_pull hstream limit
  obtain ⟨hpiece, hnext⟩ := hcarries.pull hroot s.host limit
  rw [h.loaded] at hanswer hafter
  rw [hanswer, hpiece]
  exact ⟨rfl, step_loaded h.loaded _, _, hafter, hnext⟩

theorem given_of_none (hevent : event.limit? k = none) :
    s.given k (event :: rest) = (s.step event).2.given k rest := by
  rw [given, hevent]

theorem given_of_pull {piece : Pull} (hanswer : (s.step (.pull k limit)).1 = .pulled (some piece)) :
    s.given k (.pull k limit :: rest) = piece :: (s.step (.pull k limit)).2.given k rest := by
  rw [given, Event.limit?_eq_some.2 rfl, hanswer]

/-- A stream gives the pieces of the stretch that its feed offers, as long as the targets of that
stretch stay as they are. -/
theorem given_eq (hroot : graph.sourceRoot ≠ .null) (hcarries : s.Carries k graph options feed)
    (hoffers : feed.Offers read files (asked k events) stretch)
    (hkeeps : ∀ m, ∀ file ∈ files,
      graph.targetCommands options (s.before events m).host file = read file) :
    s.given k events = stretch.pulls (asked k events) := by
  induction events generalizing s feed stretch with
  | nil => rfl
  | cons event rest ih =>
    have hrest : ∀ m, ∀ file ∈ files, graph.targetCommands options
        ((s.step event).2.before rest m).host file = read file := fun m => hkeeps (m + 1)
    cases hevent : event.limit? k with
    | none =>
      have hasked : asked k (event :: rest) = asked k rest := List.filterMap_cons_none hevent
      rw [hasked] at hoffers ⊢
      rw [given_of_none hevent]
      exact ih (hcarries.step hevent) hoffers hrest
    | some limit =>
      have hasked : asked k (event :: rest) = limit :: asked k rest :=
        List.filterMap_cons_some hevent
      rw [hasked] at hoffers ⊢
      obtain rfl := Event.limit?_eq_some.1 hevent
      obtain ⟨hanswer, hafter⟩ := hcarries.step_pull hroot limit
      obtain ⟨hpiece, hleft⟩ := hoffers.pull (hkeeps 0)
      rw [given_of_pull hanswer, Stretch.pulls, ih hafter hleft hrest]
      exact congrArg (· :: _) hpiece

/-- Whether the replies in files stay as they are in a run. -/
def KeepsReplies (s : Session) (events : List Event) (files : List String) : Prop :=
  ∀ m, ∀ file ∈ files, Reply.load (s.before events m).host file = Reply.load s.host file

/-- Whether a stream gives the pieces of a stretch in a run. -/
structure Gives (s : Session) (k : Nat) (events : List Event) (stretch : Stretch) : Prop where
  pieces : s.given k events = stretch.pulls (asked k events)
  isGiven : stretch.IsGiven (asked k events) (s.given k events)

/-- Whether a stream with options follows what the targets of a graph have to give in a run. -/
structure FollowsReference (s : Session) (k : Nat) (graph : BuildGraph) (root : String)
    (options : CommandOptions) (events : List Event) : Prop where
  /-- While the replies about the targets stay as they are, the stream gives the pieces of all that
  the targets have to give. -/
  whole : s.KeepsReplies events graph.targetFiles → Target.AreTexts s.host graph.targetFiles →
    s.Gives k events (graph.reference root options s.host graph.targetFiles)
  /-- As long as the first targets are enough for what the stream is asked for, or one of them fails,
  it gives the pieces of what they have to give, whatever becomes of the replies about the others. -/
  unreached : ∀ n, s.KeepsReplies events (graph.targetFiles.take n) →
    Target.AreTexts s.host (graph.targetFiles.take n) →
    (graph.reference root options s.host (graph.targetFiles.take n)).Suffices (asked k events) →
    s.Gives k events (graph.reference root options s.host (graph.targetFiles.take n))

/-- What the streams of a client with a graph do in a run. -/
structure StreamsFollow (s : Session) (graph : BuildGraph) (root : String)
    (events : List Event) : Prop where
  /-- Each stream that has not begun follows what the targets have to give. -/
  fresh : ∀ k options, s.client.streams[k]? = some (.fresh options) →
    s.FollowsReference k graph root options events
  /-- So does each stream that is opened in the run, from then on. -/
  opened : ∀ i options, events[i]? = some (.openStream options) →
    (s.before events (i + 1)).FollowsReference (s.before events i).client.streams.length graph root
      options (events.drop (i + 1))

/-- A stream that has not begun gives the pieces of what the first targets have to give, if there are
no others or these are enough. -/
theorem gives_reference {root : String} {front back : List String}
    (hgraph : s.client.graph = some graph) (hroot : graph.sourceRoot = .string root)
    (hfiles : graph.targetFiles = front ++ back) (hkeeps : s.KeepsReplies events front)
    (htexts : Target.AreTexts s.host front)
    (hstream : s.client.streams[k]? = some (.fresh options))
    (hsuffices : back = [] ∨
      (graph.reference root options s.host front).Suffices (asked k events)) :
    s.Gives k events (graph.reference root options s.host front) := by
  have hnull : graph.sourceRoot ≠ .null := by
    rw [hroot]
    simp
  have hcarries : s.Carries k graph options { pending := graph.targetFiles } :=
    ⟨hgraph, .fresh options, hstream, .fresh⟩
  have hoffers : Feed.Offers (graph.targetCommands options s.host) front (asked k events)
      { pending := graph.targetFiles } (graph.reference root options s.host front) :=
    ⟨front, back, hfiles, fun _ h => h,
      (BuildGraph.concat_targetCommands hroot htexts).symm, hsuffices⟩
  have hpieces := given_eq hnull hcarries hoffers fun m file hfile =>
    BuildGraph.targetCommands_congr (hkeeps m file hfile)
  refine ⟨hpieces, ?_⟩
  rw [hpieces]
  exact Stretch.isGiven_pulls _ _

/-- A stream of a client with a graph that has not begun follows what the targets have to give. -/
theorem followsReference {root : String} (hgraph : s.client.graph = some graph)
    (hroot : graph.sourceRoot = .string root)
    (hstream : s.client.streams[k]? = some (.fresh options)) (events : List Event) :
    s.FollowsReference k graph root options events where
  whole hkeeps htexts :=
    gives_reference hgraph hroot (List.append_nil _).symm hkeeps htexts hstream (.inl rfl)
  unreached n hkeeps htexts hsuffices :=
    gives_reference hgraph hroot (List.take_append_drop n _).symm hkeeps htexts hstream
      (.inr hsuffices)

/-- However many streams a client with a graph has, and however they are asked, each of them gives
what the targets have to give. -/
theorem streamsFollow {root : String} (hgraph : s.client.graph = some graph)
    (hroot : graph.sourceRoot = .string root) (events : List Event) :
    s.StreamsFollow graph root events where
  fresh _ _ hstream := followsReference hgraph hroot hstream events
  opened i options hevent := by
    have hloaded : (s.before events (i + 1)).client.graph = some graph :=
      graph_before (Nat.zero_le (i + 1)) hgraph
    have hopened : (s.before events (i + 1)).client.streams[
        (s.before events i).client.streams.length]? = some (.fresh options) := by
      rw [before_succ hevent]
      exact getElem?_openStream _ options
    exact followsReference hloaded hroot hopened _

/-- The reply about a target of two sources, one of which is compiled twice. -/
def sampleReply : Json :=
  .object [("sources", .array [.object [("path", .string "a.c")], .object [("path", .string "b.c")]]),
    ("compileGroups", .array [.object [("language", .string "C"),
      ("sourceIndexes", .array [.integer 0, .integer 1, .integer 0])]])]

/-- The reply about a target that refers to a source that it does not have. -/
def sampleRejected : Json :=
  .object [("compileGroups", .array [.object [("sourceIndexes", .array [.integer 0])]])]

/-- A graph with these two targets. -/
def sampleGraph : BuildGraph where
  toolchains := { c := some (.ofPath "cl") }
  sourceRoot := .string "/s"
  cache := []
  targetFiles := ["/x", "/y"]

/-- A client with that graph and two streams. -/
def sampleSession : Session where
  client := Client.withGraph { streams := [.fresh {}, .fresh { ignoreSystemHeaders := true }] }
    sampleGraph
  host := {
    files := ⟨[(["x"], .file (Text.Utf8.encode sampleReply.document) false),
      (["y"], .file (Text.Utf8.encode sampleRejected.document) false)]⟩
    directory := "/"
    environment := []
    children := []
    console := .ofCommand "" }

/-- A run in which the two streams are asked in turn, and a third one is opened. -/
def sampleEvents : List Event :=
  [.pull 0 (some 1), .pull 1 (some 2), .openStream {}, .pull 0 none, .pull 2 none, .pull 0 none]

theorem streamsFollow_sample :
    sampleSession.Gives 0 sampleEvents
      (sampleGraph.reference "/s" {} sampleSession.host ["/x", "/y"]) ∧
    (sampleSession.given 0 sampleEvents).map (·.commands.map (·.source)) =
      [["/s/a.c"], ["/s/b.c", "/s/a.c"], []] ∧
    (sampleSession.given 0 sampleEvents).map (·.failure.isSome) = [false, true, false] := by
  have hhost : ∀ m, (sampleSession.before sampleEvents m).host = sampleSession.host := by
    intro m
    refine before_of_le (P := fun s => s.host = sampleSession.host) (Nat.zero_le m) rfl
      fun m event _ _ hevent hm => ?_
    have hmem := List.mem_of_getElem? hevent
    simp only [sampleEvents, List.mem_cons, List.not_mem_nil, or_false] at hmem
    rcases hmem with rfl | rfl | rfl | rfl | rfl | rfl
    all_goals exact hm
  have hkeeps : sampleSession.KeepsReplies sampleEvents sampleGraph.targetFiles :=
    fun m file _ => by rw [hhost m]
  have htexts : Target.AreTexts sampleSession.host sampleGraph.targetFiles := by decide +kernel
  have hroot : sampleGraph.sourceRoot = .string "/s" := rfl
  have hgives := ((streamsFollow rfl hroot sampleEvents).fresh 0 {} rfl).whole hkeeps htexts
  refine ⟨hgives, ?_⟩
  rw [hgives.pieces]
  decide +kernel

end Session

end BuildAnalysis
