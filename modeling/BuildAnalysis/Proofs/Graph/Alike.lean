import BuildAnalysis.Proofs.Graph.Streams
import BuildAnalysis.Proofs.Target.Alike

/-!
# Graphs that look alike

Two clients may have graphs that differ in what does not matter for what is seen of their commands.
When both are asked for the same, and their hosts have the same replies about the targets, they give
commands that look alike, piece by piece.

* `BuildGraph.alike_of_seen`: when two graphs look alike.
* `Session.given_alike`: two runs whose streams give pieces that look alike.
-/

namespace BuildAnalysis

variable {α β : Type}

namespace BuildGraph

/-- Whether two graphs look alike: they have the same target files, both of them or none has a source
directory at all, and from the same reply about a target they make commands that look alike. -/
structure Alike (f : CompileCommand → α) (graph graph' : BuildGraph) : Prop where
  targetFiles : graph'.targetFiles = graph.targetFiles
  null : graph'.sourceRoot = .null ↔ graph.sourceRoot = .null
  commands : ∀ options host host' file, Reply.load host' file = Reply.load host file →
    (graph.targetCommands options host file).Alike f (graph'.targetCommands options host' file)

variable {ofSource : String → α} {ofCompiler : Compiler → β} {graph graph' : BuildGraph}

/-- Graphs look alike if the same is seen of their sources and of their compilers. -/
theorem alike_of_seen (hfiles : graph'.targetFiles = graph.targetFiles)
    (hnull : graph'.sourceRoot = .null ↔ graph.sourceRoot = .null)
    (hsource : ∀ (target : Target) (index : Int),
      (target.source graph'.sourceRoot index).map ofSource =
        (target.source graph.sourceRoot index).map ofSource)
    (hcompilers : ∀ language, (graph'.toolchains.get? language).map ofCompiler =
      (graph.toolchains.get? language).map ofCompiler) :
    graph.Alike (CompileCommand.seen ofSource ofCompiler) graph' where
  targetFiles := hfiles
  null := hnull
  commands options host host' file hload := by
    have hnames (name : String) : (graph'.toolchains.compiler? name).map ofCompiler =
        (graph.toolchains.compiler? name).map ofCompiler := by
      rw [Toolchains.compiler?, Toolchains.compiler?]
      cases Language.ofName? name with
      | none => rfl
      | some language => exact hcompilers language
    rw [targetCommands, targetCommands, hload]
    cases Reply.load host file with
    | error failure => exact .refl _
    | ok data =>
      simp only
      cases Target.ofReply file data with
      | error e => exact .refl _
      | ok target => exact Target.commands_alike (hsource target) hnames

end BuildGraph

/-! ## Streams -/

namespace CommandStream

variable {f : CompileCommand → α} {graph graph' : BuildGraph} {options : CommandOptions}
  {stream stream' : CommandStream} {host host' : Host}

/-- Whether two streams of two graphs look alike: they have come equally far. -/
inductive Alike (f : CompileCommand → α) (graph graph' : BuildGraph) (options : CommandOptions) :
    CommandStream → CommandStream → Prop where
  | fresh : Alike f graph graph' options (.fresh options) (.fresh options)
  | begun {feed feed' : Feed String} (h : feed.Alike f graph.targetFiles feed') :
    Alike f graph graph' options (.begun graph options feed) (.begun graph' options feed')
  | finished : Alike f graph graph' options .finished .finished

/-- Streams of graphs that look alike give pieces that look alike, and so do the streams after
them. -/
theorem Alike.pull (h : Alike f graph graph' options stream stream') (hgraph : graph.Alike f graph')
    (hreplies : ∀ file ∈ graph.targetFiles, Reply.load host' file = Reply.load host file)
    (limit : Option Nat) :
    (stream'.pull host' (some graph') limit).1.seen f =
        (stream.pull host (some graph) limit).1.seen f ∧
      Alike f graph graph' options (stream.pull host (some graph) limit).2
        (stream'.pull host' (some graph') limit).2 := by
  have hbegun {feed feed' : Feed String} (hfeed : feed.Alike f graph.targetFiles feed') :
      (pullBegun host' limit graph' options feed').1.seen f =
          (pullBegun host limit graph options feed).1.seen f ∧
        Alike f graph graph' options (pullBegun host limit graph options feed).2
          (pullBegun host' limit graph' options feed').2 := by
    obtain ⟨hpiece, hnext⟩ := hfeed.pull
      (fun file hfile => hgraph.commands options host host' file (hreplies file hfile)) limit
    exact ⟨hpiece, .begun hnext⟩
  cases h with
  | finished => exact ⟨rfl, .finished⟩
  | begun hfeed => exact hbegun hfeed
  | fresh =>
    by_cases hlimit : limit = some 0
    · subst hlimit
      exact ⟨rfl, .fresh⟩
    by_cases hroot : graph.sourceRoot = .null
    · rw [pull_fresh_null hroot hlimit, pull_fresh_null (hgraph.null.2 hroot) hlimit]
      exact ⟨rfl, .finished⟩
    · rw [pull_fresh hroot hlimit, pull_fresh (fun h => hroot (hgraph.null.1 h)) hlimit,
        hgraph.targetFiles]
      exact hbegun ⟨rfl, rfl, rfl, List.Subset.refl _⟩

end CommandStream

/-! ## Runs -/

namespace Session

variable {f : CompileCommand → α} {graph graph' : BuildGraph} {options : CommandOptions}
  {s s' : Session} {events : List Event} {event : Event} {k : Nat}

/-- Whether the stream `k` of two clients that have graphs has come equally far. -/
structure Alike (f : CompileCommand → α) (k : Nat) (graph graph' : BuildGraph)
    (options : CommandOptions) (s s' : Session) : Prop where
  loaded : s.client.graph = some graph
  loaded' : s'.client.graph = some graph'
  streams : ∃ stream stream', s.client.streams[k]? = some stream ∧
    s'.client.streams[k]? = some stream' ∧ stream.Alike f graph graph' options stream'

/-- Whether the replies in files are the same in two runs, at any time. -/
def SameReplies (s s' : Session) (events : List Event) (files : List String) : Prop :=
  ∀ m, ∀ file ∈ files,
    Reply.load (s'.before events m).host file = Reply.load (s.before events m).host file

/-- An event that does not ask a stream leaves it as far as it has come. -/
theorem Alike.step (h : Alike f k graph graph' options s s') (hevent : event.limit? k = none) :
    Alike f k graph graph' options (s.step event).2 (s'.step event).2 := by
  obtain ⟨stream, stream', hstream, hstream', halike⟩ := h.streams
  have hkept {t : Session} {stream : CommandStream} (ht : t.client.streams[k]? = some stream) :
      (t.step event).2.client.streams[k]? = some stream := by
    rcases step_stream ht event with hsame | ⟨limit, hpull⟩
    · exact hsame
    · rw [Event.limit?_eq_some.2 hpull] at hevent
      cases hevent
  exact ⟨step_loaded h.loaded event, step_loaded h.loaded' event, stream, stream', hkept hstream,
    hkept hstream', halike⟩

/-- Streams that are asked up to the same limit give pieces that look alike. -/
theorem Alike.step_pull (h : Alike f k graph graph' options s s') (hgraph : graph.Alike f graph')
    (hreplies : ∀ file ∈ graph.targetFiles, Reply.load s'.host file = Reply.load s.host file)
    (limit : Option Nat) :
    (∃ piece piece', (s.step (.pull k limit)).1 = .pulled (some piece) ∧
        (s'.step (.pull k limit)).1 = .pulled (some piece') ∧ piece'.seen f = piece.seen f) ∧
      Alike f k graph graph' options (s.step (.pull k limit)).2 (s'.step (.pull k limit)).2 := by
  obtain ⟨stream, stream', hstream, hstream', halike⟩ := h.streams
  obtain ⟨hanswer, hafter⟩ := Session.step_pull hstream limit
  obtain ⟨hanswer', hafter'⟩ := Session.step_pull hstream' limit
  rw [h.loaded] at hanswer hafter
  rw [h.loaded'] at hanswer' hafter'
  obtain ⟨hpiece, hnext⟩ := halike.pull hgraph hreplies limit
  exact ⟨⟨_, _, hanswer, hanswer', hpiece⟩, step_loaded h.loaded _, step_loaded h.loaded' _, _, _,
    hafter, hafter', hnext⟩

/-- In two runs the same stream gives pieces that look alike, as long as the replies about the targets
are the same. -/
theorem given_alike (hgraph : graph.Alike f graph') (h : Alike f k graph graph' options s s')
    (hreplies : s.SameReplies s' events graph.targetFiles) :
    (s'.given k events).map (·.seen f) = (s.given k events).map (·.seen f) := by
  induction events generalizing s s' with
  | nil => rfl
  | cons event rest ih =>
    have hrest : (s.step event).2.SameReplies (s'.step event).2 rest graph.targetFiles :=
      fun m => hreplies (m + 1)
    cases hevent : event.limit? k with
    | none =>
      rw [given_of_none hevent, given_of_none hevent]
      exact ih (h.step hevent) hrest
    | some limit =>
      obtain rfl := Event.limit?_eq_some.1 hevent
      obtain ⟨⟨piece, piece', hanswer, hanswer', hpiece⟩, hnext⟩ :=
        h.step_pull hgraph (hreplies 0) limit
      rw [given_of_pull hanswer, given_of_pull hanswer', List.map_cons, List.map_cons, hpiece,
        ih hnext hrest]

end Session

end BuildAnalysis
