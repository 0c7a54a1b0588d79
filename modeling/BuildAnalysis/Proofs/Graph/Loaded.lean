import BuildAnalysis.Proofs.Graph.Effects
import BuildAnalysis.Proofs.Json.Equality

/-!
# What a loaded graph means

A graph that was loaded was made from the files as the child process left them. Before that process
was started there was an index of a CMake that is new enough, and the query was written; after it has
exited with zero there is such an index again, which names the replies that the graph tells about.

* `load_isLoaded`: all that is known when loading has succeeded.
-/

namespace BuildAnalysis.BuildGraph

open Host (Place FileTree)

/-! ## The query -/

/-- What the query asks for. -/
theorem readBytes_query : Json.readBytes (Text.Utf8.encode query.document) = .ok (.array
    [.object [("kind", .string "cache"), ("version", .integer 2)],
      .object [("kind", .string "codemodel"), ("version", .integer 2)],
      .object [("kind", .string "toolchains"), ("version", .integer 1)]]) :=
  toOption_eq_some.1 (by decide +kernel)

/-! ## Success -/

variable {loaded : Option BuildGraph} {root : String} {cmake : Option String} {host after : Host}
  {graph : BuildGraph}

/-- What has happened when a graph was loaded. -/
structure IsLoaded (root : String) (cmake : Option String) (host : Host) (graph : BuildGraph)
    (after : Host) : Prop where
  /-- There was an index of a CMake that is new enough. -/
  indexBefore : HasSupportedIndex host (Path.join root apiDirectory)
  /-- One child process was started, when the query had been written, and it exited with zero. -/
  child : ∃ program base files content output,
    host.which (programName cmake) = some program ∧ Queried root host base files ∧
      files.read host.place (queryFile (Path.join root apiDirectory)) = .ok content ∧
      Json.readBytes content = .ok (.array
        [.object [("kind", .string "cache"), ("version", .integer 2)],
          .object [("kind", .string "codemodel"), ("version", .integer 2)],
          .object [("kind", .string "toolchains"), ("version", .integer 1)]]) ∧
      Host.start { host with files } (configuration program root host) =
        (.exited 0 output, after) ∧
      after.started = host.started ++ [configuration program root host]
  /-- The graph is that of the newest index, which is one of a CMake that is new enough again. -/
  indexAfter : ∃ index, Reply.IsIndexOf after (Path.join root apiDirectory) index ∧
    IsSupported index ∧ IsGraphOf after (Reply.directory (Path.join root apiDirectory)) index graph
  /-- Nothing but the files that were left, and the current directory, tells the graph, as long as
  values may stand as deep in each other. -/
  determined : ∀ other : Host, other.files = after.files → other.directory = after.directory →
    other.maxDepth = after.maxDepth → ofReplies other (Path.join root apiDirectory) = .ok graph

/-- When loading succeeds nothing was loaded before; there was an index of a CMake that is new
enough; the program was run once, with the query on the disk, and exited with zero; and the graph is
what the files tell that it left. -/
theorem load_isLoaded (h : (load loaded root cmake).on host = (.ok graph, after)) :
    loaded = none ∧ IsLoaded root cmake host graph after := by
  obtain ⟨program, queried, output, hpermitted, hwrite, hstart, hreplies⟩ := load_eq_ok h
  obtain ⟨base, files, hqueried⟩ := hpermitted.queried
  have hafter := hqueried.after
  have hread := hqueried.content
  rw [hwrite] at hafter hread
  -- the program is started on the host as the query has left it
  rw [show queried = { host with files } from hafter] at hstart
  have hchild : Host.start { host with files } (configuration program root host) =
      (.exited 0 output, after) := hstart
  have hstarted := Host.start_started { host with files } (configuration program root host)
  rw [hchild] at hstarted
  refine ⟨hpermitted.notLoaded, hpermitted.index, ?_, ofReplies_ok hreplies, ?_⟩
  · exact ⟨program, base, files, _, output, hpermitted.which, hqueried, hread rfl,
      readBytes_query, hchild, hstarted⟩
  · intro other hfiles hdirectory hdepth
    rw [ofReplies_congr hfiles hdirectory hdepth, hreplies]

/-- A file that holds a value. -/
def replyFile (value : Json) : Host.Entry :=
  .file (Text.Utf8.encode value.document) false

/-- The place of a reply in the build directory `/b`. -/
def replyPlace (name : String) : Place :=
  ["b", ".cmake", "api", "v1", "reply", name]

/-- The response with the reply file of a kind. -/
def sampleResponse (kind name : String) : Json :=
  .object [("kind", .string kind), ("jsonFile", .string name)]

/-- The index that the child process of the sample writes. -/
def sampleIndex : Json :=
  .object [("version", .object [("string", .string "3.20")]),
    ("reply", .object [(client, .object [("query.json", .object [("responses", .array
      [sampleResponse "cache" "c", sampleResponse "codemodel" "m",
        sampleResponse "toolchains" "t"])])])])]

/-- A host with a project that an older CMake configured in the directory `/b`. The program that
configures it again writes a newer index. -/
def sampleHost : Host where
  files := ⟨[(["bin"], .directory), (["bin", "cmake"], .file [] true), (["b"], .directory),
    (["b", ".cmake"], .directory), (["b", ".cmake", "api"], .directory),
    (["b", ".cmake", "api", "v1"], .directory), (["b", ".cmake", "api", "v1", "reply"], .directory),
    (replyPlace "index-1.json",
      replyFile (.object [("version", .object [("string", .string "3.14")])])),
    (replyPlace "c", replyFile (.object [])),
    (replyPlace "m", replyFile (.object [("paths", .object [("source", .string "/s")]),
      ("configurations", .array [.object []])])),
    (replyPlace "t", replyFile (.object [("toolchains", .array [.object
      [("language", .string "C"),
        ("compiler", .object [("id", .string "MSVC"), ("path", .string "cl")])]])]))]⟩
  directory := "/"
  environment := [("PATH", "/bin")]
  children := [{ effect := fun tree =>
    (none, tree.put (replyPlace "index-2.json") (replyFile sampleIndex)) }]
  console := .ofCommand ""

theorem load_isLoaded_sample : ∃ graph after,
    (load none "/b" none).on sampleHost = (.ok graph, after) ∧
      IsLoaded "/b" none sampleHost graph after := by
  have hisOk : ((load none "/b" none).on sampleHost).1.isOk = true := by decide +kernel
  cases hload : (load none "/b" none).on sampleHost with
  | mk answer after =>
    rw [hload] at hisOk
    cases answer with
    | error failure => cases hisOk
    | ok graph => exact ⟨graph, after, rfl, (load_isLoaded hload).2⟩

end BuildAnalysis.BuildGraph
