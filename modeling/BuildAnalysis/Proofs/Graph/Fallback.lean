import BuildAnalysis.Proofs.Graph.Alike
import BuildAnalysis.Proofs.Graph.LastResponses
import BuildAnalysis.Proofs.Toolchain.Fallback

/-!
# Loading without the toolchains reply

A project may be loaded with a toolchains reply, or from replies among which there is none. When the
cache names the same compilers as the toolchains reply, both loads end in the same way, and the
streams of both graphs give the same sources, arguments and compiler paths.

* `load_sameOutcome`: loading with the toolchains reply, and without it.
-/

namespace BuildAnalysis

namespace Reply

variable {kind other file : String} {response : Json} {list : List Json}

/-- The responses that are not of a kind. -/
def without (kind : String) (list : List Json) : List Json :=
  list.filter fun response => (fileNamed? kind response).isNone

theorem fileNamed?_eq_some : fileNamed? kind response = some file ↔
    response.find "kind" = some (.string kind) ∧
      response.find "jsonFile" = some (.string file) := by
  rw [fileNamed?]
  split
  · rename_i k f hkind hfile
    rw [hkind, hfile]
    simp only [Option.ite_none_right_eq_some, Option.some.injEq, Json.string.injEq]
  · rename_i hnone
    simp only [reduceCtorEq, false_iff, not_and]
    intro hkind hfile
    exact hnone kind file hkind hfile

theorem lastFile?_without_self (kind : String) (list : List Json) :
    lastFile? kind (without kind list) = none := by
  rw [lastFile?, without, List.getLast?_eq_none_iff, List.filterMap_eq_nil_iff]
  intro response hresponse
  simpa using (List.mem_filter.1 hresponse).2

/-- The responses of other kinds stay. -/
theorem lastFile?_without (h : kind ≠ other) (list : List Json) :
    lastFile? kind (without other list) = lastFile? kind list := by
  rw [lastFile?, lastFile?, without, List.filterMap_filter]
  refine congrArg List.getLast? (List.filterMap_congr fun response _ => ?_)
  split
  · rfl
  · rename_i hother
    rw [Option.isNone_iff_eq_none] at hother
    obtain ⟨file, hfile⟩ := Option.ne_none_iff_exists'.1 hother
    -- a response is of one kind only
    symm
    rw [Option.eq_none_iff_forall_ne_some]
    intro name hname
    have hkinds := (fileNamed?_eq_some.1 hname).1.symm.trans (fileNamed?_eq_some.1 hfile).1
    rw [Option.some.injEq, Json.string.injEq] at hkinds
    exact h hkinds

end Reply

namespace BuildGraph

variable {host other : Host} {api directory : String} {index index' data : Json}
  {list list' : List Json} {cache : Cache}

/-! ## Two loads of one project -/

/-- Whether a host has replies that can be used, with a toolchains reply among them, and another host
has the same ones without the response about it. -/
structure WithoutToolchains (host other : Host) (api : String) (index index' : Json)
    (list : List Json) (data : Json) (cache : Cache) : Prop where
  responses : HasResponses host api index list
  differs : DiffersInResponses host other api index index' list (Reply.without "toolchains" list)
  supported : IsSupported index
  cache : ∃ reply, HoldsReply host api list "cache" reply ∧ cacheOfReply reply = .ok cache
  codemodel : ∃ reply codemodel, HoldsReply host api list "codemodel" reply ∧
    codemodelOfReply (Reply.directory api) reply = .ok codemodel
  toolchains : HoldsReply host api list "toolchains" data

/-- When the replies about the cache and the codemodel can be used, the compilers are all that is still
to be found. -/
theorem HasResponses.ofReplies_eq_map {cacheReply codemodelReply : Json}
    {codemodel : Json × List String} (h : HasResponses host api index list)
    (hsupported : checkVersion index = .ok ())
    (hcacheReply : HoldsReply host api list "cache" cacheReply)
    (hcache : cacheOfReply cacheReply = .ok cache)
    (hcodemodelReply : HoldsReply host api list "codemodel" codemodelReply)
    (hcodemodel : codemodelOfReply (Reply.directory api) codemodelReply = .ok codemodel) :
    ofReplies host api =
      (toolchainsOf host cache
          ((Reply.lastFile? "toolchains" list).map (Path.join (Reply.directory api)))).map
        fun toolchains => ⟨toolchains, codemodel.1, cache, codemodel.2⟩ := by
  obtain ⟨cacheName, hcacheName, hcacheLoad⟩ := hcacheReply
  obtain ⟨codemodelName, hcodemodelName, hcodemodelLoad⟩ := hcodemodelReply
  have hpath {kind name : String} (hname : Reply.lastFile? kind list = some name) :
      (Reply.lastFile? kind list).map (Path.join (Reply.directory api)) =
        some (Path.join (Reply.directory api) name) := by
    rw [hname, Option.map_some]
  rw [h.ofReplies_eq, hsupported]
  simp only [bind, Except.bind]
  rw [ofPaths_eq_bind (hpath hcacheName) (hpath hcodemodelName),
    readReply_eq_ok.2 ⟨_, hcacheLoad, hcache⟩, readReply_eq_ok.2 ⟨_, hcodemodelLoad, hcodemodel⟩]
  rfl

/-- Without the response about the toolchains reply the other replies are the same. -/
theorem WithoutToolchains.holdsReply {kind : String} {reply : Json}
    (h : WithoutToolchains host other api index index' list data cache) (hkind : kind ∈ kinds)
    (hother : kind ≠ "toolchains") (hreply : HoldsReply host api list kind reply) :
    HoldsReply other api (Reply.without "toolchains" list) kind reply := by
  obtain ⟨name, hname, hload⟩ := hreply
  refine ⟨name, ?_, (h.differs.files kind hkind name hname).trans hload⟩
  rw [Reply.lastFile?_without hother, hname]

/-- With the response, the compilers are those of the toolchains reply, without it those that the
cache names. Apart from them the graphs are the same. -/
theorem WithoutToolchains.ofReplies_eq
    (h : WithoutToolchains host other api index index' list data cache) :
    ∃ (root : Json) (files : List String),
      ofReplies host api = ((Toolchains.ofReply data).mapError .analysis).map
        (fun toolchains => ⟨toolchains, root, cache, files⟩) ∧
      ofReplies other api = (Toolchains.ofCache cache).map
        (fun toolchains => ⟨toolchains, root, cache, files⟩) := by
  obtain ⟨cacheReply, hcacheReply, hcache⟩ := h.cache
  obtain ⟨codemodelReply, codemodel, hcodemodelReply, hcodemodel⟩ := h.codemodel
  obtain ⟨name, hname, hload⟩ := h.toolchains
  have hsupported := checkVersion_eq_ok.2 h.supported
  refine ⟨codemodel.1, codemodel.2, ?_, ?_⟩
  · rw [h.responses.ofReplies_eq_map hsupported hcacheReply hcache hcodemodelReply hcodemodel,
      hname, Option.map_some, toolchainsOf, hload]
    rfl
  · have hcacheReply' := h.holdsReply (by decide) (by decide) hcacheReply
    have hcodemodelReply' := h.holdsReply (by decide) (by decide) hcodemodelReply
    have hsupported' : checkVersion index' = .ok () := by
      rw [h.differs.checkVersion_eq, hsupported]
    rw [h.differs.responses.ofReplies_eq_map hsupported' hcacheReply' hcache hcodemodelReply'
      hcodemodel, Reply.lastFile?_without_self, Option.map_none, toolchainsOf]

/-- Whether two graphs are those of one project: apart from what else is known of their compilers they
are the same, and their streams give the same commands, piece by piece. -/
structure SameProject (graph graph' : BuildGraph) : Prop where
  cache : graph'.cache = graph.cache
  sourceRoot : graph'.sourceRoot = graph.sourceRoot
  targetFiles : graph'.targetFiles = graph.targetFiles
  paths : ∀ language, (graph'.toolchains.get? language).map (·.path) =
    (graph.toolchains.get? language).map (·.path)
  /-- Whenever two clients with these graphs are asked for the same, and the replies about the targets
  are the same, a stream gives the same sources, arguments and compiler paths for both. -/
  streams : ∀ (s s' : Session) (k : Nat) (options : CommandOptions) (events : List Event),
    s.client.graph = some graph → s'.client.graph = some graph' →
    s.client.streams[k]? = some (.fresh options) → s'.client.streams[k]? = some (.fresh options) →
    s.SameReplies s' events graph.targetFiles →
    (s'.given k events).map (·.seen (CompileCommand.seen id (·.path))) =
      (s.given k events).map (·.seen (CompileCommand.seen id (·.path)))

/-- Whether two loads end in the same way: both find no compiler, or both give the graph of one
project. -/
inductive SameOutcome : Except Failure BuildGraph → Except Failure BuildGraph → Prop
  | missing : SameOutcome (.error (.analysis .compilerMissing)) (.error (.analysis .compilerMissing))
  | loaded {graph graph' : BuildGraph} (h : SameProject graph graph') :
    SameOutcome (.ok graph) (.ok graph')

theorem sameProject_of_paths {graph graph' : BuildGraph} (hcache : graph'.cache = graph.cache)
    (hroot : graph'.sourceRoot = graph.sourceRoot)
    (hfiles : graph'.targetFiles = graph.targetFiles)
    (hpaths : ∀ language, (graph'.toolchains.get? language).map (·.path) =
      (graph.toolchains.get? language).map (·.path)) : SameProject graph graph' where
  cache := hcache
  sourceRoot := hroot
  targetFiles := hfiles
  paths := hpaths
  streams s s' k options events hgraph hgraph' hstream hstream' hreplies := by
    have halike : graph.Alike (CompileCommand.seen id (·.path)) graph' :=
      alike_of_seen hfiles (by rw [hroot]) (fun target index => by rw [hroot]) hpaths
    exact Session.given_alike halike ⟨hgraph, hgraph', _, _, hstream, hstream', .fresh⟩ hreplies

/-- When the cache names the same compilers as the toolchains reply, loading with the response about
that reply and loading without it end in the same way. -/
theorem load_sameOutcome {root : String} {cmake cmake' : Option String}
    {host host' after after' : Host}
    (hconfigures : Configures none root cmake host after)
    (hconfigures' : Configures none root cmake' host' after')
    (hwithout : WithoutToolchains after after' (Path.join root apiDirectory) index index' list data
      cache)
    (hnames : Toolchains.NamesSamePaths data cache) :
    SameOutcome ((load none root cmake).on host).1 ((load none root cmake').on host').1 := by
  obtain ⟨sourceRoot, files, hreply, hcache⟩ := hwithout.ofReplies_eq
  rw [hconfigures.on_load, hconfigures'.on_load]
  simp only [hreply, hcache]
  rcases hnames.compilers with ⟨hmissing, hmissing'⟩ | ⟨toolchains, hfound, hfound', hpaths⟩
  · rw [hmissing, hmissing']
    exact .missing
  · rw [hfound, hfound']
    exact .loaded (sameProject_of_paths rfl rfl rfl hpaths)

/-- The cache reply of the sample project. -/
def sampleCacheReply : Json :=
  .object [("entries", .array [.object [("name", .string "CMAKE_C_COMPILER"),
    ("value", .string "cl")]])]

/-- The cache of the sample project. -/
def sampleCache : Cache :=
  [(.string "CMAKE_C_COMPILER", .string "cl")]

/-- The codemodel reply of the sample project, which has one target. -/
def sampleCodemodelReply : Json :=
  .object [("paths", .object [("source", .string "/s")]),
    ("configurations", .array [.object [("targets", .array [.object
      [("jsonFile", .string "x")]])]])]

/-- The toolchains reply of the sample project. -/
def sampleToolchainsReply : Json :=
  .object [("toolchains", .array [.object [("language", .string "C"),
    ("compiler", .object [("id", .string "MSVC"), ("path", .string "cl")])]])]

/-- The host of the sample, with a program that tells a list of responses. -/
def tellingHost (list : List Json) : Host :=
  { sampleHost with
    files := (sampleHost.files.put (replyPlace "m") (replyFile sampleCodemodelReply)).put
      (replyPlace "x") (replyFile Session.sampleReply)
    children := [{ effect := fun tree =>
      (none, (tree.put (replyPlace "c") (replyFile sampleCacheReply)).put
        (replyPlace "index-2.json") (replyFile (indexWith list))) }] }

/-- The host that the program leaves behind. -/
def toldHost (list : List Json)
    (h : (afterConfiguring none "/b" none (tellingHost list)).isSome = true) : Host :=
  (afterConfiguring none "/b" none (tellingHost list)).get h

theorem configures_tellingHost (list : List Json)
    (h : (afterConfiguring none "/b" none (tellingHost list)).isSome = true) :
    Configures none "/b" none (tellingHost list) (toldHost list h) :=
  configures_of_afterConfiguring (Option.some_get h).symm

theorem namesSamePaths_sample :
    Toolchains.NamesSamePaths sampleToolchainsReply sampleCache where
  accepted e h := by
    have hok : Toolchains.ofReply sampleToolchainsReply = .ok { c := some ⟨"cl", .string "", []⟩ } :=
      rfl
    rw [hok] at h
    cases h
  texts language value h _ := by
    cases language with
    | c => exact ⟨"cl", (Option.some.inj h).symm⟩
    | cxx => cases h
  agree language path := by
    have hok : Toolchains.ofReply sampleToolchainsReply = .ok { c := some ⟨"cl", .string "", []⟩ } :=
      rfl
    have hanalyzer : Compiler.isAnalyzer "cl" = true := by decide +kernel
    cases language with
    | c =>
      constructor
      · rintro ⟨toolchains, compiler, h, hcompiler, rfl⟩
        rw [hok] at h
        cases h
        cases hcompiler
        exact ⟨rfl, hanalyzer⟩
      · rintro ⟨h, -⟩
        cases h
        exact ⟨_, _, hok, rfl, rfl⟩
    | cxx =>
      constructor
      · rintro ⟨toolchains, compiler, h, hcompiler, rfl⟩
        rw [hok] at h
        cases h
        cases hcompiler
      · rintro ⟨h, -⟩
        cases h

/-- The program gets to its end whether it tells of the toolchains reply or not. -/
theorem isSome_afterConfiguring :
    (afterConfiguring none "/b" none (tellingHost sampleResponses)).isSome = true := by
  decide +kernel

theorem isSome_afterConfiguring_without :
    (afterConfiguring none "/b" none
      (tellingHost (Reply.without "toolchains" sampleResponses))).isSome = true := by
  decide +kernel

theorem withoutToolchains_sample :
    WithoutToolchains (toldHost sampleResponses isSome_afterConfiguring)
      (toldHost (Reply.without "toolchains" sampleResponses) isSome_afterConfiguring_without)
      (Path.join "/b" apiDirectory) (indexWith sampleResponses)
      (indexWith (Reply.without "toolchains" sampleResponses)) sampleResponses
      sampleToolchainsReply sampleCache := by
  have hnamed : ∀ response ∈ sampleResponses, Reply.NamesFile response := by
    simp [sampleResponses, namesFile_sampleResponse]
  -- what the three reply files hold, on both hosts
  have hfiles : ∀ file ∈ [("c", sampleCacheReply), ("m", sampleCodemodelReply),
      ("t", sampleToolchainsReply)],
      (Reply.load (toldHost sampleResponses isSome_afterConfiguring)
          (Path.join (Reply.directory (Path.join "/b" apiDirectory)) file.1)).toOption =
        some file.2 ∧
      (Reply.load (toldHost (Reply.without "toolchains" sampleResponses)
          isSome_afterConfiguring_without)
          (Path.join (Reply.directory (Path.join "/b" apiDirectory)) file.1)).toOption =
        some file.2 := by
    decide +kernel
  simp only [List.forall_mem_cons, toOption_eq_some] at hfiles
  obtain ⟨⟨hcache, hcache'⟩, ⟨hcodemodel, hcodemodel'⟩, ⟨htoolchains, htoolchains'⟩, -⟩ := hfiles
  refine ⟨hasResponses_indexWith (toOption_eq_some.1 (by decide +kernel)) hnamed, ⟨?_, ?_, ?_⟩,
    ⟨"3.20", [3, 20], Reply.version_eq_ok.1 rfl, rfl, by decide⟩, ?_, ?_, ?_⟩
  · exact hasResponses_indexWith (toOption_eq_some.1 (by decide +kernel)) fun response hresponse =>
      hnamed response (List.mem_filter.1 hresponse).1
  · exact agree_indexWith _ _
  · have hlast : ∀ kind ∈ kinds, ∀ name ∈ Reply.lastFile? kind sampleResponses,
        name ∈ ["c", "m", "t"] := by decide
    intro kind hkind name hname
    have hname := hlast kind hkind name hname
    simp only [List.mem_cons, List.not_mem_nil, or_false] at hname
    rcases hname with rfl | rfl | rfl
    · exact hcache'.trans hcache.symm
    · exact hcodemodel'.trans hcodemodel.symm
    · exact htoolchains'.trans htoolchains.symm
  · exact ⟨_, ⟨"c", by decide, hcache⟩, rfl⟩
  · exact ⟨_, (.string "/s", ["/b/.cmake/api/v1/reply/x"]), ⟨"m", by decide, hcodemodel⟩,
      by decide +kernel⟩
  · exact ⟨"t", by decide, htoolchains⟩

/-- A client that has loaded the sample project and opened a stream. -/
def sampleSession : Session :=
  (Session.fresh (tellingHost sampleResponses)).run [.load "/b" none, .openStream {}]

theorem load_sameOutcome_sample :
    SameOutcome ((load none "/b" none).on (tellingHost sampleResponses)).1
      ((load none "/b" none).on
        (tellingHost (Reply.without "toolchains" sampleResponses))).1 ∧
    (sampleSession.given 0 [.pull 0 none]).map (·.commands.map (·.source)) =
      [["/s/a.c", "/s/b.c", "/s/a.c"]] :=
  ⟨load_sameOutcome (configures_tellingHost _ isSome_afterConfiguring)
    (configures_tellingHost _ isSome_afterConfiguring_without) withoutToolchains_sample
    namesSamePaths_sample, by decide +kernel⟩

end BuildGraph

end BuildAnalysis
