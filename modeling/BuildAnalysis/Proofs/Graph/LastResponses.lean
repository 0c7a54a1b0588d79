import BuildAnalysis.Proofs.Graph.Loaded
import BuildAnalysis.Proofs.Json.Equality
import Mathlib.Logic.Relation

/-!
# The responses that count

Of the responses in an index only the last one of each kind counts. Wherever it stands, and whatever
else stands among the responses, the replies tell the same graph, or fail in the same way; and a kind
that has to be there is missed before any reply file is looked at.

* `Reply.lastFile?_of_rearranged`: what may happen to responses without any effect.
* `BuildGraph.ofReplies_lastCounts`: what the replies tell when responses differ.
-/

namespace BuildAnalysis

namespace Reply

variable {index other : Json} {kind : String} {kinds : List String} {list list' : List Json}

/-- The version of an index does not stand among the replies. -/
theorem version_of_agreeExceptAt {path : List String}
    (h : Json.AgreeExceptAt ("reply" :: path) index other) : version other = version index := by
  have hversion : other.find "version" = index.find "version" := h.2 "version" (by decide)
  have hcmake : other.find "cmake" = index.find "cmake" := h.2 "cmake" (by decide)
  have howner : versionOf? other = versionOf? index := by
    rw [versionOf?, versionOf?, hversion]
  rw [version, version, howner, hcmake]

/-- One step in which responses are rearranged: two neighbours change places that are not of the same
kind, or a value is put among them that is a response of none of the kinds. -/
inductive Rearranged (kinds : List String) : List Json → List Json → Prop
  | swap (front back : List Json) (first second : Json)
    (h : ∀ kind ∈ kinds, fileNamed? kind first = none ∨ fileNamed? kind second = none) :
    Rearranged kinds (front ++ first :: second :: back) (front ++ second :: first :: back)
  | insert (front back : List Json) (noise : Json)
    (h : ∀ kind ∈ kinds, fileNamed? kind noise = none) :
    Rearranged kinds (front ++ back) (front ++ noise :: back)

/-- The responses of one kind are not touched when responses are rearranged. -/
theorem Rearranged.filterMap_eq (h : Rearranged kinds list list') (hkind : kind ∈ kinds) :
    list'.filterMap (fileNamed? kind) = list.filterMap (fileNamed? kind) := by
  cases h with
  | swap front back first second hneighbours =>
    -- only one of the two neighbours is left, or none
    rcases hneighbours kind hkind with hnone | hnone
    · simp only [List.filterMap_append, List.filterMap_cons, hnone]
    · simp only [List.filterMap_append, List.filterMap_cons, hnone]
  | insert front back noise hnoise =>
    rw [List.filterMap_append, List.filterMap_append, List.filterMap_cons_none (hnoise kind hkind)]

/-- However often responses are rearranged, the last one of a kind stays the same. -/
theorem lastFile?_of_rearranged (h : Relation.EqvGen (Rearranged kinds) list list')
    (hkind : kind ∈ kinds) : lastFile? kind list' = lastFile? kind list := by
  induction h with
  | rel list list' hstep => rw [lastFile?, lastFile?, hstep.filterMap_eq hkind]
  | refl list => rfl
  | symm list list' _ ih => exact ih.symm
  | trans list middle list' _ _ first second => exact second.trans first

end Reply

namespace BuildGraph

variable {host other : Host} {api directory : String} {index index' : Json}
  {list list' : List Json}

/-- The kinds of the replies that a graph is made from. None of them holds a surrogate, so a kind is
not taken for another one because surrogates that stand alone are all read as one character. -/
def kinds : List String := queryKinds.map (·.1)

/-- Reply files tell the same graph, or fail in the same way, if they are at the same paths and have
the same contents. -/
theorem ofPaths_congr {path? path?' : String → Option String}
    (hpaths : ∀ kind ∈ kinds, path?' kind = path? kind)
    (hfiles : ∀ kind ∈ kinds, ∀ path, path? kind = some path →
      Reply.load other path = Reply.load host path) :
    ofPaths other directory path?' = ofPaths host directory path? := by
  have hread {α : Type} {kind path : String} (hkind : kind ∈ kinds) (hpath : path? kind = some path)
      (file : ReplyFile) (ask : Json → Except Json.Fault α) :
      readReply other file path ask = readReply host file path ask := by
    rw [readReply, readReply, hfiles kind hkind path hpath]
  have hcacheKind : "cache" ∈ kinds := by decide
  have hcodemodelKind : "codemodel" ∈ kinds := by decide
  have htoolchainsKind : "toolchains" ∈ kinds := by decide
  rw [ofPaths, ofPaths, hpaths _ hcacheKind, hpaths _ hcodemodelKind, hpaths _ htoolchainsKind]
  -- the files are taken in the order in which they are read
  cases hcache : path? "cache" with
  | none => rfl
  | some cacheFile =>
    cases hcodemodel : path? "codemodel" with
    | none => rfl
    | some codemodelFile =>
      simp only [hread hcacheKind hcache, hread hcodemodelKind hcodemodel]
      cases htoolchains : path? "toolchains" with
      | none => rfl
      | some file => simp only [hfiles _ htoolchainsKind file htoolchains]

/-! ## Two indexes -/

/-- Whether the newest index of a host has a list of responses to the query of the client, in which
every response names a kind and a reply file. -/
structure HasResponses (host : Host) (api : String) (index : Json) (list : List Json) : Prop where
  isIndex : Reply.IsIndexOf host api index
  isList : Reply.responsesValue? index client = some (.array list)
  named : ∀ response ∈ list, Reply.isResponse response = true → Reply.NamesFile response

/-- Whether the reply file that the last response of a kind names holds a value. -/
def HoldsReply (host : Host) (api : String) (list : List Json) (kind : String) (data : Json) : Prop :=
  ∃ name, Reply.lastFile? kind list = some name ∧
    Reply.load host (Path.join (Reply.directory api) name) = .ok data

/-- Whether another host has an index that differs in the list of responses alone, and the same reply
files of the kinds that are asked for. -/
structure DiffersInResponses (host other : Host) (api : String) (index index' : Json)
    (list list' : List Json) : Prop where
  responses : HasResponses other api index' list'
  agree : Json.AgreeExceptAt ["reply", client, "query.json", "responses"] index index'
  files : ∀ kind ∈ kinds, ∀ name, Reply.lastFile? kind list = some name →
    Reply.load other (Path.join (Reply.directory api) name) =
      Reply.load host (Path.join (Reply.directory api) name)

/-- What is known of a host whose index has a list of responses. -/
structure LastCounts (host : Host) (api : String) (index : Json) (list : List Json) : Prop where
  /-- An index whose last responses name the same reply files tells the same graph, or the replies
  fail in the same way. -/
  same : ∀ other index' list', DiffersInResponses host other api index index' list list' →
    (∀ kind ∈ kinds, Reply.lastFile? kind list' = Reply.lastFile? kind list) →
    ofReplies other api = ofReplies host api
  /-- So does an index whose responses are the same ones up to their order, and up to values that are
  no responses of these kinds. -/
  rearranged : ∀ other index' list', DiffersInResponses host other api index index' list list' →
    Relation.EqvGen (Reply.Rearranged kinds) list list' → ofReplies other api = ofReplies host api
  /-- A missing response about the cache is told whatever the reply files are. -/
  cacheMissing : IsSupported index → Reply.lastFile? "cache" list = none →
    ofReplies host api = .error (.analysis (.responseMissing "cache"))
  /-- So is a missing response about the codemodel, when there is one about the cache. -/
  codemodelMissing : IsSupported index → Reply.lastFile? "cache" list ≠ none →
    Reply.lastFile? "codemodel" list = none →
    ofReplies host api = .error (.analysis (.responseMissing "codemodel"))

/-- The replies are those at the paths that the last responses tell, if the index is new enough. -/
theorem HasResponses.ofReplies_eq (h : HasResponses host api index list) :
    ofReplies host api = (do
      checkVersion index
      ofPaths host (Reply.directory api) fun kind =>
        (Reply.lastFile? kind list).map (Path.join (Reply.directory api))) := by
  have hlist := Reply.responses_of_array h.isList
  have hnamed : ∀ response ∈ list.filter Reply.isResponse, Reply.NamesFile response := by
    intro response hresponse
    obtain ⟨hmem, his⟩ := List.mem_filter.1 hresponse
    exact h.named response hmem his
  obtain ⟨files, hfiles⟩ := Reply.exists_files_eq_ok.2 hnamed
  have hpaths : pathOf? index (Reply.directory api) = fun kind =>
      (Reply.lastFile? kind list).map (Path.join (Reply.directory api)) := by
    funext kind
    rw [pathOf?, Reply.fileName?_of_array h.isList]
  rw [ofReplies, Reply.readIndex_eq_ok.2 h.isIndex, ← hpaths]
  change (checkVersion index >>= fun _ => ofIndex host (Reply.directory api) index) = _
  rw [ofIndex_eq_ofPaths hlist hfiles]

/-- The version of an index that differs in the responses alone counts in the same way. -/
theorem DiffersInResponses.checkVersion_eq
    (h : DiffersInResponses host other api index index' list list') :
    checkVersion index' = checkVersion index := by
  rw [checkVersion, checkVersion, Reply.version_of_agreeExceptAt h.agree]

/-- When the last responses name the same files, so that these have the same contents, the replies
tell the same. -/
theorem DiffersInResponses.ofReplies_eq (hhost : HasResponses host api index list)
    (h : DiffersInResponses host other api index index' list list')
    (hlast : ∀ kind ∈ kinds, Reply.lastFile? kind list' = Reply.lastFile? kind list) :
    ofReplies other api = ofReplies host api := by
  have hpaths : ofPaths other (Reply.directory api)
      (fun kind => (Reply.lastFile? kind list').map (Path.join (Reply.directory api))) =
        ofPaths host (Reply.directory api)
          (fun kind => (Reply.lastFile? kind list).map (Path.join (Reply.directory api))) := by
    refine ofPaths_congr (fun kind hkind => by rw [hlast kind hkind]) fun kind hkind path hpath => ?_
    obtain ⟨name, hname, rfl⟩ := Option.map_eq_some_iff.1 hpath
    exact h.files kind hkind name hname
  rw [h.responses.ofReplies_eq, hhost.ofReplies_eq, h.checkVersion_eq, hpaths]

/-- Of the responses of an index the last one of each kind counts, and nothing else. -/
theorem ofReplies_lastCounts (h : HasResponses host api index list) :
    LastCounts host api index list where
  same _ _ _ hother hlast := hother.ofReplies_eq h hlast
  rearranged _ _ _ hother hsteps :=
    hother.ofReplies_eq h fun _ hkind => Reply.lastFile?_of_rearranged hsteps hkind
  cacheMissing hsupported hcache := by
    rw [h.ofReplies_eq, checkVersion_eq_ok.2 hsupported, ofPaths]
    simp only [hcache, Option.map_none]
    rfl
  codemodelMissing hsupported hcache hcodemodel := by
    obtain ⟨name, hname⟩ := Option.ne_none_iff_exists'.1 hcache
    rw [h.ofReplies_eq, checkVersion_eq_ok.2 hsupported, ofPaths]
    simp only [hname, hcodemodel, Option.map_some, Option.map_none]
    rfl

/-- An index with a list of responses. -/
def indexWith (list : List Json) : Json :=
  .object [("reply", .object [(client, .object [("query.json",
      .object [("responses", .array list)])])]),
    ("version", .object [("string", .string "3.20")])]

/-- The host of the sample with an index that has a list of responses. -/
def hostWith (list : List Json) : Host :=
  { sampleHost with
    files := sampleHost.files.put (replyPlace "index-2.json") (replyFile (indexWith list)) }

theorem agree_indexWith (list list' : List Json) :
    Json.AgreeExceptAt ["reply", client, "query.json", "responses"] (indexWith list)
      (indexWith list') :=
  Json.agreeExceptAt_cons (Json.agreeExceptAt_cons (Json.agreeExceptAt_cons
    (Json.agreeExceptAt_cons (show Json.AgreeExceptAt [] _ _ from trivial) _) _) _) _

theorem hasResponses_indexWith (hread : Reply.readIndex host api = .ok (indexWith list))
    (hnamed : ∀ response ∈ list, Reply.NamesFile response) :
    HasResponses host api (indexWith list) list where
  isIndex := Reply.readIndex_eq_ok.1 hread
  isList := rfl
  named response hresponse _ := hnamed response hresponse

/-- The responses of the sample project. -/
def sampleResponses : List Json :=
  [sampleResponse "cache" "c", sampleResponse "codemodel" "m", sampleResponse "toolchains" "t"]

/-- The same responses in another order, with another one among them that does not count. -/
def rearrangedResponses : List Json :=
  [sampleResponse "codemodel" "m", sampleResponse "cache" "c", sampleResponse "error" "e",
    sampleResponse "toolchains" "t"]

theorem namesFile_sampleResponse (kind name : String) :
    Reply.NamesFile (sampleResponse kind name) :=
  ⟨⟨.string kind, rfl, rfl⟩, name, rfl⟩

theorem hasResponses_sample : HasResponses (hostWith sampleResponses) "/b/.cmake/api/v1"
    (indexWith sampleResponses) sampleResponses :=
  hasResponses_indexWith (toOption_eq_some.1 (by decide +kernel))
    (by simp [sampleResponses, namesFile_sampleResponse])

theorem differsInResponses_sample :
    DiffersInResponses (hostWith sampleResponses) (hostWith rearrangedResponses)
      "/b/.cmake/api/v1" (indexWith sampleResponses) (indexWith rearrangedResponses)
      sampleResponses rearrangedResponses where
  responses := hasResponses_indexWith (toOption_eq_some.1 (by decide +kernel))
    (by simp [rearrangedResponses, namesFile_sampleResponse])
  agree := agree_indexWith _ _
  files := by
    have hfiles : ∀ kind ∈ kinds, ∀ name ∈ Reply.lastFile? kind sampleResponses,
        ∃ value ∈ (Reply.load (hostWith rearrangedResponses)
            (Path.join (Reply.directory "/b/.cmake/api/v1") name)).toOption,
          (Reply.load (hostWith sampleResponses)
            (Path.join (Reply.directory "/b/.cmake/api/v1") name)).toOption = some value := by
      decide +kernel
    intro kind hkind name hname
    obtain ⟨value, hvalue, hsame⟩ := hfiles kind hkind name hname
    rw [toOption_eq_some.1 hvalue, toOption_eq_some.1 hsame]

theorem ofReplies_lastCounts_sample :
    HasResponses (hostWith sampleResponses) "/b/.cmake/api/v1" (indexWith sampleResponses)
        sampleResponses ∧
      ofReplies (hostWith rearrangedResponses) "/b/.cmake/api/v1" =
        ofReplies (hostWith sampleResponses) "/b/.cmake/api/v1" := by
  refine ⟨hasResponses_sample,
    (ofReplies_lastCounts hasResponses_sample).rearranged _ _ _ differsInResponses_sample ?_⟩
  -- the first two change places, and the one that does not count is put before the last
  exact .trans _ _ _ (.rel _ _ (.swap [] _ _ _ (by decide)))
    (.rel _ _ (.insert [_, _] _ _ (by decide)))

end BuildGraph

end BuildAnalysis
