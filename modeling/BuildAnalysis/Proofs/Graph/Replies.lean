import BuildAnalysis.Graph.Basic
import BuildAnalysis.Proofs.Reply.NewestIndex
import BuildAnalysis.Proofs.Reply.Responses
import BuildAnalysis.Proofs.Toolchain.Cache
import BuildAnalysis.Proofs.Version

/-!
# What a build graph tells

A build graph tells what three reply files hold. Each part of it is described here by the values of
these files alone, without the order in which they are read. Names are told apart as values have them:
names that differ in nothing but surrogates that stand alone were read as one text, and are one name.

* `cacheOfReply_ok`: the cache variables.
* `codemodelOfReply_ok`: the source directory and the target files.
* `ofIndex_ok`: the reply files that are read.
* `ofReplies_ok`, `ofReplies_congr`: the index that they are read from, and what else counts.
-/

namespace BuildAnalysis.BuildGraph

variable {data : Json} {directory : String}

/-! ## The cache -/

/-- The value of the variable that an entry describes, if its name is the given one. -/
def valueFor? (name entry : Json) : Option Json :=
  if (entry.find "name").any (Json.sameKey · name) then entry.find "value" else none

/-- The value of the last entry with a name. -/
def lastValue? (entries : List Json) (name : Json) : Option Json :=
  (entries.filterMap (valueFor? name)).getLast?

/-- Whether a cache has the variables that a reply describes: each entry has a name and a value, and
a variable has the value of the last entry with its name. Entries whose names differ in nothing but
surrogates that stand alone have one name, so the last of them counts. -/
structure IsCacheOf (data : Json) (cache : Cache) (entries : List Json) : Prop where
  isObject : data.kind = .object
  items : ((data.find "entries").getD (.array [])).items = .ok entries
  members : ∀ entry ∈ entries, ∃ name value, entry.find "name" = some name ∧
    name.key?.isSome = true ∧ entry.find "value" = some value
  values : ∀ name, cache.value? name = lastValue? entries name

theorem addCacheEntry_ok {cache after : Cache} {entry : Json}
    (h : addCacheEntry cache entry = .ok after) :
    ∃ name value, entry.find "name" = some name ∧ name.key?.isSome = true ∧
      entry.find "value" = some value ∧ after = cache.put name value := by
  rw [addCacheEntry] at h
  obtain ⟨value, hvalue, h⟩ := bind_eq_ok.1 h
  obtain ⟨name, hname, h⟩ := bind_eq_ok.1 h
  obtain ⟨key, hkey, h⟩ := bind_eq_ok.1 h
  cases h
  obtain ⟨hsome, rfl⟩ := Json.key_eq_ok.1 hkey
  exact ⟨name, value, Json.member_eq_ok.1 hname, hsome, Json.member_eq_ok.1 hvalue, rfl⟩

/-- After some entries a variable has the value of the last one with its name, or else the value
that it had before. -/
theorem foldlM_addCacheEntry_ok {entries : List Json} {cache after : Cache}
    (h : entries.foldlM addCacheEntry cache = .ok after) :
    (∀ entry ∈ entries, ∃ name value, entry.find "name" = some name ∧
      name.key?.isSome = true ∧ entry.find "value" = some value) ∧
    ∀ name, after.value? name = (lastValue? entries name).or (cache.value? name) := by
  induction entries generalizing cache with
  | nil =>
    cases h
    exact ⟨by simp, fun name => rfl⟩
  | cons entry rest ih =>
    rw [List.foldlM_cons] at h
    obtain ⟨next, hnext, hrest⟩ := bind_eq_ok.1 h
    obtain ⟨n, v, hn, hkey, hv, rfl⟩ := addCacheEntry_ok hnext
    obtain ⟨hmembers, hvalues⟩ := ih hrest
    refine ⟨fun e he => ?_, fun name => ?_⟩
    · rcases List.mem_cons.1 he with rfl | he
      · exact ⟨n, v, hn, hkey, hv⟩
      · exact hmembers e he
    · -- an entry counts only if none of those after it has its name
      rw [hvalues, Cache.value?_put, lastValue?, lastValue?, List.filterMap_cons, valueFor?, hn, hv,
        Option.any_some]
      by_cases hsame : Json.sameKey n name = true
      · rw [if_pos hsame, if_pos hsame, List.getLast?_cons, Option.some_or]
        cases (rest.filterMap (valueFor? name)).getLast? with
        | none => rfl
        | some value => rfl
      · rw [if_neg hsame, if_neg hsame]

theorem cacheOfReply_ok {cache : Cache} (h : cacheOfReply data = .ok cache) :
    ∃ entries, IsCacheOf data cache entries := by
  rw [cacheOfReply] at h
  obtain ⟨value, hvalue, h⟩ := bind_eq_ok.1 h
  obtain ⟨entries, hentries, hfold⟩ := bind_eq_ok.1 h
  obtain ⟨hobject, rfl⟩ := Json.memberD_eq_ok.1 hvalue
  obtain ⟨hmembers, hvalues⟩ := foldlM_addCacheEntry_ok hfold
  refine ⟨entries, hobject, hentries, hmembers, fun name => ?_⟩
  rw [hvalues name]
  exact Option.or_none

/-! ## The codemodel -/

/-- Whether a source directory and target files are those that a reply describes: the target files
are named by the targets of the first configuration, in their order. -/
structure IsCodemodelOf (directory : String) (data : Json) (sourceRoot : Json)
    (targetFiles : List String) : Prop where
  sourceRoot : ∃ paths, data.find "paths" = some paths ∧ paths.find "source" = some sourceRoot
  targetFiles : ∃ configuration others targets,
    data.find "configurations" = some (.array (configuration :: others)) ∧
      ((configuration.find "targets").getD (.array [])).items = .ok targets ∧
      List.Forall₂ (fun target file => ∃ name, target.find "jsonFile" = some (.string name) ∧
        file = Path.join directory name) targets targetFiles

theorem codemodelOfReply_ok {sourceRoot : Json} {targetFiles : List String}
    (h : codemodelOfReply directory data = .ok (sourceRoot, targetFiles)) :
    IsCodemodelOf directory data sourceRoot targetFiles := by
  rw [codemodelOfReply] at h
  obtain ⟨configurations, hconfigurations, h⟩ := bind_eq_ok.1 h
  obtain ⟨paths, hpaths, h⟩ := bind_eq_ok.1 h
  obtain ⟨source, hsource, h⟩ := bind_eq_ok.1 h
  obtain ⟨configuration, hfirst, h⟩ := bind_eq_ok.1 h
  obtain ⟨value, hvalue, h⟩ := bind_eq_ok.1 h
  obtain ⟨targets, htargets, h⟩ := bind_eq_ok.1 h
  obtain ⟨files, hfiles, h⟩ := bind_eq_ok.1 h
  cases h
  obtain ⟨hobject, rfl⟩ := Json.memberD_eq_ok.1 hvalue
  refine ⟨⟨paths, Json.member_eq_ok.1 hpaths, Json.member_eq_ok.1 hsource⟩, ?_⟩
  -- the configuration was asked for its targets, so it is an object
  obtain ⟨others, rfl⟩ := Json.array_of_first hfirst hobject
  refine ⟨configuration, others, targets, Json.member_eq_ok.1 hconfigurations, htargets, ?_⟩
  refine (mapM_eq_ok.1 hfiles).imp fun target file hfile => ?_
  obtain ⟨jsonFile, hjsonFile, hfile⟩ := bind_eq_ok.1 hfile
  obtain ⟨name, hname, hfile⟩ := bind_eq_ok.1 hfile
  cases hfile
  rw [Json.path_eq_ok.1 hname] at hjsonFile
  exact ⟨name, Json.member_eq_ok.1 hjsonFile, rfl⟩

/-! ## The graph -/

/-- Whether the reply file of a kind holds a value, on a host. -/
def ReplyHolds (host : Host) (directory : String) (index : Json) (kind : String) (data : Json) :
    Prop :=
  ∃ name, Reply.fileName? index client kind = some name ∧
    Reply.load host (Path.join directory name) = .ok data

/-- Whether a graph tells what the reply files hold that an index names. The compilers are those of
the toolchains reply; those that the cache names count only when there is no such reply. -/
structure IsGraphOf (host : Host) (directory : String) (index : Json) (graph : BuildGraph) :
    Prop where
  cache : ∃ data entries, ReplyHolds host directory index "cache" data ∧
    IsCacheOf data graph.cache entries
  codemodel : ∃ data, ReplyHolds host directory index "codemodel" data ∧
    IsCodemodelOf directory data graph.sourceRoot graph.targetFiles
  toolchains :
    (∃ data, ReplyHolds host directory index "toolchains" data ∧
      Toolchains.ofReply data = .ok graph.toolchains) ∨
    (Reply.fileName? index client "toolchains" = none ∧
      Toolchains.ofCache graph.cache = .ok graph.toolchains)

theorem readReply_eq_ok {α : Type} {host : Host} {file : ReplyFile} {path : String}
    {ask : Json → Except Json.Fault α} {a : α} :
    readReply host file path ask = .ok a ↔
      ∃ data, Reply.load host path = .ok data ∧ ask data = .ok a := by
  rw [readReply, bind_eq_ok]
  simp only [ReplyFile.check, mapError_eq_ok]

theorem ofIndex_ok {host : Host} {index : Json} {graph : BuildGraph}
    (h : ofIndex host directory index = .ok graph) : IsGraphOf host directory index graph := by
  rw [ofIndex] at h
  obtain ⟨list, hlist, h⟩ := bind_eq_ok.1 h
  obtain ⟨files, hfiles, h⟩ := bind_eq_ok.1 h
  have hpath := Reply.path?_files (mapError_eq_ok.1 hlist) (mapError_eq_ok.1 hfiles)
  -- a path that was found is that of the reply file in the last response of its kind
  have hholds {kind path : String} {data : Json} (hsome : Reply.path? files kind = some path)
      (hload : Reply.load host path = .ok data) : ReplyHolds host directory index kind data := by
    rw [hpath, Option.map_eq_some_iff] at hsome
    obtain ⟨name, hname, rfl⟩ := hsome
    exact ⟨name, hname, hload⟩
  cases hcachePath : Reply.path? files "cache" with
  | none =>
    rw [hcachePath] at h
    cases h
  | some cacheFile =>
    rw [hcachePath] at h
    cases hcodemodelPath : Reply.path? files "codemodel" with
    | none =>
      rw [hcodemodelPath] at h
      cases h
    | some codemodelFile =>
      rw [hcodemodelPath] at h
      obtain ⟨cache, hcache, h⟩ := bind_eq_ok.1 h
      obtain ⟨⟨sourceRoot, targetFiles⟩, hcodemodel, h⟩ := bind_eq_ok.1 h
      obtain ⟨cacheData, hcacheData, hcache⟩ := readReply_eq_ok.1 hcache
      obtain ⟨codemodelData, hcodemodelData, hcodemodel⟩ := readReply_eq_ok.1 hcodemodel
      obtain ⟨entries, hentries⟩ := cacheOfReply_ok hcache
      have hcacheHolds := hholds hcachePath hcacheData
      have hcodemodelHolds := hholds hcodemodelPath hcodemodelData
      have hcodemodel := codemodelOfReply_ok hcodemodel
      cases htoolchainsPath : Reply.path? files "toolchains" with
      | some file =>
        rw [htoolchainsPath] at h
        obtain ⟨data, hdata, h⟩ := bind_eq_ok.1 h
        obtain ⟨toolchains, htoolchains, h⟩ := bind_eq_ok.1 h
        cases h
        exact ⟨⟨_, _, hcacheHolds, hentries⟩, ⟨_, hcodemodelHolds, hcodemodel⟩,
          Or.inl ⟨data, hholds htoolchainsPath hdata, mapError_eq_ok.1 htoolchains⟩⟩
      | none =>
        -- without a toolchains reply the compilers are those that the cache names
        rw [htoolchainsPath] at h
        obtain ⟨toolchains, htoolchains, h⟩ := bind_eq_ok.1 h
        cases h
        rw [hpath, Option.map_eq_none_iff] at htoolchainsPath
        exact ⟨⟨_, _, hcacheHolds, hentries⟩, ⟨_, hcodemodelHolds, hcodemodel⟩,
          Or.inr ⟨htoolchainsPath, htoolchains⟩⟩

/-! ## The paths of the reply files -/

/-- The build graph that the reply files at the paths of their kinds describe. -/
def ofPaths (host : Host) (directory : String) (path? : String → Option String) :
    Except Failure BuildGraph := do
  let some cacheFile := path? "cache"
    | throw (.analysis (.responseMissing "cache"))
  let some codemodelFile := path? "codemodel"
    | throw (.analysis (.responseMissing "codemodel"))
  let cache ← readReply host (.cache cacheFile) cacheFile cacheOfReply
  let (sourceRoot, targetFiles) ←
    readReply host (.codemodel codemodelFile) codemodelFile (codemodelOfReply directory)
  let toolchains ←
    match path? "toolchains" with
    | some file => do (Toolchains.ofReply (← Reply.load host file)).mapError .analysis
    | none => Toolchains.ofCache cache
  return { toolchains, sourceRoot, cache, targetFiles }

/-- The compilers that a toolchains reply tells, or the cache without one. -/
def toolchainsOf (host : Host) (cache : Cache) : Option String → Except Failure Toolchains
  | some file => do (Toolchains.ofReply (← Reply.load host file)).mapError .analysis
  | none => Toolchains.ofCache cache

/-- When the replies that have to be there are, the cache is read first, then the codemodel, and then
the compilers are looked for. -/
theorem ofPaths_eq_bind {host : Host} {path? : String → Option String}
    {cacheFile codemodelFile : String} (hcacheFile : path? "cache" = some cacheFile)
    (hcodemodelFile : path? "codemodel" = some codemodelFile) :
    ofPaths host directory path? = (do
      let cache ← readReply host (.cache cacheFile) cacheFile cacheOfReply
      let codemodel ← readReply host (.codemodel codemodelFile) codemodelFile
        (codemodelOfReply directory)
      (toolchainsOf host cache (path? "toolchains")).map
        fun toolchains => ⟨toolchains, codemodel.1, cache, codemodel.2⟩) := by
  rw [ofPaths, hcacheFile, hcodemodelFile]
  refine congrArg (_ >>= ·) (funext fun cache => congrArg (_ >>= ·) (funext fun codemodel => ?_))
  cases path? "toolchains" with
  | none => exact bind_pure_comp _ (Toolchains.ofCache cache)
  | some file =>
    simp only [toolchainsOf]
    cases Reply.load host file with
    | error failure => rfl
    | ok data => exact bind_pure_comp _ ((Toolchains.ofReply data).mapError Failure.analysis)

/-- An index is asked for the paths of the reply files, and for nothing else. -/
theorem ofIndex_eq_bind (host : Host) (directory : String) (index : Json) :
    ofIndex host directory index = (do
      let responses ← (Reply.responses index client).mapError .fault
      let files ← (Reply.files directory responses).mapError .fault
      ofPaths host directory (Reply.path? files)) := rfl

/-- The path at which an index tells the reply file of a kind to be. -/
def pathOf? (index : Json) (directory kind : String) : Option String :=
  (Reply.fileName? index client kind).map (Path.join directory)

/-- An index whose responses can be used is told by the paths of the reply files. -/
theorem ofIndex_eq_ofPaths {index : Json} {list : List Json} {files : List (Json × String)}
    (hlist : Reply.responses index client = .ok list)
    (hfiles : Reply.files directory list = .ok files) (host : Host) :
    ofIndex host directory index = ofPaths host directory (pathOf? index directory) := by
  have hpaths : Reply.path? files = pathOf? index directory :=
    funext fun kind => Reply.path?_files hlist hfiles kind
  simp only [ofIndex_eq_bind, hlist, hfiles, mapError_ok, bind, Except.bind, hpaths]

/-! ## The newest index -/

/-- Whether an index was written by a CMake that is new enough. -/
def IsSupported (index : Json) : Prop :=
  ∃ text version, Reply.TellsVersion index text ∧ Version.parse text = .ok version ∧
    [3, 13, 7] ≤ version

theorem checkVersion_eq_ok {index : Json} : checkVersion index = .ok () ↔ IsSupported index := by
  have hminimum : Version.parse minimumVersion = .ok [3, 13, 7] := rfl
  have hrest (text : String) :
      (do if ← Version.atLeast text minimumVersion then return
          throw (.analysis (.unsupportedVersion text minimumVersion)) : Except Failure Unit) =
        .ok () ↔ Version.atLeast text minimumVersion = .ok true := by
    cases Version.atLeast text minimumVersion with
    | error failure => simp [bind, Except.bind]
    | ok enough =>
      cases enough with
      | false => simp [bind, Except.bind, throw, throwThe, MonadExceptOf.throw]
      | true => simp [bind, Except.bind, pure, Except.pure]
  rw [checkVersion, bind_eq_ok, IsSupported]
  refine exists_congr fun text => ?_
  rw [mapError_eq_ok, Reply.version_eq_ok, hrest, Version.atLeast_eq_ok hminimum]
  simp only [exists_and_left]

/-- A graph is made from the newest index, if that is one of a CMake that is new enough. -/
theorem ofReplies_ok {host : Host} {api : String} {graph : BuildGraph}
    (h : ofReplies host api = .ok graph) :
    ∃ index, Reply.IsIndexOf host api index ∧ IsSupported index ∧
      IsGraphOf host (Reply.directory api) index graph := by
  rw [ofReplies] at h
  obtain ⟨index, hindex, h⟩ := bind_eq_ok.1 h
  obtain ⟨u, hversion, h⟩ := bind_eq_ok.1 h
  exact ⟨index, Reply.readIndex_eq_ok.1 hindex, checkVersion_eq_ok.1 hversion, ofIndex_ok h⟩

/-! ## What the replies depend on -/

section

variable {host other : Host}

theorem load_congr (hfiles : other.files = host.files)
    (hdirectory : other.directory = host.directory) (hdepth : other.maxDepth = host.maxDepth) :
    Reply.load other = Reply.load host := by
  cases other
  cases host
  cases hfiles
  cases hdirectory
  cases hdepth
  rfl

/-- What the replies tell depends on nothing but the files, the current directory, and how deep values
may stand in each other. -/
theorem ofReplies_congr (hfiles : other.files = host.files)
    (hdirectory : other.directory = host.directory) (hdepth : other.maxDepth = host.maxDepth)
    (api : String) : ofReplies other api = ofReplies host api := by
  have hload : Reply.load other = Reply.load host := load_congr hfiles hdirectory hdepth
  have hreadReply {α : Type} (file : ReplyFile) (path : String)
      (ask : Json → Except Json.Fault α) :
      readReply other file path ask = readReply host file path ask := by
    simp only [readReply, hload]
  have hofIndex : ofIndex other = ofIndex host := by
    funext directory index
    simp only [ofIndex, hreadReply, hload]
  have hreadIndex : Reply.readIndex other api = Reply.readIndex host api := by
    rw [Reply.readIndex, Reply.readIndex, hload, Host.isDirectory, Host.list, Host.place, hfiles,
      hdirectory]
    rfl
  rw [ofReplies, ofReplies, hreadIndex, hofIndex]

end

end BuildAnalysis.BuildGraph
