import BuildAnalysis.Proofs.Analysis.Preparation
import BuildAnalysis.Proofs.Graph.Effects
import BuildAnalysis.Proofs.Graph.Loaded
import BuildAnalysis.Proofs.Host.Refusals
import BuildAnalysis.Proofs.Toolchain.Fallback

/-!
# Failures that are not reported

Most failures of loading are errors of the project or refusals of the system. The others come from the
replies alone: values that are used against their kind where nothing checks it, digits that are no
number in the version, and values that stand in too many others.

* `ofReplies_unreported`: the replies that fail without a report.
* `load_unreported_iff`: when loading fails without a report.
-/

namespace BuildAnalysis

/-! ## Answers -/

/-- Whether a failure is an error to report, or a refusal of the system. -/
def Failure.IsReported : Failure → Prop
  | .analysis _ | .system _ => True
  | _ => False

variable {ε α β : Type}

/-- Whether an answer is a failure that is not reported. -/
def Unreported (answer : Except Failure α) : Prop :=
  ∃ failure, answer = .error failure ∧ ¬ failure.IsReported

theorem not_unreported_ok (a : α) : ¬ Unreported (.ok a : Except Failure α) := by
  rintro ⟨failure, h, -⟩
  cases h

theorem unreported_error {failure : Failure} :
    Unreported (.error failure : Except Failure α) ↔ ¬ failure.IsReported := by
  constructor
  · rintro ⟨other, h, hother⟩
    cases h
    exact hother
  · exact fun h => ⟨failure, rfl, h⟩

theorem not_unreported_analysis (error : AnalysisError) :
    ¬ Unreported (.error (.analysis error) : Except Failure α) := by
  rw [unreported_error, not_not]
  trivial

/-- An answer that is made from others is not reported if one of them is not. -/
theorem unreported_bind {answer : Except Failure α} {rest : α → Except Failure β} :
    Unreported (answer >>= rest) ↔
      Unreported answer ∨ ∃ a, answer = .ok a ∧ Unreported (rest a) := by
  cases answer with
  | error failure =>
    have hbind : ((.error failure : Except Failure α) >>= rest) = .error failure := rfl
    rw [hbind, unreported_error, unreported_error]
    simp
  | ok a =>
    have hbind : ((.ok a : Except Failure α) >>= rest) = rest a := rfl
    rw [hbind]
    simp [not_unreported_ok]

theorem unreported_map {answer : Except Failure α} {f : α → β} :
    Unreported (answer.map f) ↔ Unreported answer := by
  cases answer with
  | error failure => exact unreported_error.trans unreported_error.symm
  | ok a => exact iff_of_false (not_unreported_ok (f a)) (not_unreported_ok a)

/-- Errors of the project are reported. -/
theorem not_unreported_mapError (answer : Except AnalysisError α) :
    ¬ Unreported (answer.mapError .analysis) := by
  cases answer with
  | error e => exact not_unreported_analysis e
  | ok a => exact not_unreported_ok a

/-- Faults outside of a checked reply are not. -/
theorem unreported_fault {answer : Except Json.Fault α} :
    Unreported (answer.mapError .fault) ↔ ¬ ∃ a, answer = .ok a := by
  cases answer with
  | error fault =>
    rw [mapError_error, unreported_error]
    simp [Failure.IsReported]
  | ok a =>
    rw [mapError_ok]
    simp [not_unreported_ok]

/-- A request to the system is reported unless it was never made. -/
theorem unreported_ofSystem {onRefusal : Host.SystemError → Failure} {e : Host.SystemError}
    (h : ∀ e, (onRefusal e).IsReported) (he : e.IsAnswer) :
    (Failure.ofSystem onRefusal e).IsReported := by
  cases e with
  | invalidPath => exact absurd rfl he.1
  | tooDeep => exact absurd rfl he.2
  | _ => exact h _

/-! ## Reply files -/

namespace Reply

variable {host : Host} {path api : String} {index : Json}

/-- Whether a file holds values that stand in more others than the host has room for. -/
def IsTooDeep (host : Host) (path : String) : Prop :=
  ∃ bytes, host.files.read host.place path = .ok bytes ∧
    Json.readBytes bytes host.maxDepth = .error .tooDeep

/-- A file that can be read has a path. -/
theorem ne_empty_of_read {bytes : List UInt8} (h : host.files.read host.place path = .ok bytes) :
    path ≠ "" := by
  rintro rfl
  have hcheck : Host.FileTree.checkPath "" = .error (.notFound "") := rfl
  rw [Host.FileTree.read, Host.FileTree.locate, hcheck] at h
  cases h

/-- Reading a reply file fails without a report only if values stand in too many others. -/
theorem load_unreported : Unreported (load host path) ↔ IsTooDeep host path := by
  rw [load, IsTooDeep]
  by_cases hpath : path = ""
  · subst hpath
    refine iff_of_false (not_unreported_analysis _) ?_
    rintro ⟨bytes, hread, -⟩
    exact ne_empty_of_read hread rfl
  rw [if_neg (by simpa using hpath)]
  by_cases hfile : host.isFile path = true
  · obtain ⟨bytes, hread⟩ := Host.FileTree.isFile_iff.1 hfile
    rw [hfile, hread]
    simp only [Bool.not_true, Bool.false_eq_true, if_false, Except.ok.injEq, exists_eq_left']
    cases hjson : Json.readBytes bytes host.maxDepth with
    | ok data =>
      rw [mapError_ok]
      exact iff_of_false (not_unreported_ok data) (by simp)
    | error fault =>
      rw [mapError_error, unreported_error]
      cases fault with
      | tooDeep => simp [unreadable, Failure.IsReported]
      | _ => simp [unreadable, Failure.IsReported]
  · rw [if_pos (by simpa using hfile)]
    refine iff_of_false (not_unreported_analysis _) ?_
    rintro ⟨bytes, hread, -⟩
    exact hfile (Host.FileTree.isFile_iff.2 ⟨bytes, hread⟩)

/-- The newest index is read if there is one. -/
theorem readIndex_unreported : Unreported (readIndex host api) ↔
    host.isDirectory (directory api) = true ∧ ∃ name, IsNewestIndex host (directory api) name ∧
      IsTooDeep host (Path.join (directory api) name) := by
  rw [readIndex]
  cases hdirectory : host.isDirectory (directory api) with
  | false => exact iff_of_false (not_unreported_analysis _) (by simp)
  | true =>
    simp only [Bool.not_true, Bool.false_eq_true, if_false, true_and, ← greatest?_eq_newest]
    cases greatest? ((host.list (directory api)).filter isIndexName) with
    | none => exact iff_of_false (not_unreported_analysis _) (by simp)
    | some name => simp [load_unreported]

end Reply

/-! ## The cache variables -/

namespace Toolchains

variable {cache : Cache}

theorem exists_cachedCompiler?_eq_ok {language : Language} :
    (∃ compiler?, cachedCompiler? cache language = .ok compiler?) ↔
      ∀ value, cache.get? (cacheVariable language) = some value → value.truthy = true →
        ∃ text, value = .string text := by
  rw [cachedCompiler?]
  cases cache.get? (cacheVariable language) with
  | none => simp
  | some value =>
    simp only [Option.some.injEq, forall_eq']
    cases htrue : value.truthy with
    | false => simp
    | true =>
      cases value with
      | string text => simp
      | _ => simp

/-- Looking for the compilers in the cache fails without a report exactly if a variable holds
something else than a text. -/
theorem ofCache_unreported : Unreported (ofCache cache) ↔ ¬ HasTexts cache := by
  have htexts : HasTexts cache ↔ (∃ c, cachedCompiler? cache .c = .ok c) ∧
      ∃ cxx, cachedCompiler? cache .cxx = .ok cxx := by
    rw [exists_cachedCompiler?_eq_ok, exists_cachedCompiler?_eq_ok]
    refine ⟨fun h => ⟨h .c, h .cxx⟩, fun h language => ?_⟩
    cases language with
    | c => exact h.1
    | cxx => exact h.2
  rw [ofCache, unreported_bind, unreported_fault, htexts, not_and_or]
  simp only [mapError_eq_ok, unreported_bind, unreported_fault, not_unreported_mapError, and_false,
    exists_false, or_false]
  by_cases hc : ∃ c, cachedCompiler? cache .c = .ok c
  · obtain ⟨c, hc⟩ := hc
    simp [hc]
  · exact iff_of_true (.inl hc) (.inl hc)

end Toolchains

namespace BuildGraph

variable {host after : Host} {api directory root : String} {cmake : Option String} {index : Json}
  {loaded : Option BuildGraph} {cache : Cache} {path? : String → Option String}

/-! ## The three replies -/

theorem readReply_unreported {α : Type} {file : ReplyFile} {path : String}
    {ask : Json → Except Json.Fault α} :
    Unreported (readReply host file path ask) ↔ Reply.IsTooDeep host path := by
  rw [readReply, unreported_bind, Reply.load_unreported]
  refine or_iff_left ?_
  rintro ⟨data, -, h⟩
  exact not_unreported_mapError _ h

theorem toolchainsOf_unreported {path? : Option String} :
    Unreported (toolchainsOf host cache path?) ↔
      (∃ path, path? = some path ∧ Reply.IsTooDeep host path) ∨
        path? = none ∧ ¬ Toolchains.HasTexts cache := by
  cases path? with
  | none => simp [toolchainsOf, Toolchains.ofCache_unreported]
  | some path =>
    simp [toolchainsOf, unreported_bind, Reply.load_unreported, not_unreported_mapError]

/-- How the replies at the paths of their kinds fail without a report: values of one of them stand in
too many others, or a cache variable that has to be the path of a compiler holds something else. The
replies that are read before are there and can be used. -/
inductive FaultyFiles (host : Host) (directory : String) (path? : String → Option String) : Prop
  | cache {cacheFile codemodelFile : String} (hcacheFile : path? "cache" = some cacheFile)
    (hcodemodelFile : path? "codemodel" = some codemodelFile)
    (hdeep : Reply.IsTooDeep host cacheFile)
  | codemodel {cacheFile codemodelFile : String} {cache : Cache}
    (hcacheFile : path? "cache" = some cacheFile)
    (hcodemodelFile : path? "codemodel" = some codemodelFile)
    (hcache : readReply host (.cache cacheFile) cacheFile cacheOfReply = .ok cache)
    (hdeep : Reply.IsTooDeep host codemodelFile)
  | compilers {cacheFile codemodelFile : String} {cache : Cache} {codemodel : Json × List String}
    (hcacheFile : path? "cache" = some cacheFile)
    (hcodemodelFile : path? "codemodel" = some codemodelFile)
    (hcache : readReply host (.cache cacheFile) cacheFile cacheOfReply = .ok cache)
    (hcodemodel : readReply host (.codemodel codemodelFile) codemodelFile
      (codemodelOfReply directory) = .ok codemodel)
    (hfaulty : (∃ file, path? "toolchains" = some file ∧ Reply.IsTooDeep host file) ∨
      path? "toolchains" = none ∧ ¬ Toolchains.HasTexts cache)

theorem ofPaths_unreported :
    Unreported (ofPaths host directory path?) ↔ FaultyFiles host directory path? := by
  -- with both paths the failures are those of the three steps
  have hsteps {cacheFile codemodelFile : String} (hcacheFile : path? "cache" = some cacheFile)
      (hcodemodelFile : path? "codemodel" = some codemodelFile) :
      Unreported (ofPaths host directory path?) ↔
        Reply.IsTooDeep host cacheFile ∨
          ∃ cache, readReply host (.cache cacheFile) cacheFile cacheOfReply = .ok cache ∧
            (Reply.IsTooDeep host codemodelFile ∨
              ∃ codemodel, readReply host (.codemodel codemodelFile) codemodelFile
                  (codemodelOfReply directory) = .ok codemodel ∧
                ((∃ file, path? "toolchains" = some file ∧ Reply.IsTooDeep host file) ∨
                  path? "toolchains" = none ∧ ¬ Toolchains.HasTexts cache)) := by
    rw [ofPaths_eq_bind hcacheFile hcodemodelFile]
    simp only [unreported_bind, unreported_map, readReply_unreported, toolchainsOf_unreported]
  constructor
  · intro h
    cases hcacheFile : path? "cache" with
    | none =>
      rw [ofPaths, hcacheFile] at h
      exact absurd h (not_unreported_analysis _)
    | some cacheFile =>
      cases hcodemodelFile : path? "codemodel" with
      | none =>
        rw [ofPaths, hcacheFile, hcodemodelFile] at h
        exact absurd h (not_unreported_analysis _)
      | some codemodelFile =>
        obtain hdeep | ⟨cache, hcache, hdeep | ⟨codemodel, hcodemodel, hfaulty⟩⟩ :=
          (hsteps hcacheFile hcodemodelFile).1 h
        · exact .cache hcacheFile hcodemodelFile hdeep
        · exact .codemodel hcacheFile hcodemodelFile hcache hdeep
        · exact .compilers hcacheFile hcodemodelFile hcache hcodemodel hfaulty
  · intro h
    cases h with
    | cache hcacheFile hcodemodelFile hdeep =>
      exact (hsteps hcacheFile hcodemodelFile).2 (.inl hdeep)
    | codemodel hcacheFile hcodemodelFile hcache hdeep =>
      exact (hsteps hcacheFile hcodemodelFile).2 (.inr ⟨_, hcache, .inl hdeep⟩)
    | compilers hcacheFile hcodemodelFile hcache hcodemodel hfaulty =>
      exact (hsteps hcacheFile hcodemodelFile).2
        (.inr ⟨_, hcache, .inr ⟨_, hcodemodel, hfaulty⟩⟩)

/-- How an index and the replies that it names fail without a report: the responses are no list, nor
anything else with items; a response names a kind that is no key, or a reply file by no text; or the
replies themselves fail so. -/
inductive FaultyReplies (host : Host) (directory : String) (index : Json) : Prop
  | responses {value : Json} (hvalue : Reply.responsesValue? index client = some value)
    (htrue : value.truthy = true)
    (hkind : ¬ (value.kind = .array ∨ value.kind = .string ∨ value.kind = .object))
  | response {list : List Json} {response : Json}
    (hlist : Reply.responses index client = .ok list) (hresponse : response ∈ list)
    (hnames : ¬ Reply.NamesFile response)
  | files {list : List Json} (hlist : Reply.responses index client = .ok list)
    (hnames : ∀ response ∈ list, Reply.NamesFile response)
    (hfiles : FaultyFiles host directory (pathOf? index directory))

theorem ofIndex_unreported :
    Unreported (ofIndex host directory index) ↔ FaultyReplies host directory index := by
  constructor
  · intro h
    by_cases hlist : ∃ list, Reply.responses index client = .ok list
    · obtain ⟨list, hlist⟩ := hlist
      by_cases hnames : ∀ response ∈ list, Reply.NamesFile response
      · obtain ⟨files, hfiles⟩ := Reply.exists_files_eq_ok.2 hnames
        rw [ofIndex_eq_ofPaths hlist hfiles, ofPaths_unreported] at h
        exact .files hlist hnames h
      · push Not at hnames
        obtain ⟨response, hresponse, hnames⟩ := hnames
        exact .response hlist hresponse hnames
    · rw [Reply.exists_responses_eq_ok] at hlist
      push Not at hlist
      obtain ⟨value, hvalue, htrue, hitems⟩ := hlist
      refine .responses hvalue htrue fun hkind => ?_
      obtain ⟨items, hok⟩ := Json.exists_items_eq_ok.2 hkind
      exact hitems items hok
  · intro h
    cases h with
    | responses hvalue htrue hkind =>
      rw [ofIndex_eq_bind, unreported_bind, unreported_fault]
      refine .inl fun hlist => hkind ?_
      exact Json.exists_items_eq_ok.1 (Reply.exists_responses_eq_ok.1 hlist _ hvalue htrue)
    | response hlist hresponse hnames =>
      rw [ofIndex_eq_bind, unreported_bind]
      refine .inr ⟨_, mapError_eq_ok.2 hlist, ?_⟩
      rw [unreported_bind, unreported_fault]
      exact .inl fun hfiles => hnames (Reply.exists_files_eq_ok.1 hfiles _ hresponse)
    | files hlist hnames hfiles =>
      obtain ⟨files, hok⟩ := Reply.exists_files_eq_ok.2 hnames
      rw [ofIndex_eq_ofPaths hlist hok, ofPaths_unreported]
      exact hfiles

/-! ## The index -/

/-- Checking the version fails without a report only if its digits are no number. -/
theorem checkVersion_unreported : Unreported (checkVersion index) ↔
    ∃ text, Reply.TellsVersion index text ∧ Version.IsMisnumbered text := by
  have hparse (text : String) : Unreported (Version.parse text) ↔ Version.IsMisnumbered text := by
    rw [← Version.parse_eq_badValue]
    cases hversion : Version.parse text with
    | ok version => exact iff_of_false (not_unreported_ok version) (by simp)
    | error failure =>
      rw [unreported_error, Except.error.injEq]
      rcases Version.parse_failure hversion with rfl | ⟨e, rfl⟩
      · simp [Failure.IsReported]
      · simp [Failure.IsReported]
  have hminimum : Version.parse minimumVersion = .ok [3, 13, 7] := rfl
  have hatLeast (text : String) : Unreported (Version.atLeast text minimumVersion) ↔
      Version.IsMisnumbered text := by
    rw [Version.atLeast, unreported_bind, hparse, hminimum]
    simp [bind, Except.bind, pure, Except.pure, not_unreported_ok]
  rw [checkVersion, unreported_bind]
  simp only [not_unreported_mapError, false_or, mapError_eq_ok, Reply.version_eq_ok]
  refine exists_congr fun text => and_congr_right fun _ => ?_
  rw [unreported_bind, hatLeast]
  refine or_iff_left ?_
  rintro ⟨enough, -, h⟩
  cases enough with
  | true => exact not_unreported_ok () h
  | false => exact not_unreported_analysis _ h

/-- How the newest index fails without a report: its values stand in too many others, or the digits of
its version are no number. -/
inductive FaultyIndex (host : Host) (api : String) : Prop
  | unread {name : String} (hdirectory : host.isDirectory (Reply.directory api) = true)
    (hname : Reply.IsNewestIndex host (Reply.directory api) name)
    (hdeep : Reply.IsTooDeep host (Path.join (Reply.directory api) name))
  | version {index : Json} {text : String} (hindex : Reply.IsIndexOf host api index)
    (htext : Reply.TellsVersion index text) (hnumber : Version.IsMisnumbered text)

theorem checkIndex_unreported : Unreported (checkIndex api host) ↔ FaultyIndex host api := by
  rw [checkIndex, unreported_bind, Reply.readIndex_unreported]
  simp only [Reply.readIndex_eq_ok, checkVersion_unreported]
  constructor
  · rintro (⟨hdirectory, name, hname, hdeep⟩ | ⟨index, hindex, text, htext, hnumber⟩)
    · exact .unread hdirectory hname hdeep
    · exact .version hindex htext hnumber
  · intro h
    cases h with
    | unread hdirectory hname hdeep => exact .inl ⟨hdirectory, _, hname, hdeep⟩
    | version hindex htext hnumber => exact .inr ⟨_, hindex, _, htext, hnumber⟩

/-- Whether the replies of a host fail without a report: the index does, or it is one of a CMake that
is new enough and the replies that it names do. -/
def FaultyHost (host : Host) (api : String) : Prop :=
  FaultyIndex host api ∨ ∃ index, Reply.IsIndexOf host api index ∧ IsSupported index ∧
    FaultyReplies host (Reply.directory api) index

theorem ofReplies_unreported : Unreported (ofReplies host api) ↔ FaultyHost host api := by
  have hindex : ofReplies host api = (do
      let index ← Reply.readIndex host api
      checkVersion index
      ofIndex host (Reply.directory api) index) := rfl
  rw [FaultyHost, ← checkIndex_unreported, checkIndex, hindex, unreported_bind, unreported_bind,
    or_assoc]
  refine or_congr_right ?_
  rw [← exists_or]
  refine exists_congr fun index => ?_
  have hsupported : (∃ u, checkVersion index = .ok u ∧
      Unreported (ofIndex host (Reply.directory api) index)) ↔
        IsSupported index ∧ FaultyReplies host (Reply.directory api) index := by
    rw [Unique.exists_iff, ofIndex_unreported, ← checkVersion_eq_ok]
  rw [unreported_bind, hsupported, and_or_left, Reply.readIndex_eq_ok]

/-! ## The steps of loading -/

theorem not_unreported_preflight : ¬ Unreported (preflight root cmake host) := by
  rw [preflight]
  split
  · exact not_unreported_analysis _
  · split
    · exact not_unreported_analysis _
    · split
      · exact not_unreported_analysis _
      · split
        · exact not_unreported_ok _
        · exact not_unreported_analysis _

/-- What is asked first fails without a report only at the index. -/
theorem permit_unreported : Unreported (permit loaded root cmake host) ↔
    loaded = none ∧ (∃ program, preflight root cmake host = .ok program) ∧
      FaultyIndex host (Path.join root apiDirectory) := by
  cases loaded with
  | some graph =>
    exact iff_of_false (not_unreported_analysis _) (by simp)
  | none =>
    have hpermit : permit none root cmake host = (do
        let program ← preflight root cmake host
        checkIndex (Path.join root apiDirectory) host
        return program) := rfl
    have hreturn (program : String) :
        ¬ Unreported (pure program : Except Failure String) := not_unreported_ok program
    simp only [hpermit, unreported_bind, not_unreported_preflight, checkIndex_unreported, hreturn,
      and_false, exists_false, or_false, false_or, true_and, exists_and_right]

/-- Below a build directory that is there writing the query is refused by the system, if it is. -/
theorem Permitted.not_unreported_writeQuery {program : String}
    (h : Permitted loaded root cmake host program) :
    ¬ Unreported ((writeQuery (Path.join root apiDirectory)).on host).1 := by
  obtain ⟨base, hlocate, hdirectory⟩ := h.located
  have hreported {e : Host.SystemError} (he : e.IsAnswer) : ¬ Unreported (.error
      (.ofSystem (fun e => .analysis (.queryNotWritten e)) e) : Except Failure Unit) := by
    rw [unreported_error, not_not]
    exact unreported_ofSystem (fun _ => trivial) he
  simp only [writeQuery, Action.on_bind, Action.on_change]
  cases hmake : host.files.makePath host.place (queryDirectory (Path.join root apiDirectory)) with
  | mk refusal made =>
    cases refusal with
    | some e =>
      rw [queryDirectory_join] at hmake
      exact hreported (Host.FileTree.isAnswer_of_makePath h.root_ne (by decide) (by decide)
        (by decide) hlocate hdirectory hmake)
    | none =>
      have hplace : ({ host with files := made } : Host).place = host.place := rfl
      simp only [hplace, Host.FileTree.attempt]
      cases hwrite : made.write host.place (queryFile (Path.join root apiDirectory))
        (Text.Utf8.encode query.document) with
      | ok files => exact not_unreported_ok ()
      | error e =>
        -- the path of a directory that was found holds no forbidden character
        obtain ⟨hcheck, -, -⟩ := Host.FileTree.locate_eq_ok.1 hlocate
        have hnul := (Host.FileTree.checkPath_eq_ok.1 hcheck).1
        refine hreported (Host.FileTree.isAnswer_of_write ?_ hwrite)
        rw [queryFile_join]
        exact Path.notMem_join (by decide) (by decide) hnul (by decide)

/-- A child process that ended, or that the system has refused to start, is reported. -/
theorem not_unreported_configured {outcome : Host.Outcome} (h : outcome.IsAnswer) :
    ¬ Unreported (configured outcome) := by
  cases outcome with
  | notStarted e =>
    have hconfigured : configured (.notStarted e) =
        .error (configureFailure (.ofSystem .system e)) := rfl
    rw [hconfigured, unreported_error, not_not]
    cases e with
    | invalidPath => exact absurd rfl h.1
    | tooDeep => exact absurd rfl h.2
    | _ => exact trivial
  | exited code output =>
    rw [configured, Action.answerOf]
    split
    · exact not_unreported_ok ()
    · exact not_unreported_analysis _

/-- Loading fails without a report exactly in these cases: the build directory and the program can be
used but the index that is there fails so; or the project is configured and the replies that this
leaves behind fail so. -/
theorem load_unreported_iff (hanswered : host.IsAnswered) :
    Unreported ((load loaded root cmake).on host).1 ↔
      (loaded = none ∧ (∃ program, preflight root cmake host = .ok program) ∧
        FaultyIndex host (Path.join root apiDirectory)) ∨
      ∃ after, Configures loaded root cmake host after ∧
        FaultyHost after (Path.join root apiDirectory) := by
  have hending := load_ending loaded root cmake host
  constructor
  · generalize (load loaded root cmake).on host = ended at hending ⊢
    intro h
    cases hending with
    | @refused failure hpermit =>
      have hpermitted : Unreported (permit loaded root cmake host) := by
        rw [hpermit]
        exact unreported_error.2 (unreported_error.1 h)
      exact .inl (permit_unreported.1 hpermitted)
    | notWritten hpermit hwrite =>
      have hreported := (permit_eq_ok.1 hpermit).not_unreported_writeQuery
      rw [hwrite] at hreported
      exact absurd (unreported_error.2 (unreported_error.1 h)) hreported
    | @ran program queried after outcome hpermit hwrite hstart =>
      have hkeeps := writeQuery_keepsProcesses (Path.join root apiDirectory) host
      rw [hwrite] at hkeeps
      have houtcome := ((hkeeps.isAnswered hanswered).start (configuration program root queried)).1
      rw [hstart] at houtcome
      obtain hconfigured | ⟨u, hconfigured, hreplies⟩ := unreported_bind.1 h
      · exact absurd hconfigured (not_unreported_configured houtcome)
      · obtain ⟨output, rfl⟩ := configured_eq_ok.1 hconfigured
        exact .inr ⟨after, ⟨program, queried, output, permit_eq_ok.1 hpermit, hwrite, hstart⟩,
          ofReplies_unreported.1 hreplies⟩
  · rintro (h | ⟨after, hconfigures, hfaulty⟩)
    · obtain ⟨failure, hpermit, hfailure⟩ := permit_unreported.2 h
      rw [on_load, hpermit]
      exact ⟨failure, rfl, hfailure⟩
    · rw [hconfigures.on_load, ofReplies_unreported]
      exact hfaulty

/-- The host of the sample with an index whose version is no number, though it is a digit. -/
def misnumberedHost : Host :=
  { sampleHost with
    files := sampleHost.files.put (replyPlace "index-1.json")
      (replyFile (.object [("version", .object [("string", .string "²")])])) }

theorem isMisnumbered_sample : Version.IsMisnumbered "²" :=
  ⟨[], ['²'], [], by decide, by simp, by decide, .inr ⟨'²', by decide, by decide⟩⟩

/-- The build directory and the program of this host can be used, and its index has that version. -/
theorem misnumberedHost_index :
    preflight "/b" none misnumberedHost = .ok "/bin/cmake" ∧
      ∃ index, Reply.IsIndexOf misnumberedHost (Path.join "/b" apiDirectory) index ∧
        Reply.TellsVersion index "²" := by
  have hpreflight : (preflight "/b" none misnumberedHost).toOption = some "/bin/cmake" := by
    decide +kernel
  have hversion : ((Reply.readIndex misnumberedHost (Path.join "/b" apiDirectory)).toOption.bind
      fun index => (Reply.version index).toOption) = some "²" := by
    decide +kernel
  obtain ⟨index, hindex, htext⟩ := Option.bind_eq_some_iff.1 hversion
  exact ⟨toOption_eq_some.1 hpreflight, index,
    Reply.readIndex_eq_ok.1 (toOption_eq_some.1 hindex),
    Reply.version_eq_ok.1 (toOption_eq_some.1 htext)⟩

theorem load_unreported_sample : misnumberedHost.IsAnswered ∧
    Unreported ((load none "/b" none).on misnumberedHost).1 := by
  have hanswered : misnumberedHost.IsAnswered := by
    intro child hchild
    rw [List.mem_singleton.1 hchild]
    exact ⟨fun files error h => (by cases h), trivial⟩
  obtain ⟨hpreflight, index, hindex, htext⟩ := misnumberedHost_index
  exact ⟨hanswered, (load_unreported_iff hanswered).2
    (.inl ⟨rfl, ⟨_, hpreflight⟩, .version hindex htext isMisnumbered_sample⟩)⟩

/-- Loading ends there with the failure for a text that is no number, which is not an error to
report. -/
theorem load_misnumbered :
    (load none "/b" none).on misnumberedHost = (.error .badValue, misnumberedHost) ∧
      ¬ Failure.badValue.IsReported := by
  obtain ⟨hpreflight, index, hindex, htext⟩ := misnumberedHost_index
  have hparse := Version.parse_eq_badValue.2 isMisnumbered_sample
  have hcheck : checkVersion index = .error .badValue := by
    rw [checkVersion, Reply.version_eq_ok.2 htext]
    simp only [mapError_ok, bind, Except.bind, Version.atLeast, hparse]
  have hpermit : permit none "/b" none misnumberedHost = .error .badValue := by
    rw [permit, hpreflight, checkIndex]
    simp only [bind, Except.bind, Reply.readIndex_eq_ok.2 hindex, hcheck]
    rfl
  rw [on_load, hpermit]
  exact ⟨rfl, id⟩

end BuildGraph

end BuildAnalysis
