import BuildAnalysis.Analysis.Run
import BuildAnalysis.Proofs.Answers
import BuildAnalysis.Proofs.Host.Actions
import BuildAnalysis.Proofs.Target.Arguments

/-!
# The words of the analyzer's command line

The command line of the analyzer is joined from parts that are joined from parts themselves: raw
fragments, quoted options, and the arguments that all sources of a compiler share. Read by the rules
of command lines it gives back exactly the words that were meant, as long as no fragment leaves a
quote open and no path and no define holds one.

* `commonArguments_answer`: what the common arguments are made from.
* `split_argumentsFor`: the words of the common arguments.
* `split_analyzerLine`: the words of the whole line.
-/

namespace BuildAnalysis.Analysis

open CommandLine

/-! ## The common arguments -/

/-- The words that name a ruleset, and the directory of the other rulesets if there is one. -/
def rulesetWords (ruleset directory : Option String) : List String :=
  match ruleset with
  | none => []
  | some ruleset =>
    ("/analyze:ruleset" ++ ruleset) ::
      directory.toList.map fun d => "/analyze:rulesetdirectory" ++ d

/-- The words of the common arguments for an engine, a ruleset and the directory of the other
rulesets. -/
def commonWords (engine : String) (ruleset directory : Option String)
    (options : CommandOptions) : List String :=
  ["/analyze:quiet", "/analyze:log:format:sarif"] ++
    ("/analyze:plugin" ++ engine) :: rulesetWords ruleset directory ++
    (if options.ignoreSystemHeaders then ["/analyze:external-"] else [])

/-- The options that name an engine and a ruleset are quoted; the others need not be. -/
theorem argumentsFor_eq_join (engine : String) (ruleset directory : Option String)
    (options : CommandOptions) :
    argumentsFor engine ruleset directory options =
      join (["/analyze:quiet", "/analyze:log:format:sarif"] ++
        (("/analyze:plugin" ++ engine) :: rulesetWords ruleset directory).map quote ++
        (if options.ignoreSystemHeaders then ["/analyze:external-"] else [])) := by
  cases ruleset with
  | none => rfl
  | some ruleset =>
    rw [argumentsFor, rulesetWords, List.map_cons, List.map_cons, List.map_map]
    rfl

/-- An option before a path without quotes holds no quote. -/
theorem not_mem_option {option path : String} (ho : '"' ∉ option.toList)
    (hp : '"' ∉ path.toList) : '"' ∉ (option ++ path).toList := by
  rw [String.toList_append]
  exact fun h => (List.mem_append.1 h).elim ho hp

section

variable {engine : String} {ruleset directory : Option String}

/-- The words that name an engine and a ruleset hold no quote if their paths hold none. -/
theorem not_mem_rulesetWords (he : '"' ∉ engine.toList) (hr : ∀ r ∈ ruleset, '"' ∉ r.toList)
    (hd : ∀ d ∈ directory, '"' ∉ d.toList) :
    ∀ word ∈ ("/analyze:plugin" ++ engine) :: rulesetWords ruleset directory,
      '"' ∉ word.toList := by
  intro word hword
  rcases List.mem_cons.1 hword with rfl | hword
  · exact not_mem_option (by decide) he
  cases ruleset with
  | none => simp [rulesetWords] at hword
  | some r =>
    simp only [rulesetWords, List.mem_cons, List.mem_map, Option.mem_toList] at hword
    rcases hword with rfl | ⟨d, hd', rfl⟩
    · exact not_mem_option (by decide) (hr r rfl)
    · exact not_mem_option (by decide) (hd d hd')

/-- No part of the common arguments leaves a quote open. -/
theorem endsOutside_commonParts (options : CommandOptions) (he : '"' ∉ engine.toList)
    (hr : ∀ r ∈ ruleset, '"' ∉ r.toList) (hd : ∀ d ∈ directory, '"' ∉ d.toList) :
    ∀ part ∈ ["/analyze:quiet", "/analyze:log:format:sarif"] ++
        (("/analyze:plugin" ++ engine) :: rulesetWords ruleset directory).map quote ++
        (if options.ignoreSystemHeaders then ["/analyze:external-"] else []),
      EndsOutside part := by
  intro part hpart
  rcases List.mem_append.1 hpart with hpart | hpart
  · rcases List.mem_append.1 hpart with hpart | hpart
    -- what is not quoted is fixed and has no quote in it
    · have hplain : '"' ∉ part.toList := by
        simp only [List.mem_cons, List.not_mem_nil, or_false] at hpart
        rcases hpart with rfl | rfl
        · decide
        · decide
      exact endsOutside_of_not_mem hplain
    · exact endsOutside_map_quote (not_mem_rulesetWords he hr hd) part hpart
  · have hplain : part = "/analyze:external-" := by
      split at hpart
      · exact List.mem_singleton.1 hpart
      · simp at hpart
    subst hplain
    exact endsOutside_of_not_mem (by decide)

/-- The common arguments leave no quote open. -/
theorem endsOutside_argumentsFor (options : CommandOptions) (he : '"' ∉ engine.toList)
    (hr : ∀ r ∈ ruleset, '"' ∉ r.toList) (hd : ∀ d ∈ directory, '"' ∉ d.toList) :
    EndsOutside (argumentsFor engine ruleset directory options) := by
  rw [argumentsFor_eq_join]
  exact endsOutside_join (endsOutside_commonParts options he hr hd)

/-- The common arguments are read as the words that they were made from. -/
theorem split_argumentsFor (options : CommandOptions) (he : '"' ∉ engine.toList)
    (hr : ∀ r ∈ ruleset, '"' ∉ r.toList) (hd : ∀ d ∈ directory, '"' ∉ d.toList) :
    split (argumentsFor engine ruleset directory options) =
      commonWords engine ruleset directory options := by
  have hplain : ["/analyze:quiet", "/analyze:log:format:sarif"].flatMap split =
      ["/analyze:quiet", "/analyze:log:format:sarif"] := by decide
  have hexternal : (if options.ignoreSystemHeaders then ["/analyze:external-"] else []).flatMap
      split = if options.ignoreSystemHeaders then ["/analyze:external-"] else [] := by
    split
    · decide
    · rfl
  rw [argumentsFor_eq_join, split_join (endsOutside_commonParts options he hr hd),
    List.flatMap_append, List.flatMap_append, hplain, hexternal,
    flatMap_split_quote (not_mem_rulesetWords he hr hd), commonWords]

end

/-- The arguments are made from the engine and the ruleset that are looked for, the engine first. -/
theorem commonArguments_answer (compiler workspace : String) (wanted : Option String)
    (options : CommandOptions) (host : Host) :
    ((commonArguments compiler wanted workspace options).on host).1 =
      (engine host compiler).mapError .analysis >>= fun engine =>
        (((findRuleset wanted (rulesetDirectory? host compiler) workspace).on host).1).map
          fun ruleset => argumentsFor engine ruleset (rulesetDirectory? host compiler) options := by
  simp only [commonArguments, Action.on_bind, Action.on_ask, Action.on_ofExcept]
  cases engine host compiler with
  | error e => rfl
  | ok found =>
    simp only [mapError_ok]
    cases (findRuleset wanted (rulesetDirectory? host compiler) workspace).on host with
    | mk answer after =>
      cases answer with
      | error failure => rfl
      | ok ruleset =>
        cases ruleset with
        | none => rfl
        | some path => rfl

/-- Common arguments are made from the engine, the ruleset and the directory of rulesets that are
found on the host. -/
theorem commonArguments_ok {host : Host} {compiler workspace common : String}
    {wanted : Option String} {options : CommandOptions}
    (h : ((commonArguments compiler wanted workspace options).on host).1 = .ok common) :
    ∃ found ruleset, engine host compiler = .ok found ∧
      ((findRuleset wanted (rulesetDirectory? host compiler) workspace).on host).1 = .ok ruleset ∧
      argumentsFor found ruleset (rulesetDirectory? host compiler) options = common := by
  rw [commonArguments_answer] at h
  obtain ⟨found, hfound, hrest⟩ := bind_eq_ok.1 h
  obtain ⟨ruleset, hfind, hcommon⟩ := map_eq_ok.1 hrest
  exact ⟨found, ruleset, mapError_eq_ok.1 hfound, hfind, hcommon⟩

/-! ## The whole line -/

/-- The command line of the analyzer is read as the words that were meant: the compiler, the words
of the fragments, one word for each include directory and for each define, the words that all
sources of the compiler share, the place of the report, and the source. -/
theorem split_analyzerLine (group : TextGroup) (options : CommandOptions) (compiler : Compiler)
    (source report : String) {host : Host} {compilerPath workspace common : String}
    {wanted : Option String} {commonOptions : CommandOptions}
    (hcommon :
      ((commonArguments compilerPath wanted workspace commonOptions).on host).1 = .ok common)
    (hgroup : group.IsQuotable)
    (hpaths : ∀ path ∈ [compiler.path, source, report], '"' ∉ path.toList)
    (hengine : ∀ found, engine host compilerPath = .ok found → '"' ∉ found.toList)
    (hruleset : ∀ found,
      ((findRuleset wanted (rulesetDirectory? host compilerPath) workspace).on host).1 =
        .ok (some found) → '"' ∉ found.toList)
    (hdirectory : ∀ found, rulesetDirectory? host compilerPath = some found → '"' ∉ found.toList) :
    ∃ args found ruleset, group.toGroup.arguments options = .ok args ∧
      engine host compilerPath = .ok found ∧
      ((findRuleset wanted (rulesetDirectory? host compilerPath) workspace).on host).1 =
        .ok ruleset ∧
      split (analyzerLine { source, args, compiler } common report) =
        [compiler.path] ++ group.fragments.flatMap split ++ group.includeWords options ++
          group.defineWords ++
          commonWords found ruleset (rulesetDirectory? host compilerPath) commonOptions ++
          ["/analyze:log" ++ report, source] := by
  obtain ⟨found, ruleset, hfound, hfind, rfl⟩ := commonArguments_ok hcommon
  refine ⟨join (group.parts options), found, ruleset, group.arguments_toGroup options, hfound,
    hfind, ?_⟩
  have he : '"' ∉ found.toList := hengine found hfound
  have hr : ∀ r ∈ ruleset, '"' ∉ r.toList := by
    rintro r rfl
    exact hruleset r hfind
  have hd : ∀ d ∈ rulesetDirectory? host compilerPath, '"' ∉ d.toList := hdirectory
  have hpath : '"' ∉ compiler.path.toList := hpaths _ (by simp)
  have hsource : '"' ∉ source.toList := hpaths _ (by simp)
  have hlog : '"' ∉ ("/analyze:log" ++ report).toList :=
    not_mem_option (by decide) (hpaths _ (by simp))
  -- no part leaves a quote open, so each is read by itself
  have hparts : ∀ part ∈ [quote compiler.path, join (group.parts options),
      argumentsFor found ruleset (rulesetDirectory? host compilerPath) commonOptions,
      quote ("/analyze:log" ++ report), quote source], EndsOutside part := by
    simp only [List.forall_mem_cons, List.not_mem_nil, false_implies, implies_true, and_true]
    exact ⟨endsOutside_quote hpath, endsOutside_join (TextGroup.endsOutside_parts options hgroup),
      endsOutside_argumentsFor commonOptions he hr hd, endsOutside_quote hlog,
      endsOutside_quote hsource⟩
  rw [analyzerLine, split_join hparts]
  simp only [List.flatMap_cons, List.flatMap_nil, split_quote hpath, split_quote hlog,
    split_quote hsource, TextGroup.split_arguments options hgroup,
    split_argumentsFor commonOptions he hr hd]
  simp

/-- A host with an engine beside the compiler, a ruleset in the workspace, and the directory of the
other rulesets. -/
def sampleHost : Host where
  files := ⟨[(["vs"], .directory), (["vs", "bin"], .directory),
    (["vs", "bin", "EspXEngine.dll"], .file [] false), (["ws"], .directory),
    (["ws", "my rules"], .file [] false), (["Team Tools"], .directory),
    (["Team Tools", "Static Analysis Tools"], .directory),
    (["Team Tools", "Static Analysis Tools", "Rule Sets"], .directory)]⟩
  directory := "/"
  environment := []
  children := []
  console := .ofCommand ""

/-- A group with a fragment that holds quotes, blanks and backslashes, and an empty one. -/
def sampleGroup : TextGroup where
  fragments := ["/W4  \"a b\\\\\" \\\"x ", "", "\\\\host\\"]
  includes := [("/sdk/inc lude\\", true), ("inc", false)]
  defines := ["NAME=a b", ""]

theorem split_analyzerLine_sample :
    ∃ common args,
      ((commonArguments "/vs/bin/cl.exe" (some "my rules") "/ws"
        { ignoreSystemHeaders := true }).on sampleHost).1 = .ok common ∧
      sampleGroup.toGroup.arguments { ignoreSystemHeaders := true } = .ok args ∧
      split (analyzerLine ⟨"/src/a b.c", args, ⟨"/vs/bin/cl.exe", .string "", []⟩⟩ common
        "/out/a b.c.sarif") =
        ["/vs/bin/cl.exe", "/W4", "a b\\", "\"x", "\\\\host\\", "/external:I/sdk/inc lude\\",
          "/Iinc", "/DNAME=a b", "/D", "/analyze:quiet", "/analyze:log:format:sarif",
          "/analyze:plugin/vs/bin/EspXEngine.dll", "/analyze:ruleset/ws/my rules",
          "/analyze:rulesetdirectory/Team Tools/Static Analysis Tools/Rule Sets",
          "/analyze:external-", "/analyze:log/out/a b.c.sarif", "/src/a b.c"] := by
  have hdirectory : rulesetDirectory? sampleHost "/vs/bin/cl.exe" =
      some "/Team Tools/Static Analysis Tools/Rule Sets" := rfl
  have hengine : engine sampleHost "/vs/bin/cl.exe" = .ok "/vs/bin/EspXEngine.dll" := rfl
  have hruleset : ((findRuleset (some "my rules")
      (rulesetDirectory? sampleHost "/vs/bin/cl.exe") "/ws").on sampleHost).1 =
        .ok (some "/ws/my rules") := rfl
  have hcommon : ((commonArguments "/vs/bin/cl.exe" (some "my rules") "/ws"
      { ignoreSystemHeaders := true }).on sampleHost).1 =
        .ok (argumentsFor "/vs/bin/EspXEngine.dll" (some "/ws/my rules")
          (some "/Team Tools/Static Analysis Tools/Rule Sets") { ignoreSystemHeaders := true }) :=
    rfl
  have hgroup : sampleGroup.IsQuotable :=
    { fragments := by decide, includes := by decide, defines := by decide }
  obtain ⟨args, found, ruleset, hargs, hfound, hfind, hsplit⟩ :=
    split_analyzerLine sampleGroup { ignoreSystemHeaders := true }
      ⟨"/vs/bin/cl.exe", .string "", []⟩ "/src/a b.c" "/out/a b.c.sarif" hcommon hgroup
      (by decide)
      (fun found h => by
        rw [hengine] at h
        cases h
        decide)
      (fun found h => by
        rw [hruleset] at h
        cases h
        decide)
      (fun found h => by
        rw [hdirectory] at h
        cases h
        decide)
  rw [hengine] at hfound
  rw [hruleset] at hfind
  cases hfound
  cases hfind
  exact ⟨_, args, hcommon, hargs, hsplit⟩

end BuildAnalysis.Analysis
