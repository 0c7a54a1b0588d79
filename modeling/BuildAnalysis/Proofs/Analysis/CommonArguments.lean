import BuildAnalysis.Proofs.Analysis.AnalyzerLine
import BuildAnalysis.Proofs.Analysis.ArgumentTable
import BuildAnalysis.Proofs.Path.Levels
import BuildAnalysis.Proofs.Path.Resolving

/-!
# What the common arguments name

The arguments that all sources of a compiler share name an engine, and a ruleset and the directory of
the other rulesets if one is wanted. What is named is there: an engine that is missing is a failure of
the tools, and a ruleset that is missing is one of the configuration. The engine that lies next to the
compiler is preferred, and so is the ruleset of the workspace.

* `engine_answer`, `findRuleset_answer`: what is found, and what was missing if nothing is.
* `foundOn_areFound`: how the arguments of a compiler are found.
* `findsArguments`: how those of all compilers are found.
-/

namespace BuildAnalysis

namespace Analysis

open CommandLine

variable {host : Host} {compiler workspace path name : String} {wanted ruleset : Option String}
  {options : CommandOptions}

/-! ## The engine -/

/-- Where the engine lies that is next to a compiler. -/
def engineBeside (compiler : String) : String :=
  Path.join (Path.dirname compiler) engineName

/-- Whether a directory is named like those of the compilers that run on a host, in any case of its
letters. -/
def IsNamed (directory name : String) : Prop :=
  Text.lower (Path.basename directory) = Text.lower name

/-- Whether the engine of a compiler lies at a path in the directory of the compiler whose target is
the host; that directory is told by the name of the one above the compiler's. -/
inductive IsHostEngine (compiler : String) : String → Prop
  | x86 (h : IsNamed (Path.dirname (Path.dirname compiler)) "HostX86") :
    IsHostEngine compiler
      (Path.join (Path.join (Path.dirname (Path.dirname compiler)) "x86") engineName)
  | x64 (h : IsNamed (Path.dirname (Path.dirname compiler)) "HostX64") :
    IsHostEngine compiler
      (Path.join (Path.join (Path.dirname (Path.dirname compiler)) "x64") engineName)

/-- Whether there is no engine for a compiler: neither next to it nor in the directory of the compiler
whose target is the host. -/
structure LacksEngine (host : Host) (compiler : String) : Prop where
  beside : host.pathExists (engineBeside compiler) = false
  ofHost : ∀ path, IsHostEngine compiler path → host.pathExists path = false

/-- Whether a path is that of the engine of a compiler: it is there, and the one next to the compiler
is preferred. -/
structure IsEngine (host : Host) (compiler path : String) : Prop where
  pathExists : host.pathExists path = true
  beside : host.pathExists (engineBeside compiler) = true → path = engineBeside compiler
  ofHost : host.pathExists (engineBeside compiler) = false → IsHostEngine compiler path

theorem isHostEngine_iff : IsHostEngine compiler path ↔
    ∃ target, hostTarget? (Text.lower (Path.basename (Path.dirname (Path.dirname compiler)))) =
      some target ∧
      path = Path.join (Path.join (Path.dirname (Path.dirname compiler)) target) engineName := by
  have hx86 : Text.lower "HostX86" = "hostx86" := by decide
  have hx64 : Text.lower "HostX64" = "hostx64" := by decide
  constructor
  · intro h
    cases h with
    | x86 h =>
      rw [IsNamed, hx86] at h
      exact ⟨"x86", by rw [h]; rfl, rfl⟩
    | x64 h =>
      rw [IsNamed, hx64] at h
      exact ⟨"x64", by rw [h]; rfl, rfl⟩
  · rintro ⟨target, htarget, rfl⟩
    rw [hostTarget?] at htarget
    split at htarget
    · rename_i h
      cases htarget
      exact .x86 (by rw [IsNamed, hx86]; simpa using h)
    · split at htarget
      · rename_i h
        cases htarget
        exact .x64 (by rw [IsNamed, hx64]; simpa using h)
      · cases htarget

/-- How the engine is looked for. -/
inductive EngineAnswer (host : Host) (compiler : String) : Except AnalysisError String → Prop
  | found {path : String} (h : IsEngine host compiler path) : EngineAnswer host compiler (.ok path)
  | missing {error : AnalysisError} (h : LacksEngine host compiler)
    (hkind : error.kind = .externalTool) : EngineAnswer host compiler (.error error)

theorem engine_answer (host : Host) (compiler : String) :
    EngineAnswer host compiler (engine host compiler) := by
  have hbeside : Path.join (Path.dirname compiler) engineName = engineBeside compiler := rfl
  unfold engine
  simp only [hbeside]
  split
  · rename_i h
    exact .found ⟨h, fun _ => rfl, fun hnone => absurd (h.symm.trans hnone) (by decide)⟩
  · rename_i h
    have hnone : host.pathExists (engineBeside compiler) = false := by simpa using h
    split
    · rename_i htarget
      refine .missing ⟨hnone, fun path hpath => ?_⟩ rfl
      obtain ⟨target, hsome, -⟩ := isHostEngine_iff.1 hpath
      rw [htarget] at hsome
      cases hsome
    · rename_i target htarget
      split
      · rename_i hother
        exact .found ⟨hother, fun hsome => absurd (hnone.symm.trans hsome) (by decide),
          fun _ => isHostEngine_iff.2 ⟨target, htarget, rfl⟩⟩
      · rename_i hother
        refine .missing ⟨hnone, fun path hpath => ?_⟩ rfl
        obtain ⟨other, hsome, rfl⟩ := isHostEngine_iff.1 hpath
        rw [htarget] at hsome
        cases hsome
        simpa using hother

/-- An engine that is there is not lacking. -/
theorem IsEngine.not_lacksEngine (h : IsEngine host compiler path) : ¬ LacksEngine host compiler := by
  intro hlacks
  have hnone := hlacks.ofHost path (h.ofHost hlacks.beside)
  rw [h.pathExists] at hnone
  cases hnone

/-! ## The ruleset -/

/-- Whether a directory is the one where the rulesets lie that come with a compiler: it has the names
`Team Tools`, `Static Analysis Tools` and `Rule Sets` below the directory that is seven levels above
that of the compiler. -/
def IsRulesetDirectory (compiler directory : String) : Prop :=
  Path.LeadsUpAndDown (Path.dirname compiler) 7
    ["Team Tools", "Static Analysis Tools", "Rule Sets"] directory

theorem isRulesetDirectory_iff {directory : String} :
    IsRulesetDirectory compiler directory ↔ directory = rulesetDirectoryOf compiler := by
  have hrelative : Path.isAbsolute relativeRulesets = false := by decide +kernel
  have hnames : Path.names relativeRulesets = List.replicate 7 ".." ++
      ["Team Tools", "Static Analysis Tools", "Rule Sets"] := by decide +kernel
  have hdown : ∀ name ∈ ["Team Tools", "Static Analysis Tools", "Rule Sets"],
      Path.IsPlainName name := by decide
  exact Path.leadsUpAndDown_iff hrelative hnames hdown (List.cons_ne_nil _ _)

theorem isRulesetDirectory_rulesetDirectoryOf (compiler : String) :
    IsRulesetDirectory compiler (rulesetDirectoryOf compiler) :=
  isRulesetDirectory_iff.2 rfl

/-- Whether a ruleset is asked for that is a file neither in the workspace nor, if the directory of
rulesets is there, among those that come with the compiler. -/
structure LacksRuleset (host : Host) (compiler : String) (wanted : Option String)
    (workspace name : String) : Prop where
  wanted : wanted = some name
  name_ne : name ≠ ""
  own : host.isFile (Path.absolute workspace name) = false
  official : ∀ directory, IsRulesetDirectory compiler directory →
    host.isDirectory directory = true → host.isFile (Path.join directory name) = false

/-- Whether a ruleset is the one asked for: it is a file, there is none exactly if none is asked for,
and that of the workspace is preferred. -/
structure IsRuleset (host : Host) (compiler : String) (wanted : Option String) (workspace : String)
    (ruleset : Option String) : Prop where
  isSome_iff : ruleset.isSome = true ↔ ∃ name, wanted = some name ∧ name ≠ ""
  isFile : ∀ path, ruleset = some path → host.isFile path = true
  own : ∀ name path, wanted = some name → ruleset = some path →
    host.isFile (Path.absolute workspace name) = true → path = Path.absolute workspace name
  official : ∀ name path, wanted = some name → ruleset = some path →
    host.isFile (Path.absolute workspace name) = false →
      ∃ directory, IsRulesetDirectory compiler directory ∧ host.isDirectory directory = true ∧
        path = Path.join directory name

/-- How a ruleset is looked for. -/
inductive RulesetAnswer (host : Host) (compiler : String) (wanted : Option String)
    (workspace : String) : Except Failure (Option String) → Prop
  | found {ruleset : Option String} (h : IsRuleset host compiler wanted workspace ruleset) :
    RulesetAnswer host compiler wanted workspace (.ok ruleset)
  | missing {name : String} (h : LacksRuleset host compiler wanted workspace name) :
    RulesetAnswer host compiler wanted workspace (.error (.analysis (.rulesetNotFound name)))

theorem isRuleset_none (h : ∀ name, wanted = some name → name = "") :
    IsRuleset host compiler wanted workspace none where
  isSome_iff := by
    refine iff_of_false (by simp) ?_
    rintro ⟨name, hwanted, hname⟩
    exact hname (h name hwanted)
  isFile _ h := by cases h
  own _ _ _ h := by cases h
  official _ _ _ h := by cases h

/-- A ruleset of the workspace is the one asked for. -/
theorem isRuleset_own (hname : name ≠ "")
    (hfile : host.isFile (Path.absolute workspace name) = true) :
    IsRuleset host compiler (some name) workspace (some (Path.absolute workspace name)) where
  isSome_iff := iff_of_true rfl ⟨name, rfl, hname⟩
  isFile path h := by
    cases h
    exact hfile
  own other path hother h _ := by
    cases hother
    exact (Option.some.inj h).symm
  official other path hother h hnone := by
    cases hother
    rw [hfile] at hnone
    cases hnone

/-- A ruleset that comes with the compiler is the one asked for, if the workspace has none. -/
theorem isRuleset_official (hname : name ≠ "")
    (hnone : host.isFile (Path.absolute workspace name) = false)
    (hdirectory : host.isDirectory (rulesetDirectoryOf compiler) = true)
    (hfile : host.isFile (Path.join (rulesetDirectoryOf compiler) name) = true) :
    IsRuleset host compiler (some name) workspace
      (some (Path.join (rulesetDirectoryOf compiler) name)) where
  isSome_iff := iff_of_true rfl ⟨name, rfl, hname⟩
  isFile path h := by
    cases h
    exact hfile
  own other path hother h hown := by
    cases hother
    rw [hown] at hnone
    cases hnone
  official other path hother h _ := by
    cases hother
    exact ⟨_, isRulesetDirectory_rulesetDirectoryOf compiler, hdirectory,
      (Option.some.inj h).symm⟩

/-- What is looked for when a ruleset is asked for: that of the workspace, and then that of the
directory. -/
theorem findRuleset_some (hname : name ≠ "") (directory : Option String) (host : Host) :
    ((findRuleset (some name) directory workspace).on host).1 =
      if host.isFile (Path.absolute workspace name) then .ok (some (Path.absolute workspace name))
      else
        match directory with
        | none => .error (.analysis (.rulesetNotFound name))
        | some directory =>
          if host.isFile (Path.join directory name) then .ok (some (Path.join directory name))
          else .error (.analysis (.rulesetNotFound name)) := by
  unfold findRuleset
  simp only [Path.resolve?_of_ne hname, Action.on_bind, Action.on_ask]
  split
  · rfl
  · cases directory with
    | none => rfl
    | some directory =>
      simp only [Action.on_bind, Action.on_ask]
      split
      · rfl
      · rfl

theorem findRuleset_unwanted (h : ∀ name, wanted = some name → name = "")
    (directory : Option String) (host : Host) :
    ((findRuleset wanted directory workspace).on host).1 = .ok none := by
  cases wanted with
  | none => rfl
  | some name =>
    obtain rfl := h name rfl
    rfl

theorem findRuleset_answer (host : Host) (compiler : String) (wanted : Option String)
    (workspace : String) :
    RulesetAnswer host compiler wanted workspace
      ((findRuleset wanted (rulesetDirectory? host compiler) workspace).on host).1 := by
  by_cases hwanted : ∃ name, wanted = some name ∧ name ≠ ""
  · obtain ⟨name, rfl, hname⟩ := hwanted
    rw [findRuleset_some hname, rulesetDirectory?]
    by_cases hown : host.isFile (Path.absolute workspace name) = true
    · rw [if_pos hown]
      exact .found (isRuleset_own hname hown)
    have hnone : host.isFile (Path.absolute workspace name) = false := by simpa using hown
    rw [if_neg hown]
    by_cases hdirectory : host.isDirectory (rulesetDirectoryOf compiler) = true
    · simp only [if_pos hdirectory]
      split
      · rename_i hofficial
        exact .found (isRuleset_official hname hnone hdirectory hofficial)
      · rename_i hofficial
        refine .missing ⟨rfl, hname, hnone, fun directory hrulesets _ => ?_⟩
        rw [isRulesetDirectory_iff.1 hrulesets]
        simpa using hofficial
    · simp only [if_neg hdirectory]
      refine .missing ⟨rfl, hname, hnone, fun directory hrulesets h => absurd h ?_⟩
      rwa [isRulesetDirectory_iff.1 hrulesets]
  · have hunwanted : ∀ name, wanted = some name → name = "" := fun name hname =>
      by_contra fun hne => hwanted ⟨name, hname, hne⟩
    rw [findRuleset_unwanted hunwanted]
    exact .found (isRuleset_none hunwanted)

/-- A ruleset that is found is not lacking. -/
theorem IsRuleset.not_lacksRuleset (h : IsRuleset host compiler wanted workspace ruleset) :
    ¬ LacksRuleset host compiler wanted workspace name := by
  intro hlacks
  obtain ⟨path, hpath⟩ := Option.isSome_iff_exists.1
    (h.isSome_iff.2 ⟨name, hlacks.wanted, hlacks.name_ne⟩)
  obtain ⟨directory, hrulesets, hdirectory, rfl⟩ :=
    h.official name path hlacks.wanted hpath hlacks.own
  have hfile := h.isFile _ hpath
  rw [hlacks.official directory hrulesets hdirectory] at hfile
  cases hfile

/-! ## The arguments of a compiler -/

/-- What the common arguments of a compiler name: its engine, the ruleset that is asked for, and the
directory of the rulesets if a ruleset is used and the directory is there. -/
structure AreNamed (host : Host) (compiler : String) (wanted : Option String) (workspace : String)
    (engine : String) (ruleset directory : Option String) : Prop where
  isEngine : IsEngine host compiler engine
  isRuleset : IsRuleset host compiler wanted workspace ruleset
  directory_iff : ∀ path, directory = some path ↔
    IsRulesetDirectory compiler path ∧ host.isDirectory path = true ∧ ruleset.isSome = true

/-- The paths that the common arguments name. -/
def namedPaths (engine : String) (ruleset directory : Option String) : List String :=
  engine :: (ruleset.toList ++ directory.toList)

/-- How the common arguments of a compiler are found: an engine that is missing is a failure of the
tools, otherwise a ruleset that is missing is one of the configuration, and otherwise the arguments
name what is there. Without double quotes in the paths these are the words that the arguments are read
as. -/
structure AreFound (host : Host) (compiler : String) (wanted : Option String) (workspace : String)
    (options : CommandOptions) (answer : Except Failure String) : Prop where
  externalTool : (∃ error, answer = .error (.analysis error) ∧ error.kind = .externalTool) ↔
    LacksEngine host compiler
  configuration : ¬ LacksEngine host compiler →
    ((∃ error, answer = .error (.analysis error) ∧ error.kind = .configuration) ↔
      ∃ name, LacksRuleset host compiler wanted workspace name)
  named : ¬ LacksEngine host compiler → (∀ name, ¬ LacksRuleset host compiler wanted workspace name) →
    ∃ common engine ruleset directory, answer = .ok common ∧
      AreNamed host compiler wanted workspace engine ruleset directory ∧
      ((∀ path ∈ namedPaths engine ruleset directory, '"' ∉ path.toList) →
        split common = commonWords engine ruleset directory options) ∧
      ((∀ path ∈ compiler :: workspace :: wanted.toList, '"' ∉ path.toList) →
        ∀ path ∈ namedPaths engine ruleset directory, '"' ∉ path.toList)

/-- The directory of the rulesets as it is named: only if a ruleset is used. -/
def namedDirectory? (host : Host) (compiler : String) (ruleset : Option String) : Option String :=
  if ruleset.isSome then rulesetDirectory? host compiler else none

/-- Without a ruleset its directory does not matter to the arguments. -/
theorem argumentsFor_namedDirectory? (engine : String) (options : CommandOptions) :
    argumentsFor engine ruleset (namedDirectory? host compiler ruleset) options =
      argumentsFor engine ruleset (rulesetDirectory? host compiler) options := by
  cases ruleset with
  | none => simp only [argumentsFor]
  | some path =>
    have hnamed : namedDirectory? host compiler (some path) = rulesetDirectory? host compiler :=
      if_pos rfl
    rw [hnamed]

theorem rulesetDirectory?_eq_some : rulesetDirectory? host compiler = some path ↔
    IsRulesetDirectory compiler path ∧ host.isDirectory path = true := by
  rw [isRulesetDirectory_iff]
  unfold rulesetDirectory?
  simp only [Option.ite_none_right_eq_some, Option.some.injEq]
  constructor
  · rintro ⟨hdirectory, hpath⟩
    rw [← hpath]
    exact ⟨rfl, hdirectory⟩
  · rintro ⟨hpath, hdirectory⟩
    rw [← hpath]
    exact ⟨hdirectory, rfl⟩

theorem areNamed {engine : String} (hengine : IsEngine host compiler engine)
    (hruleset : IsRuleset host compiler wanted workspace ruleset) :
    AreNamed host compiler wanted workspace engine ruleset
      (namedDirectory? host compiler ruleset) where
  isEngine := hengine
  isRuleset := hruleset
  directory_iff path := by
    rw [namedDirectory?, Option.ite_none_right_eq_some, rulesetDirectory?_eq_some, and_comm,
      and_assoc]

/-- What is named holds no double quote if neither the compiler, nor the workspace, nor the ruleset
that is asked for holds one. -/
theorem AreNamed.not_mem_quote {engine : String} {directory : Option String}
    (h : AreNamed host compiler wanted workspace engine ruleset directory)
    (hquote : ∀ path ∈ compiler :: workspace :: wanted.toList, '"' ∉ path.toList) :
    ∀ path ∈ namedPaths engine ruleset directory, '"' ∉ path.toList := by
  obtain ⟨hcompiler, hworkspace, hwanted⟩ : '"' ∉ compiler.toList ∧ '"' ∉ workspace.toList ∧
      ∀ name, wanted = some name → '"' ∉ name.toList := by simpa using hquote
  have hdir : '"' ∉ (Path.dirname compiler).toList := fun hmem =>
    hcompiler ((Path.dirname_prefix compiler).subset hmem)
  have hup : '"' ∉ (Path.dirname (Path.dirname compiler)).toList := fun hmem =>
    hdir ((Path.dirname_prefix _).subset hmem)
  have hjoin {base p : String} (hbase : '"' ∉ base.toList) (hp : '"' ∉ p.toList) :
      '"' ∉ (Path.join base p).toList := Path.notMem_join_of_notMem (by decide) hbase hp
  have hname : '"' ∉ engineName.toList := by decide
  have hrelative : '"' ∉ relativeRulesets.toList :=
    Path.notMem_ofNames (by decide) (by decide)
  have hrulesets : '"' ∉ (rulesetDirectoryOf compiler).toList :=
    Path.notMem_normalize (by decide) (by decide) (hjoin hdir hrelative)
  intro path hpath
  rcases List.mem_cons.1 hpath with rfl | hpath
  · cases hbeside : host.pathExists (engineBeside compiler) with
    | true =>
      rw [h.isEngine.beside hbeside]
      exact hjoin hdir hname
    | false =>
      cases h.isEngine.ofHost hbeside with
      | x86 => exact hjoin (hjoin hup (by decide)) hname
      | x64 => exact hjoin (hjoin hup (by decide)) hname
  · rcases List.mem_append.1 hpath with hpath | hpath
    · have hruleset : ruleset = some path := by simpa using hpath
      obtain ⟨name, rfl, -⟩ := h.isRuleset.isSome_iff.1 (by rw [hruleset]; rfl)
      cases hown : host.isFile (Path.absolute workspace name) with
      | true =>
        rw [h.isRuleset.own name path rfl hruleset hown]
        exact Path.notMem_normalize (by decide) (by decide) (hjoin hworkspace (hwanted name rfl))
      | false =>
        obtain ⟨official, hofficial, -, rfl⟩ := h.isRuleset.official name path rfl hruleset hown
        rw [isRulesetDirectory_iff.1 hofficial]
        exact hjoin hrulesets (hwanted name rfl)
    · have hdirectory : directory = some path := by simpa using hpath
      rw [isRulesetDirectory_iff.1 ((h.directory_iff path).1 hdirectory).1]
      exact hrulesets

/-- The arguments are read as the words that name what is found. -/
theorem split_named {engine : String} {directory : Option String} (options : CommandOptions)
    (hquote : ∀ path ∈ namedPaths engine ruleset directory, '"' ∉ path.toList) :
    split (argumentsFor engine ruleset directory options) =
      commonWords engine ruleset directory options :=
  split_argumentsFor options (hquote _ (by simp [namedPaths]))
    (fun path hpath => hquote path (by simp [namedPaths, Option.mem_def.1 hpath]))
    (fun path hpath => hquote path (by simp [namedPaths, Option.mem_def.1 hpath]))

/-- How the common arguments of a compiler are found. -/
theorem foundOn_areFound (host : Host) (compiler : String) (wanted : Option String)
    (workspace : String) (options : CommandOptions) :
    AreFound host compiler wanted workspace options
      (foundOn host wanted workspace options compiler) := by
  have hruleset := findRuleset_answer host compiler wanted workspace
  have hengine := engine_answer host compiler
  rw [foundOn, commonArguments_answer]
  generalize ((findRuleset wanted (rulesetDirectory? host compiler) workspace).on host).1 = found
    at hruleset ⊢
  generalize engine host compiler = answer at hengine ⊢
  cases hengine with
  | @missing error hlacks hkind =>
    exact
      { externalTool := iff_of_true ⟨error, rfl, hkind⟩ hlacks
        configuration := fun h => absurd hlacks h
        named := fun h => absurd hlacks h }
  | @found engine hisEngine =>
    cases hruleset with
    | @missing name hlacks =>
      refine ⟨iff_of_false ?_ hisEngine.not_lacksEngine, fun _ => iff_of_true ?_ ⟨name, hlacks⟩,
        fun _ h => absurd hlacks (h name)⟩
      · rintro ⟨error, herror, hkind⟩
        cases herror
        cases hkind
      · exact ⟨_, rfl, rfl⟩
    | @found ruleset hisRuleset =>
      have hnamed := areNamed hisEngine hisRuleset
      refine ⟨iff_of_false ?_ hisEngine.not_lacksEngine, fun _ => iff_of_false ?_ ?_, fun _ _ => ?_⟩
      · rintro ⟨error, herror, -⟩
        cases herror
      · rintro ⟨error, herror, -⟩
        cases herror
      · rintro ⟨name, hlacks⟩
        exact hisRuleset.not_lacksRuleset hlacks
      · refine ⟨_, engine, ruleset, _, rfl, hnamed, fun hquote => ?_, hnamed.not_mem_quote⟩
        simp only
        rw [← argumentsFor_namedDirectory?]
        exact split_named options hquote

/-! ## All compilers -/

/-- How arguments are found on a host: those of each compiler, and from them those of the compilers of
commands, which are found once for each of them; nothing but the console changes. -/
structure FindsArguments (host : Host) (wanted : Option String) (workspace : String)
    (options : CommandOptions) : Prop where
  compiler : ∀ compiler, AreFound host compiler wanted workspace options
    ((commonArguments compiler wanted workspace options).on host).1
  table : ∀ commands : List CompileCommand,
    IsFilled (fun compiler => ((commonArguments compiler wanted workspace options).on host).1)
      (commands.map (·.compiler.path))
      ((argumentTable commands wanted workspace options).on host).1
  unchanged : ∀ commands : List CompileCommand, ∃ console,
    ((argumentTable commands wanted workspace options).on host).2 = host.withConsole console

/-- The common arguments name an engine, a ruleset and a directory of rulesets that are there, or what
is missing is told; and so do the arguments for the compilers of all commands. -/
theorem findsArguments (host : Host) (wanted : Option String) (workspace : String)
    (options : CommandOptions) : FindsArguments host wanted workspace options where
  compiler compiler := foundOn_areFound host compiler wanted workspace options
  table commands := argumentTable_isFilled commands wanted workspace options host
  unchanged commands := (onlyLogs_foldlM_addArguments commands []).after host

end Analysis

end BuildAnalysis
