import BuildAnalysis.Host.Basic

/-!
# Rulesets

A ruleset is looked for in the workspace first, and then among those that come with the compiler.
-/

namespace BuildAnalysis.Analysis

/-- Where the rulesets lie, relative to the directory of the compiler. -/
def relativeRulesets : String :=
  Path.ofNames (List.replicate 7 ".." ++ ["Team Tools", "Static Analysis Tools", "Rule Sets"])

/-- Where the rulesets that come with a compiler have to lie. -/
def rulesetDirectoryOf (compiler : String) : String :=
  Path.normalize (Path.join (Path.dirname compiler) relativeRulesets)

/-- The directory of the rulesets that come with a compiler, if it is there. -/
def rulesetDirectory? (host : Host) (compiler : String) : Option String :=
  let directory := rulesetDirectoryOf compiler
  if host.isDirectory directory then some directory else none

/-- The path of a ruleset; `none` if none is asked for. -/
def findRuleset (ruleset directory : Option String) (workspace : String) :
    Action (Option String) := do
  match ruleset, Path.resolve? ruleset workspace with
  | some name, some own =>
    if ← Action.ask (·.isFile own) then return some own
    match directory with
    | some directory =>
      let official := Path.join directory name
      if ← Action.ask (·.isFile official) then return some official
    | none =>
      Action.log .warning "find_ruleset"
        "Unable to find official rulesets shipped with Visual Studio"
    Action.report (.rulesetNotFound name)
  | _, _ => return none

end BuildAnalysis.Analysis
