import BuildAnalysis.Analysis.Engine
import BuildAnalysis.Analysis.Ruleset
import BuildAnalysis.Proofs.Text.Lowercase
import BuildAnalysis.Proofs.Toolchain.Installation

/-!
# What comes with an installed compiler

The rulesets lie below the root of the installation, seven names above the directory of every compiler.
The engine lies in the directory of the compiler, or in that of the compiler which compiles for the host
that it runs on.

* `rulesetDirectoryOf_installed`: where the rulesets are looked for.
* `engine_installed`: where the engine is looked for.
* `isEquipped`: what is found for an installed compiler.
-/

namespace BuildAnalysis

open BuildAnalysis.Path (IsNormal IsName below)

namespace Installation

variable {installation : Installation}

/-- The names on the way from the root of the installation to the directory of the compiler. -/
def namesFromRoot (installation : Installation) : List String :=
  ["VC", "Tools", "MSVC", installation.toolset, "bin", installation.hostName, installation.target]

/-- The path of the engine for the compilers that compile for an architecture. -/
def engine (installation : Installation) (architecture : String) : String :=
  Path.join (installation.compilerDirectory architecture) Analysis.engineName

theorem isName_namesFromRoot (installation : Installation) :
    ∀ name ∈ installation.namesFromRoot, IsName name := by
  simp only [namesFromRoot, List.forall_mem_cons]
  exact ⟨by decide, by decide, by decide, installation.isName_toolset, by decide,
    installation.isName_hostName, installation.isName_target, List.forall_mem_nil _⟩

/-- The compiler is in the directory of those that compile for its target. -/
theorem dirname_compiler (installation : Installation) :
    Path.dirname installation.compiler = installation.compilerDirectory installation.target :=
  installation.isNormal_compilerDirectory.dirname_join (by decide)

/-- These directories are side by side in the one of the host. -/
theorem dirname_compilerDirectory (installation : Installation) :
    Path.dirname (installation.compilerDirectory installation.target) =
      installation.hostDirectory :=
  installation.isNormal_hostDirectory.dirname_join installation.isName_target

theorem basename_hostDirectory (installation : Installation) :
    Path.basename installation.hostDirectory = installation.hostName :=
  installation.isNormal_binaryDirectory.basename_join installation.isName_hostName

/-- The name of the directory of the host is that of a known one, in any case of its letters. -/
theorem hostTarget?_hostName
    (hhost : Text.lower installation.host ∈ ["x86", "x64"]) :
    Analysis.hostTarget? (Text.lower installation.hostName) =
      some (Text.lower installation.host) := by
  have hknown : ∀ name ∈ ["x86", "x64"], '\u03c2' ∉ name.toList ∧ '\u03c3' ∉ name.toList ∧
      Analysis.hostTarget? ("host" ++ name) = some name := by decide
  obtain ⟨hfinal, hsmall, htarget⟩ := hknown _ hhost
  have hsigma := Text.sigma_not_mem_of_lower hfinal hsmall
  have hlower : Text.lower installation.hostName = "host" ++ Text.lower installation.host := by
    rw [hostName, Text.lower_append (by decide) hsigma]
    rfl
  rw [hlower, htarget]

end Installation

namespace Analysis

variable {installation : Installation} {root : String}

/-- Where the rulesets lie that come with the compilers of an installation. -/
def installedRulesets (root : String) : String :=
  below root ["Team Tools", "Static Analysis Tools", "Rule Sets"]

/-- The rulesets of an installed compiler are looked for below the root of the installation. -/
theorem rulesetDirectoryOf_installed (hroot : IsNormal root)
    (hdirectory : installation.directory = Path.join root "VC") :
    rulesetDirectoryOf installation.compiler = installedRulesets root := by
  have hplace : installation.compilerDirectory installation.target =
      below root installation.namesFromRoot := by
    rw [Installation.compilerDirectory, Installation.hostDirectory,
      Installation.binaryDirectory, Installation.toolsetDirectory, hdirectory]
    rfl
  have hups : Path.ups relativeRulesets = 7 := by decide +kernel
  have hplain : Path.plainNames relativeRulesets =
      ["Team Tools", "Static Analysis Tools", "Rule Sets"] := by decide +kernel
  rw [rulesetDirectoryOf, installation.dirname_compiler, hplace,
    hroot.normalize_join_below installation.isName_namesFromRoot (by decide) hups, hplain]
  rfl

/-- The engine of an installed compiler is looked for in the directory of the compiler first, and then
in that of the compiler whose target is the host. -/
theorem engine_installed (host : Host)
    (hhost : Text.lower installation.host ∈ ["x86", "x64"]) :
    engine host installation.compiler =
      if host.pathExists (installation.engine installation.target) then
        .ok (installation.engine installation.target)
      else if host.pathExists (installation.engine (Text.lower installation.host)) then
        .ok (installation.engine (Text.lower installation.host))
      else .error (.engineNotFound engineName) := by
  have hengine (architecture : String) :
      Path.join (Path.join installation.hostDirectory architecture) engineName =
        installation.engine architecture := rfl
  have hown : Path.join (installation.compilerDirectory installation.target) engineName =
      installation.engine installation.target := rfl
  unfold engine
  simp only [installation.dirname_compiler, installation.dirname_compilerDirectory,
    installation.basename_hostDirectory, Installation.hostTarget?_hostName hhost, hown, hengine]

/-- What is found for an installed compiler: the rulesets of the installation if their directory is
there, and the engine in the directory of the compiler, or else in that of the compiler whose target
is the host. -/
structure IsEquipped (host : Host) (root : String) (installation : Installation) : Prop where
  rulesets : rulesetDirectory? host installation.compiler =
    if host.isDirectory (installedRulesets root) then some (installedRulesets root) else none
  engine : engine host installation.compiler =
    if host.pathExists (installation.engine installation.target) then
      .ok (installation.engine installation.target)
    else if host.pathExists (installation.engine (Text.lower installation.host)) then
      .ok (installation.engine (Text.lower installation.host))
    else .error (.engineNotFound engineName)

/-- The rulesets and the engine of an installed compiler are looked for where an installation has
them. -/
theorem isEquipped (host : Host) (hroot : IsNormal root)
    (hdirectory : installation.directory = Path.join root "VC")
    (hhost : Text.lower installation.host ∈ ["x86", "x64"]) :
    IsEquipped host root installation where
  rulesets := by
    rw [rulesetDirectory?, rulesetDirectoryOf_installed hroot hdirectory]
  engine := engine_installed host hhost

/-- A cross compiler in an installation whose root is that of the files. -/
def crossInstallation : Installation where
  directory := "/VC"
  toolset := "14.16.27023"
  host := "X86"
  target := "arm64"
  isNormal_directory := ⟨"/", by decide, ["VC"], by decide, by decide⟩
  isName_toolset := by decide
  isName_host := by decide
  isName_target := by decide

/-- A host with the engine next to the compiler whose target is the host, and with rulesets. -/
def equippedHost : Host where
  files := ⟨[(["VC"], .directory), (["VC", "Tools"], .directory),
    (["VC", "Tools", "MSVC"], .directory),
    (["VC", "Tools", "MSVC", "14.16.27023"], .directory),
    (["VC", "Tools", "MSVC", "14.16.27023", "bin"], .directory),
    (["VC", "Tools", "MSVC", "14.16.27023", "bin", "HostX86"], .directory),
    (["VC", "Tools", "MSVC", "14.16.27023", "bin", "HostX86", "x86"], .directory),
    (["VC", "Tools", "MSVC", "14.16.27023", "bin", "HostX86", "x86", "EspXEngine.dll"],
      .file [] false),
    (["Team Tools"], .directory), (["Team Tools", "Static Analysis Tools"], .directory),
    (["Team Tools", "Static Analysis Tools", "Rule Sets"], .directory)]⟩
  directory := "/"
  environment := []
  children := []
  console := .ofCommand ""

theorem isEquipped_crossInstallation :
    IsNormal "/" ∧ crossInstallation.directory = Path.join "/" "VC" ∧
      Text.lower crossInstallation.host ∈ ["x86", "x64"] ∧
      IsEquipped equippedHost "/" crossInstallation :=
  ⟨Path.isNormal_root, by decide, by decide,
    isEquipped equippedHost Path.isNormal_root (by decide) (by decide)⟩

/-- The engine of the compiler whose target is the host is found for the cross compiler. -/
example : engine equippedHost crossInstallation.compiler =
    .ok "/VC/Tools/MSVC/14.16.27023/bin/HostX86/x86/EspXEngine.dll" := by rfl

end Analysis

end BuildAnalysis
