import BuildAnalysis.Proofs.Path.Below
import BuildAnalysis.Proofs.Toolchain.Fallback

/-!
# Installed compilers

Each toolset of an installation has a directory, in which its compilers stand by the host that they run
on and by the target that they compile for. Where the cache names a compiler, the directory of its
toolset is looked for three names above the file of the compiler; in an installation it is four names
above, so that the directory of the binaries is taken for it.

* `toolset_below`: where the toolset of a compiler is looked for.
* `ofCache_installed`: what the cache tells of an installed compiler.
* `ofCache_misses_toolset`: a compiler of which neither the version nor the includes are told.
-/

namespace BuildAnalysis

open BuildAnalysis.Path (IsNormal IsName below)

/-- The parts of the path of an installed compiler. -/
structure Installation where
  /-- The directory below which all compilers are installed. -/
  directory : String
  toolset : String
  /-- The architecture that the compiler runs on. -/
  host : String
  /-- The architecture that it compiles for. -/
  target : String
  isNormal_directory : IsNormal directory
  isName_toolset : IsName toolset
  isName_host : IsName host
  isName_target : IsName target

namespace Installation

/-- The directory of the toolset. -/
def toolsetDirectory (installation : Installation) : String :=
  below installation.directory ["Tools", "MSVC", installation.toolset]

/-- The name of the directory of the compilers that run on the host. -/
def hostName (installation : Installation) : String :=
  "Host" ++ installation.host

/-- The directory of the binaries of the toolset. -/
def binaryDirectory (installation : Installation) : String :=
  Path.join installation.toolsetDirectory "bin"

/-- The directory of the compilers that run on the host. -/
def hostDirectory (installation : Installation) : String :=
  Path.join installation.binaryDirectory installation.hostName

/-- The directory of the compilers that run on the host and compile for an architecture. -/
def compilerDirectory (installation : Installation) (architecture : String) : String :=
  Path.join installation.hostDirectory architecture

/-- The path of the compiler. -/
def compiler (installation : Installation) : String :=
  Path.join (installation.compilerDirectory installation.target) "cl.exe"

theorem isName_hostName (installation : Installation) : IsName installation.hostName := by
  have hchars : installation.hostName.toList = "Host".toList ++ installation.host.toList :=
    String.toList_append
  have hne (name : String) (h : name.toList.head? ≠ some 'H') : installation.hostName ≠ name := by
    rintro rfl
    exact h (by rw [hchars]; rfl)
  refine ⟨⟨hne "" (by decide), hne "." (by decide), hne ".." (by decide)⟩, ?_⟩
  rw [hchars, List.mem_append, not_or]
  exact ⟨by decide, installation.isName_host.2⟩

theorem isNormal_toolsetDirectory (installation : Installation) :
    IsNormal installation.toolsetDirectory := by
  refine installation.isNormal_directory.isNormal_below ?_
  simp only [List.forall_mem_cons]
  exact ⟨by decide, by decide, installation.isName_toolset, List.forall_mem_nil _⟩

theorem isNormal_binaryDirectory (installation : Installation) :
    IsNormal installation.binaryDirectory :=
  installation.isNormal_toolsetDirectory.isNormal_join (by decide)

theorem basename_binaryDirectory (installation : Installation) :
    Path.basename installation.binaryDirectory = "bin" :=
  installation.isNormal_toolsetDirectory.basename_join (by decide)

theorem dirname_binaryDirectory (installation : Installation) :
    Path.dirname installation.binaryDirectory = installation.toolsetDirectory :=
  installation.isNormal_toolsetDirectory.dirname_join (by decide)

/-- The directory of the binaries is another one than that of the toolset. -/
theorem binaryDirectory_ne (installation : Installation) :
    installation.binaryDirectory ≠ installation.toolsetDirectory := by
  have hbuilt := installation.isNormal_toolsetDirectory.isBuilt_below
    (by decide : ∀ name ∈ ["bin"], IsName name)
  intro heq
  have hnames := congrArg Path.normalNames heq
  rw [binaryDirectory, ← Path.below_singleton, hbuilt.normalNames] at hnames
  simp at hnames

theorem isNormal_hostDirectory (installation : Installation) :
    IsNormal installation.hostDirectory :=
  installation.isNormal_binaryDirectory.isNormal_join installation.isName_hostName

theorem isNormal_compilerDirectory (installation : Installation) :
    IsNormal (installation.compilerDirectory installation.target) :=
  installation.isNormal_hostDirectory.isNormal_join installation.isName_target

end Installation

namespace Compiler

variable {directory : String}

/-- The toolset of a compiler is looked for three names above its file. -/
theorem toolset_below {a b file : String} (h : IsNormal directory)
    (hns : ∀ name ∈ [a, b, file], IsName name) :
    toolset (below directory [a, b, file]) = directory := by
  have hups (path : String) : Path.join (Path.join (Path.join path "..") "..") ".." =
      Path.join path "../../.." := by
    rw [Path.join_assoc (by decide) (by decide) (by decide),
      Path.join_assoc (by decide) (by decide) (by decide)]
    rfl
  have hthree : Path.ups "../../.." = 3 := by decide
  have hplain : Path.plainNames "../../.." = [] := by decide
  rw [toolset, hups, h.normalize_join_below hns (by decide) hthree, hplain]
  rfl

end Compiler

namespace Toolchains

variable {cache : Cache} {language : Language} {installation : Installation}

/-- The toolset of an installed compiler is looked for in the directory of the binaries. -/
theorem toolset_installed (installation : Installation) :
    Compiler.toolset installation.compiler = installation.binaryDirectory := by
  have hcompiler : installation.compiler = below installation.binaryDirectory
      [installation.hostName, installation.target, "cl.exe"] := rfl
  have hnames : ∀ name ∈ [installation.hostName, installation.target, "cl.exe"], IsName name := by
    simp only [List.forall_mem_cons]
    exact ⟨installation.isName_hostName, installation.isName_target, by decide,
      List.forall_mem_nil _⟩
  rw [hcompiler, Compiler.toolset_below installation.isNormal_binaryDirectory hnames]

/-- What is told of a compiler of which the path alone is known, in an installation: the directory of
the binaries is taken for that of the toolset, so that the version is its name and the includes are
looked for in it. The directory of the toolset is the one above; its name is told only if it is the
same, and its includes are never told. -/
structure IsMisplaced (installation : Installation) (compiler : Compiler) : Prop where
  path : compiler.path = installation.compiler
  version : compiler.version = .string "bin"
  includes : compiler.includes =
    [.string (Path.join installation.binaryDirectory "include")]
  above : Path.dirname (Compiler.toolset compiler.path) = installation.toolsetDirectory
  version_iff : compiler.version = .string installation.toolset ↔ installation.toolset = "bin"
  includes_ne : compiler.includes ≠ [.string (Path.join installation.toolsetDirectory "include")]

theorem isMisplaced_ofPath (installation : Installation) :
    IsMisplaced installation (.ofPath installation.compiler) := by
  have htoolset := toolset_installed installation
  have hversion : Compiler.versionOfPath installation.compiler = "bin" := by
    rw [Compiler.versionOfPath, htoolset, installation.basename_binaryDirectory]
  have hincludes : Compiler.includesOfPath installation.compiler =
      [Path.join installation.binaryDirectory "include"] := by
    rw [Compiler.includesOfPath, htoolset]
  refine ⟨rfl, ?_, ?_, ?_, ?_, ?_⟩
  · rw [Compiler.ofPath, hversion]
  · rw [Compiler.ofPath, hincludes]
    rfl
  · rw [Compiler.ofPath, htoolset, installation.dirname_binaryDirectory]
  · rw [Compiler.ofPath, hversion, Json.string.injEq, eq_comm]
  · rw [Compiler.ofPath, hincludes]
    intro heq
    have hpaths : Path.join installation.binaryDirectory "include" =
        Path.join installation.toolsetDirectory "include" := by simpa using heq
    have habove := congrArg Path.dirname hpaths
    rw [installation.isNormal_binaryDirectory.dirname_join (by decide),
      installation.isNormal_toolsetDirectory.dirname_join (by decide)] at habove
    exact installation.binaryDirectory_ne habove

/-- The cache tells of an installed compiler what its path tells. -/
theorem ofCache_of_installed (htexts : HasTexts cache)
    (h : cache.get? (cacheVariable language) = some (.string installation.compiler)) :
    ofCache cache = .ok (cached cache) ∧
      (cached cache).get? language = some (.ofPath installation.compiler) := by
  have hbase : Path.basename installation.compiler = "cl.exe" :=
    installation.isNormal_compilerDirectory.basename_join (by decide)
  have hanalyzer : Compiler.isAnalyzer installation.compiler = true := by
    rw [Compiler.isAnalyzer, hbase]
    decide +kernel
  have hcompiler : (cached cache).get? language = some (.ofPath installation.compiler) := by
    rw [get?_cached, cachedPath?_eq_some.2 ⟨h, hanalyzer⟩, Option.map_some]
  have hempty : (cached cache).isEmpty = false := by
    rw [Bool.eq_false_iff, Ne, isEmpty_iff]
    intro hnone
    rw [hnone language] at hcompiler
    cases hcompiler
  rw [ofCache_eq htexts, required, hempty]
  exact ⟨rfl, hcompiler⟩

/-- Where the cache names an installed compiler, the directory of the binaries is taken for that of its
toolset. -/
theorem ofCache_installed (htexts : HasTexts cache)
    (h : cache.get? (cacheVariable language) = some (.string installation.compiler)) :
    ∃ toolchains compiler, ofCache cache = .ok toolchains ∧
      toolchains.get? language = some compiler ∧ IsMisplaced installation compiler := by
  obtain ⟨hcache, hcompiler⟩ := ofCache_of_installed htexts h
  exact ⟨_, _, hcache, hcompiler, isMisplaced_ofPath installation⟩

/-! ## A sample -/

/-- A compiler that runs on the architecture that it compiles for. -/
def sampleInstallation : Installation where
  directory := "/vs/VC"
  toolset := "14.29.30133"
  host := "x64"
  target := "x64"
  isNormal_directory := ⟨"/", by decide, ["vs", "VC"], by decide, by decide⟩
  isName_toolset := by decide
  isName_host := by decide
  isName_target := by decide

/-- A cache that names it for one of the languages. -/
def installedCache : Cache :=
  [(.string "CMAKE_CXX_COMPILER",
    .string "/vs/VC/Tools/MSVC/14.29.30133/bin/Hostx64/x64/cl.exe")]

theorem compiler_sampleInstallation : sampleInstallation.compiler =
    "/vs/VC/Tools/MSVC/14.29.30133/bin/Hostx64/x64/cl.exe" := by decide

theorem hasTexts_installedCache : HasTexts installedCache := by
  intro language value h _
  cases language with
  | c => cases h
  | cxx => exact ⟨_, (Option.some.inj h).symm⟩

theorem get?_installedCache : installedCache.get? (cacheVariable .cxx) =
    some (.string sampleInstallation.compiler) := by
  rw [compiler_sampleInstallation]
  rfl

theorem ofCache_installed_sample : HasTexts installedCache ∧
    installedCache.get? (cacheVariable .cxx) = some (.string sampleInstallation.compiler) ∧
    ∃ toolchains compiler, ofCache installedCache = .ok toolchains ∧
      toolchains.get? .cxx = some compiler ∧ IsMisplaced sampleInstallation compiler :=
  ⟨hasTexts_installedCache, get?_installedCache,
    ofCache_installed hasTexts_installedCache get?_installedCache⟩

/-- Neither the version of the toolset nor its include directory is told of the compiler. -/
theorem ofCache_misses_toolset : ∃ toolchains compiler,
    ofCache [(.string "CMAKE_CXX_COMPILER",
      .string "/vs/VC/Tools/MSVC/14.29.30133/bin/Hostx64/x64/cl.exe")] = .ok toolchains ∧
    toolchains.get? .cxx = some compiler ∧
    compiler.version = .string "bin" ∧ compiler.version ≠ .string "14.29.30133" ∧
    compiler.includes = [.string "/vs/VC/Tools/MSVC/14.29.30133/bin/include"] ∧
    compiler.includes ≠ [.string "/vs/VC/Tools/MSVC/14.29.30133/include"] := by
  obtain ⟨hcache, hcompiler⟩ := ofCache_of_installed hasTexts_installedCache get?_installedCache
  have hmisplaced := isMisplaced_ofPath sampleInstallation
  have hbinaries : Path.join sampleInstallation.binaryDirectory "include" =
      "/vs/VC/Tools/MSVC/14.29.30133/bin/include" := by decide
  refine ⟨_, _, hcache, hcompiler, hmisplaced.version, ?_, ?_, ?_⟩
  · rw [hmisplaced.version, Ne, Json.string.injEq]
    decide
  · rw [hmisplaced.includes, hbinaries]
  · rw [hmisplaced.includes, hbinaries]
    simp

end Toolchains

end BuildAnalysis
