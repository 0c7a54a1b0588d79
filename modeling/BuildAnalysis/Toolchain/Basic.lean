import BuildAnalysis.Json.Access
import BuildAnalysis.Path.Basic
import BuildAnalysis.Text.Lowercase

/-!
# Compilers

A project has at most one compiler of interest for each of the two languages. What a toolchain's
installation looks like tells the version and the include directory of its compiler.
-/

namespace BuildAnalysis

/-- The languages whose sources are analyzed. -/
inductive Language where
  | c
  | cxx
  deriving DecidableEq, Repr

/-- The name of a language in replies. -/
def Language.name : Language → String
  | .c => "C"
  | .cxx => "CXX"

/-- The language with a name. -/
def Language.ofName? (name : String) : Option Language :=
  if name == "C" then some .c else if name == "CXX" then some .cxx else none

/-- A compiler as it was found. Version and include directories are kept as they were reported. -/
structure Compiler where
  path : String
  version : Json
  includes : List Json

/-- The compilers of a project. -/
structure Toolchains where
  c : Option Compiler := none
  cxx : Option Compiler := none

namespace Toolchains

/-- The compiler of a language. -/
def get? (toolchains : Toolchains) : Language → Option Compiler
  | .c => toolchains.c
  | .cxx => toolchains.cxx

/-- Sets the compiler of a language. -/
def set (toolchains : Toolchains) (language : Language) (compiler : Compiler) : Toolchains :=
  match language with
  | .c => { toolchains with c := some compiler }
  | .cxx => { toolchains with cxx := some compiler }

/-- The compiler of the language with a name. -/
def compiler? (toolchains : Toolchains) (name : String) : Option Compiler :=
  (Language.ofName? name).bind toolchains.get?

/-- Whether no language has a compiler. -/
def isEmpty (toolchains : Toolchains) : Bool :=
  toolchains.c.isNone && toolchains.cxx.isNone

end Toolchains

namespace Compiler

/-- The names of the compilers that can analyze, in lower case. -/
def names : List String := ["cl.exe", "cl"]

/-- Whether a path names a compiler that can analyze. -/
def isAnalyzer (path : String) : Bool :=
  names.contains (Text.lower (Path.basename path))

/-- The directory of the toolset that a compiler's path belongs to. -/
def toolset (path : String) : String :=
  Path.normalize (Path.join (Path.join (Path.join path "..") "..") "..")

/-- The version that a compiler's path tells. -/
def versionOfPath (path : String) : String :=
  Path.basename (toolset path)

/-- The include directories that a compiler's path tells. -/
def includesOfPath (path : String) : List String :=
  [Path.join (toolset path) "include"]

/-- A compiler of which the path alone is known. -/
def ofPath (path : String) : Compiler where
  path := path
  version := .string (versionOfPath path)
  includes := (includesOfPath path).map .string

end Compiler

end BuildAnalysis
