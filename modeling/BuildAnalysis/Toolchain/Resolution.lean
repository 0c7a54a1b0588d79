import BuildAnalysis.Error
import BuildAnalysis.Toolchain.Basic

/-!
# Finding the compilers

The toolchains reply lists the compilers of all languages. Only those that can analyze count, and
of several for one language the last. Without that reply the cache variables of the two languages
name the compilers. A project without any compiler that can analyze is refused.
-/

namespace BuildAnalysis

/-- The variables of the build directory, in the order in which they first appeared. -/
abbrev Cache := List (Json × Json)

namespace Cache

/-- Gives a variable a value; one that is there already keeps its place and its name. -/
def put (cache : Cache) (name value : Json) : Cache :=
  match cache with
  | [] => [(name, value)]
  | (n, v) :: rest =>
    if Json.sameKey n name then (n, value) :: rest else (n, v) :: put rest name value

/-- The value of a variable. -/
def get? (cache : Cache) (name : String) : Option Json :=
  (cache.find? fun entry => Json.sameKey entry.1 (.string name)).map (·.2)

end Cache

/-- The outcome of a question to the values of a reply. -/
def ReplyFile.check {α : Type} (file : ReplyFile) (answer : Except Json.Fault α) :
    Except AnalysisError α :=
  answer.mapError (.replyUnexpected file)

namespace Compiler

/-- The word by which replies tell the compilers that can analyze. -/
def analyzerId : String := "MSVC"

/-- The compiler that a reply describes for a language; `none` if it cannot analyze. -/
def ofReply? (language : Language) (reply : Json) : Except AnalysisError (Option Compiler) := do
  let check {α : Type} := ReplyFile.check (α := α) .toolchains
  match ← check (reply.member? "id") with
  | some (.string id) =>
    if id != analyzerId then return none
    let path ←
      match ← check (reply.member "path") with
      | .string "" => throw (.compilerPathMissing language.name)
      | .string path => pure path
      | _ => throw (.compilerPathMissing language.name)
    let version ← check (reply.memberD "version" (.string ""))
    let includes ← check (reply.memberD "includeDirectories" (.array []))
    return some { path, version, includes := ← check includes.items }
  | _ => return none

end Compiler

namespace Toolchains

/-- Takes an item of the toolchains reply into account. -/
def addReply (toolchains : Toolchains) (item : Json) : Except AnalysisError Toolchains := do
  let check {α : Type} := ReplyFile.check (α := α) .toolchains
  let name ← check (item.member? "language")
  let reply ← check (item.memberD "compiler" (.object []))
  match (name.bind Json.string?).bind Language.ofName? with
  | none => return toolchains
  | some language =>
    match ← Compiler.ofReply? language reply with
    | none => return toolchains
    | some compiler => return toolchains.set language compiler

/-- The compilers, of which there has to be one. -/
def required (toolchains : Toolchains) : Except AnalysisError Toolchains :=
  if toolchains.isEmpty then .error .compilerMissing else .ok toolchains

/-- The compilers that the toolchains reply describes. -/
def ofReply (data : Json) : Except AnalysisError Toolchains := do
  let check {α : Type} := ReplyFile.check (α := α) .toolchains
  let items ← check (← check (data.memberD "toolchains" (.array []))).items
  let toolchains ← items.foldlM addReply {}
  toolchains.required

/-- The cache variable that names the compiler of a language. -/
def cacheVariable : Language → String
  | .c => "CMAKE_C_COMPILER"
  | .cxx => "CMAKE_CXX_COMPILER"

/-- The compiler of a language that the cache names, if it can analyze. -/
def cachedCompiler? (cache : Cache) (language : Language) : Except Json.Fault (Option Compiler) :=
  match cache.get? (cacheVariable language) with
  | none => .ok none
  | some value =>
    if !value.truthy then .ok none
    else
      match value with
      | .string path => .ok (if Compiler.isAnalyzer path then some (.ofPath path) else none)
      | _ => .error (.noPath value.kind)

/-- The compilers that the cache names. -/
def ofCache (cache : Cache) : Except Failure Toolchains := do
  let c ← (cachedCompiler? cache .c).mapError .fault
  let cxx ← (cachedCompiler? cache .cxx).mapError .fault
  (required { c, cxx }).mapError .analysis

end Toolchains

end BuildAnalysis
