import BuildAnalysis.Error
import BuildAnalysis.Path.Basic

/-!
# Targets

A target lists its sources, and groups those that are compiled with the same options. A group refers
to its sources by their indexes, which are checked when the target is read. All other values are
kept as the reply has them.
-/

namespace BuildAnalysis

/-- An include directory, which may be one of the system. -/
structure Include where
  path : Json
  isSystem : Bool

/-- Sources that are compiled with the same options. -/
structure CompileGroup where
  language : Json
  fragments : List Json
  includes : List Include
  defines : List Json
  sourceIndexes : List Json

/-- A target with its sources and its groups. -/
structure Target where
  file : String
  sources : List Json
  groups : List CompileGroup

/-- The items of a member that may be absent. -/
def Json.memberItems (value : Json) (name : String) : Except Json.Fault (List Json) := do
  (← value.memberD name (.array [])).items

/-- The include directory that a reply describes. -/
def Include.ofReply (entry : Json) : Except Json.Fault Include := do
  let path ← entry.member "path"
  let isSystem ← entry.memberD "isSystem" (.bool false)
  return { path, isSystem := isSystem.truthy }

/-- The group that a reply describes. -/
def CompileGroup.ofReply (group : Json) : Except Json.Fault CompileGroup := do
  let language ← group.memberD "language" (.string "")
  let fragments ← (← group.memberItems "compileCommandFragments").mapM (·.member "fragment")
  let includes ← (← group.memberItems "includes").mapM Include.ofReply
  let defines ← (← group.memberItems "defines").mapM (·.member "define")
  let sourceIndexes ← group.memberItems "sourceIndexes"
  return { language, fragments, includes, defines, sourceIndexes }

namespace Target

/-- The target that a reply describes, before its indexes are checked. -/
def ofReplyUnchecked (file : String) (data : Json) : Except Json.Fault Target := do
  let sources ← (← data.memberItems "sources").mapM (·.member "path")
  let groups ← (← data.memberItems "compileGroups").mapM CompileGroup.ofReply
  return { file, sources, groups }

/-- Whether a value is the index of one of `count` sources. -/
def isIndex (count : Nat) (index : Json) : Bool :=
  match index.integer? with
  | some n => 0 ≤ n && n < count
  | none => false

/-- The first index of a target that no source has. -/
def badIndex? (target : Target) : Option Json :=
  (target.groups.flatMap (·.sourceIndexes)).find? (!isIndex target.sources.length ·)

/-- The target that a reply describes. -/
def ofReply (file : String) (data : Json) : Except AnalysisError Target :=
  match ofReplyUnchecked file data with
  | .error fault => .error (.replyUnexpected (.target file) fault)
  | .ok target =>
    match target.badIndex? with
    | some index => .error (.sourceOutOfRange index file)
    | none => .ok target

/-- The source at an index; an index below zero counts from the end. -/
def sourceAt (target : Target) (index : Int) : Except Json.Fault Json :=
  let position := if index < 0 then index + target.sources.length else index
  match if position < 0 then none else target.sources[position.toNat]? with
  | some source => .ok source
  | none => .error (.outOfRange .array)

/-- The path of the source at an index, below the source directory of the project. -/
def source (target : Target) (sourceRoot : Json) (index : Int) : Except Json.Fault String := do
  let source ← target.sourceAt index
  return Path.normalize (Path.join (← sourceRoot.path) (← source.path))

end Target

end BuildAnalysis
