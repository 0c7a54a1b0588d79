import BuildAnalysis.Host.Basic
import BuildAnalysis.Host.Edit

/-!
# Descriptions of hosts

A host is described by a JSON object. Its member `directory` is the current directory, `environment`
an object of variables, `files` an array of files and directories, and `processes` an array of the
child processes to come. What a description leaves out is empty.
-/

namespace BuildAnalysis.Host

/-- The text of a member; empty if there is none. -/
def textOf (description : Json) (name : String) : String :=
  ((description.find name).bind Json.string?).getD ""

/-- The items of a member; none if it is no array. -/
def itemsOf (description : Json) (name : String) : List Json :=
  match description.find name with
  | some (.array items) => items
  | _ => []

/-- The variables of a member. -/
def environmentOf (description : Json) (name : String) : Environment :=
  match description.find name with
  | some (.object members) => members.filterMap fun (n, v) => v.string?.map (n, ·)
  | _ => []

/-- The edit that is described: it writes a file if it has a text, else it makes a directory. -/
def editOf (description : Json) : Edit :=
  let path := textOf description "path"
  match (description.find "text").bind Json.string? with
  | some text =>
    .file path (Text.Utf8.encode text) ((description.find "executable").any Json.truthy)
  | none => .directory path

/-- The child process that is described: it makes `files`, and then it is refused with the text
`refusal`, or it prints `output` and exits with the code `exit`. -/
def childOf (place : Place) (description : Json) : Child where
  effect := FileTree.edit place ((itemsOf description "files").map editOf)
  outcome :=
    match (description.find "refusal").bind Json.string? with
    | some text => .notStarted (.other text)
    | none =>
      .exited (((description.find "exit").bind Json.integer?).getD 0)
        (Text.Utf8.encode (textOf description "output"))

/-- The host that is described, unless its files cannot stand beside each other. -/
def ofDescription (description : Json) : Except SystemError Host :=
  let directory := Path.absolute "/" (textOf description "directory")
  let place := Place.ofPath directory
  let edits := .directory directory :: (itemsOf description "files").map editOf
  match FileTree.empty.edit place edits with
  | (some e, _) => .error e
  | (none, files) =>
    if passable_directory : isPassable directory then
      .ok {
        files
        directory
        passable_directory
        environment := environmentOf description "environment"
        children := (itemsOf description "processes").map (childOf place)
        console := .ofCommand "" }
    else .error .invalidPath

end BuildAnalysis.Host
