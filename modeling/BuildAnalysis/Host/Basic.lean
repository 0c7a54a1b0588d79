import BuildAnalysis.Error
import BuildAnalysis.Host.Console
import BuildAnalysis.Host.FileTree
import BuildAnalysis.Text.Lines
import BuildAnalysis.Text.Split
import BuildAnalysis.Text.Utf8

/-!
# The host

A host is what a command runs on: files, an environment, a console, and child processes. What a
child process does is given beforehand; the processes that were started are kept in order. An action
may change the host and may fail, and what it has changed stays changed when it fails. The host is a
POSIX system: names stand between slashes in paths, and a child process is handed its words one by
one.
-/

namespace BuildAnalysis.Host

/-- Variables and their values. -/
abbrev Environment := List (String × String)

/-- The value of a variable. -/
def Environment.get? (environment : Environment) (name : String) : Option String :=
  (environment.find? (·.1 == name)).map (·.2)

/-- An environment in which a variable has a value. -/
def Environment.set (environment : Environment) (name value : String) : Environment :=
  environment.filter (·.1 != name) ++ [(name, value)]

/-- Whether a text can be handed to the system, for which the null character ends it. -/
def isPassable (text : String) : Bool :=
  !text.toList.contains '\x00'

/-- What is asked to run: a program with its arguments, or a command line as a whole. -/
inductive Command where
  | words (words : List String)
  | line (line : String)
  deriving DecidableEq, Repr

/-- The texts of a command. -/
def Command.texts : Command → List String
  | .words list => list
  | .line text => [text]

/-- A child process that was started. Without an environment it inherits that of the host. -/
structure Invocation where
  command : Command
  directory : String
  environment : Option Environment
  deriving Repr

/-- The texts that the system is handed to start a child process. -/
def Invocation.texts (invocation : Invocation) : List String :=
  invocation.command.texts ++ invocation.directory ::
    (invocation.environment.getD []).flatMap fun (name, value) => [name, value]

/-- Whether the system can be asked to start a child process. -/
def Invocation.isPassable (invocation : Invocation) : Bool :=
  invocation.texts.all Host.isPassable

/-- How a child process ends. -/
inductive Outcome where
  | notStarted (error : SystemError)
  | exited (code : Int) (output : List UInt8)
  deriving Repr

/-- A child process to come: what it does to the files, and how it ends if the system lets it. -/
structure Child where
  effect : FileTree → Option SystemError × FileTree := (none, ·)
  outcome : Outcome := .exited 0 []

end Host

/-- What a command runs on. -/
structure Host where
  files : Host.FileTree
  /-- The current directory, a path in normal form. -/
  directory : String
  /-- The system has told the current directory, so that it can be handed back. -/
  passable_directory : Host.isPassable directory = true := by exact (rfl : true = true)
  environment : Host.Environment
  /-- The child processes to come; beyond them every one exits at once. -/
  children : List Host.Child
  /-- The child processes that were started. -/
  started : List Host.Invocation := []
  console : Host.Console
  /-- The most arrays and objects that may stand in each other in a file that is read. It depends on
  how deep the calls are from which the file is read. -/
  maxDepth : Nat := Json.maxDepth

/-- A computation on a host, which may fail. -/
abbrev Action := ExceptT Failure (StateM Host)

namespace Host

/-- The place of the current directory. -/
def place (host : Host) : Place :=
  Place.ofPath host.directory

/-- Whether a path leads to a file or a directory. -/
def pathExists (host : Host) (path : String) : Bool :=
  host.files.pathExists host.place path

/-- Whether a path leads to a file. -/
def isFile (host : Host) (path : String) : Bool :=
  host.files.isFile host.place path

/-- Whether a path leads to a directory. -/
def isDirectory (host : Host) (path : String) : Bool :=
  host.files.isDirectory host.place path

/-- The names in a directory. -/
def list (host : Host) (path : String) : List String :=
  host.files.list host.place path

/-- A path in normal form that begins at the root. -/
def absolute (host : Host) (path : String) : String :=
  Path.absolute host.directory path

/-- The directories in which programs are looked for when the environment does not tell. -/
def defaultPath : String := "/bin:/usr/bin"

/-- Directories in which programs are looked for, in their order; none if their list is empty. -/
def searchPath (host : Host) : List String :=
  let text := (host.environment.get? "PATH").getD defaultPath
  if text.isEmpty then [] else (Text.split ':' text.toList).map String.ofList

/-- The path of a program: a name with a directory stands for itself, and any other one is looked
for in the directories of the search path. -/
def which (host : Host) (program : String) : Option String :=
  let runs := host.files.isExecutable host.place
  if !(Path.dirname program).isEmpty then if runs program then some program else none
  else (host.searchPath.map (Path.join · program)).find? runs

/-- The host after a child process was started, and how that process ends. -/
def start (host : Host) (invocation : Invocation) : Outcome × Host :=
  let host := { host with started := host.started ++ [invocation] }
  match host.children with
  | [] => (.exited 0 [], host)
  | child :: rest =>
    let (refusal, files) := child.effect host.files
    let outcome :=
      match refusal with
      | some e => .notStarted e
      | none => child.outcome
    (outcome, { host with files, children := rest })

/-- The host after a child process was asked for, and how that process ends. It is not started if one
of its texts cannot be handed to the system. -/
def request (host : Host) (invocation : Invocation) : Outcome × Host :=
  if invocation.isPassable then host.start invocation else (.notStarted .invalidPath, host)

end Host

namespace Action

/-- The answer to a question about the host. -/
def ask {α : Type} (question : Host → α) : Action α :=
  question <$> get

/-- An answer that may be a failure. -/
def ofExcept {α : Type} (answer : Except Failure α) : Action α :=
  match answer with
  | .ok a => pure a
  | .error failure => throw failure

/-- Fails with an error to report. -/
def report {α : Type} (error : AnalysisError) : Action α :=
  throw (.analysis error)

/-- Prints a message from `origin`. -/
def log (level : Host.Level) (origin message : String) : Action Unit :=
  modify fun host => { host with console := host.console.log level origin message }

/-- Changes the files as far as the system allows, and fails with an error that its refusal
causes. -/
def change (onRefusal : Host.SystemError → AnalysisError)
    (edit : Host → Option Host.SystemError × Host.FileTree) : Action Unit := do
  let host ← get
  let (refusal, files) := edit host
  set { host with files }
  match refusal with
  | none => return
  | some e => throw (.ofSystem (fun e => .analysis (onRefusal e)) e)

/-- Runs a child process to its end, in a directory that is the current one if none is given. The
answer is what it printed, line by line. -/
def execute (command : Host.Command) (directory : Option String)
    (environment : Option Host.Environment) : Action (List String) := do
  let host ← get
  let directory := host.absolute (directory.getD "")
  let (outcome, host) := host.request ⟨command, directory, environment⟩
  set host
  match outcome with
  | .notStarted e => throw (.ofSystem .system e)
  | .exited code output =>
    let lines := Text.lines (String.ofList (Text.Utf8.decodeLenient output))
    if code == 0 then return lines else throw (.exited code lines)

end Action

end BuildAnalysis
