import BuildAnalysis.Host.SystemError
import BuildAnalysis.Json.Access
import BuildAnalysis.Json.Reader

/-!
# Failures

An *analysis error* is a failure that the project, the build directory or the tools cause; it is
reported by its message alone. All other failures come from replies whose values are used against
their kind, from the operating system, from a child process or from the user.
-/

namespace BuildAnalysis

/-- The groups that analysis errors fall into. -/
inductive ErrorKind where
  | general
  | configuration
  | protocolVersion
  | replyMissing
  | replyMalformed
  | toolchainUnresolved
  | externalTool
  | notLoaded
  deriving DecidableEq, Repr

/-- The reply files whose structure is checked. -/
inductive ReplyFile where
  | cache (path : String)
  | codemodel (path : String)
  | target (path : String)
  | toolchains
  deriving DecidableEq, Repr

/-- How a reply is called in a message. -/
def ReplyFile.text : ReplyFile → String
  | .cache path => "cache reply: " ++ path
  | .codemodel path => "codemodel reply: " ++ path
  | .target path => "target reply: " ++ path
  | .toolchains => "toolchains reply"

/-- A failure that is reported to the user by its message. -/
inductive AnalysisError where
  | alreadyLoaded
  | emptyBuildRoot
  | buildRootNotFound (path : String)
  | buildRootEmpty
  | queryNotWritten (cause : Host.SystemError)
  | resultsNotCreated (path : String) (cause : Host.SystemError)
  | rulesetNotFound (ruleset : String)
  | unsupportedVersion (version minimum : String)
  | replyFileMissing
  | replyFileNotFound (path : String)
  | replyDirectoryNotFound (path : String)
  | replyIndexNotFound (directory : String)
  | responseMissing (kind : String)
  | replyUnreadable (path : String) (cause : Json.ReadFault)
  | replyUnexpected (file : ReplyFile) (cause : Json.Fault)
  | versionMissing
  | unrecognizedVersion (text : String)
  | compilerPathMissing (language : String)
  | sourceOutOfRange (index : Json) (path : String)
  | compilerMissing
  | toolNotFound (name : String)
  | configureNotStarted (cause : Host.SystemError)
  | configureFailed (code : Int)
  | unknownLayout
  | engineNotFound (name : String)
  | notLoaded
  | nothingToAnalyze
  /-- A failure of no particular group, with the message that reports it. -/
  | reported (message : String)

namespace AnalysisError

/-- The group of an error. -/
def kind : AnalysisError → ErrorKind
  | .alreadyLoaded | .emptyBuildRoot | .buildRootNotFound _ | .buildRootEmpty
  | .queryNotWritten _ | .resultsNotCreated .. | .rulesetNotFound _ => .configuration
  | .unsupportedVersion .. => .protocolVersion
  | .replyFileMissing | .replyFileNotFound _ | .replyDirectoryNotFound _ | .replyIndexNotFound _
  | .responseMissing _ => .replyMissing
  | .replyUnreadable .. | .replyUnexpected .. | .versionMissing | .unrecognizedVersion _
  | .compilerPathMissing _ | .sourceOutOfRange .. => .replyMalformed
  | .compilerMissing => .toolchainUnresolved
  | .toolNotFound _ | .configureNotStarted _ | .configureFailed _ | .unknownLayout
  | .engineNotFound _ => .externalTool
  | .notLoaded => .notLoaded
  | .nothingToAnalyze | .reported _ => .general

/-- What caused an error, where its message ends with the wording of that. -/
inductive Cause where
  | system (error : Host.SystemError)
  | unreadable (fault : Json.ReadFault)
  | unexpected (fault : Json.Fault)

/-- The wording of a cause. -/
def Cause.text : Cause → String
  | .system error => error.text
  | .unreadable fault => fault.text
  | .unexpected fault => fault.text

/-- The cause of an error, if its message ends with one. -/
def cause? : AnalysisError → Option Cause
  | .queryNotWritten cause | .resultsNotCreated _ cause | .configureNotStarted cause =>
    some (.system cause)
  | .replyUnreadable _ cause => some (.unreadable cause)
  | .replyUnexpected _ cause => some (.unexpected cause)
  | _ => none

/-- The message of an error up to the wording of its cause. -/
def summary : AnalysisError → String
  | .alreadyLoaded => "CMake API replies are already loaded."
  | .emptyBuildRoot => "CMakeApi: 'build_root' can not be empty."
  | .buildRootNotFound path => "CMake build root not found at: " ++ path
  | .buildRootEmpty => "CMake build root must be non-empty as project should already be configured"
  | .queryNotWritten _ => "Failed to write query.json file for CMake API: "
  | .resultsNotCreated path _ => "Failed to create 'results' directory: " ++ path ++ ": "
  | .rulesetNotFound ruleset => "Unable to find ruleset specified: " ++ ruleset
  | .unsupportedVersion version minimum =>
    "CMake version " ++ version ++ " is not supported, requires CMake version >= " ++ minimum
  | .replyFileMissing => "Failed to find CMake API reply file."
  | .replyFileNotFound path => "Failed to find CMake API reply file: " ++ path
  | .replyDirectoryNotFound path => "Failed to find CMake API reply directory: " ++ path
  | .replyIndexNotFound directory => "Failed to find CMake API index reply file in: " ++ directory
  | .responseMissing kind => "Failed to load " ++ kind ++ " response from CMake API"
  | .replyUnreadable path _ => "Failed to parse CMake API reply file: " ++ path ++ ": "
  | .replyUnexpected file _ => "Unexpected CMake API " ++ file.text ++ ": "
  | .versionMissing => "CMake API index reply file has no version."
  | .unrecognizedVersion text => "Unrecognized CMake version string: '" ++ text ++ "'"
  | .compilerPathMissing language =>
    "MSVC " ++ language ++ " compiler has no path in CMake API toolchains reply"
  | .sourceOutOfRange index path =>
    "Source index " ++ index.display ++ " is out of range in target reply: " ++ path
  | .compilerMissing => "MSVC is required for either/both C or C++."
  | .toolNotFound name => name ++ " is not accessible on the PATH"
  | .configureNotStarted _ => "Unable to run CMake used previously to build cmake project: "
  | .configureFailed code =>
    "CMake failed to re-configure the project with exit code " ++ toString code
  | .unknownLayout => "Unknown MSVC toolset layout"
  | .engineNotFound name => "Unable to find " ++ name
  | .notLoaded => "CMakeApi: compile_commands called before API is loaded"
  | .nothingToAnalyze => "No C/C++ files were found in the project that could be analyzed."
  | .reported message => message

/-- The message of an error. -/
def message (error : AnalysisError) : String :=
  match error.cause? with
  | some cause => error.summary ++ cause.text
  | none => error.summary

end AnalysisError

/-- How a computation ends without an answer. -/
inductive Failure where
  /-- An error to report. -/
  | analysis (error : AnalysisError)
  /-- A value was used against its kind, outside of a checked reply. -/
  | fault (fault : Json.Fault)
  /-- A text is no number of the kind asked for, or no path at all. -/
  | badValue
  /-- Values or directories stand in each other, too many to be followed. -/
  | tooDeep
  /-- The loaded project has no source directory. -/
  | noSourceRoot
  /-- The operating system refused a request. -/
  | system (error : Host.SystemError)
  /-- A child process exited with a code other than zero. -/
  | exited (code : Int) (output : List String)
  /-- The user interrupted the command. -/
  | interrupted
  /-- The command line is refused with a message, or asks for help alone. -/
  | usage (message : Option String)

/-- The failure of a request to the operating system. What the system itself refuses is `onRefusal`;
a request that was never made fails for its own reason. -/
def Failure.ofSystem (onRefusal : Host.SystemError → Failure) : Host.SystemError → Failure
  | .invalidPath => .badValue
  | .tooDeep => .tooDeep
  | refusal => onRefusal refusal

end BuildAnalysis
