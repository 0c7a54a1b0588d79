import BuildAnalysis.Text.Literal

/-!
# Errors of the operating system
-/

namespace BuildAnalysis.Host

/-- Why the operating system refused a request. -/
inductive SystemError where
  | notFound (path : String)
  | alreadyExists (path : String)
  | notDirectory (path : String)
  | isDirectory (path : String)
  | nameTooLong (path : String)
  /-- The path holds a character that no path may hold; the request was never made. -/
  | invalidPath
  /-- Too many directories had to be made one in the other; the request was never made. -/
  | tooDeep
  /-- A refusal that is known by its text alone. -/
  | other (text : String)
  deriving DecidableEq, Repr

namespace SystemError

/-- The number of an error, and the text and the path that go with it. -/
def details? : SystemError → Option (Nat × String × String)
  | .notFound path => some (2, "No such file or directory", path)
  | .alreadyExists path => some (17, "File exists", path)
  | .notDirectory path => some (20, "Not a directory", path)
  | .isDirectory path => some (21, "Is a directory", path)
  | .nameTooLong path => some (36, "File name too long", path)
  | .invalidPath | .tooDeep | .other _ => none

/-- The word for the class of an error. -/
def word : SystemError → String
  | .notFound _ => "FileNotFoundError"
  | .alreadyExists _ => "FileExistsError"
  | .notDirectory _ => "NotADirectoryError"
  | .isDirectory _ => "IsADirectoryError"
  | .nameTooLong _ | .invalidPath | .tooDeep | .other _ => "OSError"

/-- The wording of an error. -/
def text (error : SystemError) : String :=
  match error.details?, error with
  | some (number, what, path), _ => s!"[Errno {number}] {what}: " ++ Text.literal path
  | none, .other text => text
  | none, .tooDeep => "too many directories in each other"
  | none, _ => "embedded null byte"

end SystemError

end BuildAnalysis.Host
