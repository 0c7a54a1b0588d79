import BuildAnalysis.Text.Split

/-!
# Paths

A path is a text whose names stand between slashes; a backslash is a character like any other. Two
slashes at the beginning are kept apart from one, three and more count as one.
-/

namespace BuildAnalysis.Path

/-- The names of a path, with empty ones where slashes meet. -/
def names (p : String) : List String :=
  (Text.split '/' p.toList).map String.ofList

/-- Names with a slash between each two. -/
def ofNames (names : List String) : String :=
  String.ofList (Text.unsplit '/' (names.map String.toList))

/-- Whether a path begins at the root. -/
def isAbsolute (p : String) : Bool :=
  p.toList.head? == some '/'

/-- A path taken relative to another one. -/
def join (base p : String) : String :=
  if isAbsolute p then p
  else if base.isEmpty || base.toList.getLast? == some '/' then base ++ p
  else base ++ "/" ++ p

/-- The last name of a path; empty if the path ends in a slash. -/
def basename (p : String) : String :=
  (names p).getLastD ""

/-- The path up to its last slash, without slashes at its end unless there are only slashes. -/
def dirname (p : String) : String :=
  let head := (p.toList.reverse.dropWhile (· != '/')).reverse
  if head.all (· == '/') then String.ofList head
  else String.ofList (head.reverse.dropWhile (· == '/')).reverse

/-- The slashes that a path begins with, as far as they tell paths apart. -/
def root (p : String) : String :=
  match p.toList.takeWhile (· == '/') with
  | [] => ""
  | [_, _] => "//"
  | _ => "/"

/-- Appends a name to the names `kept`, last first. Empty names and `.` change nothing, and `..`
takes back the name before it; without one it stays in a relative path only. -/
def push (absolute : Bool) (kept : List String) (name : String) : List String :=
  if name == "" || name == "." then kept
  else if name == ".." then
    match kept with
    | [] => if absolute then [] else [".."]
    | top :: below => if top == ".." then ".." :: kept else below
  else name :: kept

/-- The names of a path that remain in its normal form. -/
def normalNames (p : String) : List String :=
  ((names p).foldl (push (isAbsolute p)) []).reverse

/-- The normal form of a path, found without looking at any file. -/
def normalize (p : String) : String :=
  let text := root p ++ ofNames (normalNames p)
  if text.isEmpty then "." else text

/-- The path of `p` when relative paths begin at `directory`, in normal form. -/
def absolute (directory p : String) : String :=
  normalize (join directory p)

/-- A path given by the user, taken relative to the workspace; `none` if it was not given. -/
def resolve? (p : Option String) (workspace : String) : Option String :=
  match p with
  | none => none
  | some p => if p.isEmpty then none else some (normalize (join workspace p))

/-- The ending of a path from the last dot of its last name on. Dots that the name begins with
begin no ending. -/
def extension (p : String) : String :=
  let name := (basename p).toList.dropWhile (· == '.')
  if name.contains '.' then
    String.ofList ('.' :: (name.reverse.takeWhile (· != '.')).reverse)
  else ""

end BuildAnalysis.Path
