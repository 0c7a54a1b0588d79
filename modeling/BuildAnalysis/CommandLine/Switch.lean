/-!
# The switches of the command

A switch has one or two spellings. Those that take a value are given the rest of their word, or the
word after it.
-/

namespace BuildAnalysis.CommandLine

/-- The switches of the command. -/
inductive Switch where
  | help
  | verbose
  | buildDirectory
  | workspace
  | resultsDirectory
  | cleanSarif
  | ruleset
  | ignoreSystemHeaders
  | usePrecompiledHeaders
  | cmake
  deriving DecidableEq, Repr

namespace Switch

/-- All switches, in the order in which messages list them. -/
def all : List Switch :=
  [.help, .verbose, .buildDirectory, .workspace, .resultsDirectory, .cleanSarif, .ruleset,
    .ignoreSystemHeaders, .usePrecompiledHeaders, .cmake]

/-- How a switch may be spelled. -/
def spellings : Switch → List String
  | .help => ["-h", "--help"]
  | .verbose => ["--verbose", "-v"]
  | .buildDirectory => ["--build-dir", "-b"]
  | .workspace => ["--workspace"]
  | .resultsDirectory => ["--results-dir", "-o"]
  | .cleanSarif => ["--clean-sarif"]
  | .ruleset => ["--ruleset"]
  | .ignoreSystemHeaders => ["--ignore-system-headers"]
  | .usePrecompiledHeaders => ["--use-precompiled-headers"]
  | .cmake => ["--cmake"]

/-- Whether a switch takes a value. -/
def takesValue : Switch → Bool
  | .buildDirectory | .workspace | .resultsDirectory | .ruleset | .cmake => true
  | .help | .verbose | .cleanSarif | .ignoreSystemHeaders | .usePrecompiledHeaders => false

/-- The name of a switch in messages. -/
def name (switch : Switch) : String :=
  "/".intercalate switch.spellings

/-- All spellings with their switches. -/
def table : List (List Char × Switch) :=
  all.flatMap fun switch => switch.spellings.map fun s => (s.toList, switch)

/-- The switch with a spelling. -/
def ofSpelling? (spelling : List Char) : Option Switch :=
  (table.find? (·.1 == spelling)).map (·.2)

end Switch

/-- What a switch was given: its spelling, and the text attached to it. -/
structure Use where
  switch : Switch
  spelling : List Char
  attached : Option (List Char)
  deriving Repr

/-- What a word of the command line is. -/
inductive Word where
  | argument
  | use (use : Use)
  | unknown
  deriving Repr

namespace Word

/-- Whether a text is a negative number, so that it can be the value of a switch. -/
def isNegativeNumber (digit : Char → Bool) (cs : List Char) : Bool :=
  match cs with
  | '-' :: rest =>
    let rest := if rest.getLast? == some '\n' then rest.dropLast else rest
    match rest.dropWhile digit with
    | [] => !rest.isEmpty
    | '.' :: fraction => !fraction.isEmpty && fraction.all digit
    | _ => false
  | _ => false

/-- The uses that a word may be short for. A word with two dashes may be cut after any character,
one with a single dash is a switch of one letter with its value. -/
def abbreviations (cs : List Char) : List Use :=
  match cs with
  | '-' :: '-' :: _ =>
    let start := cs.takeWhile (· != '=')
    let attached := (cs.dropWhile (· != '=')).tail?
    Switch.table.filterMap fun (spelling, switch) =>
      if start.isPrefixOf spelling then some ⟨switch, spelling, attached⟩ else none
  | _ =>
    Switch.table.filterMap fun (spelling, switch) =>
      if spelling == cs.take 2 then some ⟨switch, spelling, some (cs.drop 2)⟩ else none

/-- What a word is, or the spellings that it may equally be short for. Words that could be negative
numbers, or that hold a space, are arguments unless they are switches. -/
def classify (digit : Char → Bool) (cs : List Char) : Except (List (List Char)) Word :=
  if cs.head? != some '-' then .ok .argument
  else
    match Switch.ofSpelling? cs with
    | some switch => .ok (.use ⟨switch, cs, none⟩)
    | none =>
      if cs.length == 1 then .ok .argument
      else
        let start := cs.takeWhile (· != '=')
        match (cs.dropWhile (· != '=')).tail?, Switch.ofSpelling? start with
        | some attached, some switch => .ok (.use ⟨switch, start, some attached⟩)
        | _, _ =>
          match abbreviations cs with
          | [single] => .ok (.use single)
          | [] =>
            if isNegativeNumber digit cs || cs.contains ' ' then .ok .argument else .ok .unknown
          | uses => .error (uses.map (·.spelling))

end Word

end BuildAnalysis.CommandLine
