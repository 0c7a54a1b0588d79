import BuildAnalysis.CommandLine.Switch
import BuildAnalysis.Text.Digit
import BuildAnalysis.Text.Literal

/-!
# Reading the switches

The words of the command line are classified first, so that an ambiguous word is refused wherever it
stands. Then switches are taken in their order. Switches of one letter may share a word, up to one
that takes the rest of it as its value. What belongs to no switch is refused at the end.
-/

namespace BuildAnalysis.CommandLine

/-- Why a command line is refused. -/
inductive Refusal where
  | help
  | ambiguous (word : String) (spellings : List String)
  | ignoredArgument (switch : Switch) (argument : String)
  | missingArgument (switch : Switch)
  | missingSwitches (switches : List Switch)
  | unrecognized (words : List String)
  | emptyPath (name : String)
  | buildDirectoryNotFound
  deriving Repr

/-- The message of a refusal; help is no message. -/
def Refusal.message? : Refusal → Option String
  | .help => none
  | .ambiguous word spellings =>
    some ("ambiguous option: " ++ word ++ " could match " ++ ", ".intercalate spellings)
  | .ignoredArgument switch argument =>
    some ("argument " ++ switch.name ++ ": ignored explicit argument " ++ Text.literal argument)
  | .missingArgument switch => some ("argument " ++ switch.name ++ ": expected one argument")
  | .missingSwitches switches =>
    some ("the following arguments are required: " ++ ", ".intercalate (switches.map (·.name)))
  | .unrecognized words => some ("unrecognized arguments: " ++ " ".intercalate words)
  | .emptyPath name => some (name ++ " input path can not be empty.")
  | .buildDirectoryNotFound =>
    some "CMake build directory does not exist. Ensure CMake is already configured."

/-- What a switch that takes a value was given. -/
inductive Value where
  | absent
  /-- Two dashes that are attached to the switch; they are no text. -/
  | separator
  | text (s : String)
  deriving DecidableEq, Repr

namespace Value

/-- The text of a value. -/
def text? : Value → Option String
  | .text s => some s
  | .absent | .separator => none

/-- The value that is attached to a switch. -/
def ofAttached (cs : List Char) : Value :=
  if cs == ['-', '-'] then .separator else .text (String.ofList cs)

end Value

/-- What the switches were given. -/
structure Values where
  verbosity : Nat := 0
  buildDirectory : Value := .absent
  workspace : Value := .absent
  resultsDirectory : Value := .absent
  cleanSarif : Bool := false
  ruleset : Value := .absent
  ignoreSystemHeaders : Bool := false
  usePrecompiledHeaders : Bool := false
  cmake : Value := .absent
  deriving DecidableEq, Repr

namespace Values

/-- Takes a switch with its value. -/
def take (values : Values) (switch : Switch) (value : Value) : Except Refusal Values :=
  match switch with
  | .help => .error .help
  | .verbose => .ok { values with verbosity := values.verbosity + 1 }
  | .buildDirectory => .ok { values with buildDirectory := value }
  | .workspace => .ok { values with workspace := value }
  | .resultsDirectory => .ok { values with resultsDirectory := value }
  | .cleanSarif => .ok { values with cleanSarif := true }
  | .ruleset => .ok { values with ruleset := value }
  | .ignoreSystemHeaders => .ok { values with ignoreSystemHeaders := true }
  | .usePrecompiledHeaders => .ok { values with usePrecompiledHeaders := true }
  | .cmake => .ok { values with cmake := value }

/-- The switches that have to be given and were not. -/
def missing (values : Values) : List Switch :=
  (if values.buildDirectory == .absent then [.buildDirectory] else []) ++
    (if values.resultsDirectory == .absent then [.resultsDirectory] else [])

end Values

/-- The switches that share a word, each with its value, which is absent if the switch takes none.
There is `none` where the next word has to give the value. -/
abbrev Cluster := List (Switch × Option Value)

/-- The switches that share the word in which `switch` has the text `attached` behind it. Only a
switch of one letter shares its word. -/
def clusterOf (switch : Switch) (short : Bool) : List Char → Except Refusal Cluster
  | [] =>
    if switch.takesValue then .ok [(switch, some (.text ""))]
    else .error (.ignoredArgument switch "")
  | c :: rest =>
    if switch.takesValue then .ok [(switch, some (.ofAttached (c :: rest)))]
    else if !short then .error (.ignoredArgument switch (String.ofList (c :: rest)))
    else
      match Switch.ofSpelling? ['-', c] with
      | none => .error (.ignoredArgument switch (String.ofList (c :: rest)))
      | some next =>
        if rest.isEmpty then
          .ok [(switch, some .absent), (next, if next.takesValue then none else some .absent)]
        else (clusterOf next true rest).map ((switch, some .absent) :: ·)

/-- The switches that share the word of a use. -/
def Use.cluster (use : Use) : Except Refusal Cluster :=
  match use.attached with
  | none => .ok [(use.switch, if use.switch.takesValue then none else some .absent)]
  | some attached => clusterOf use.switch (use.spelling.drop 1 |>.head? |>.any (· != '-')) attached

/-- Words of the command line with what they are. From two dashes on all are arguments. -/
def classifyAll : List String → Except Refusal (List (String × Word))
  | [] => .ok []
  | word :: rest =>
    if word == "--" then .ok ((word, .unknown) :: rest.map (·, .argument))
    else
      match Word.classify Text.isDecimal word.toList with
      | .error spellings => .error (.ambiguous word (spellings.map String.ofList))
      | .ok kind => (classifyAll rest).map ((word, kind) :: ·)

/-- Whether a cluster waits for the value that the next word has to give. -/
def Cluster.waits (cluster : Cluster) : Bool :=
  cluster.any (·.2.isNone)

/-- Takes the switches of a cluster in their order, the value of the last one from the next word if
the cluster waits for it. -/
def Values.takeCluster (values : Values) (cluster : Cluster) (next : Option Value) :
    Except Refusal Values := do
  let taken ← cluster.mapM fun (switch, value) =>
    match value.or next with
    | some value => .ok (switch, value)
    | none => .error (.missingArgument switch)
  taken.foldlM (fun values (switch, value) => values.take switch value) values

/-- Takes the switches of words in their order, after a cluster that waits for a value. The words
that belong to no switch are collected. -/
def takeAll (values : Values) (extras : List String) (waiting : Option Cluster) :
    List (String × Word) → Except Refusal (Values × List String)
  | [] =>
    match waiting with
    | none => .ok (values, extras)
    | some cluster => do return (← values.takeCluster cluster none, extras)
  | (word, kind) :: rest =>
    match waiting, kind with
    | some cluster, .argument => do
      takeAll (← values.takeCluster cluster (some (.text word))) extras none rest
    | some cluster, _ => do takeAll (← values.takeCluster cluster none) extras none rest
    | none, .use found => do
      let cluster ← found.cluster
      if cluster.waits then takeAll values extras (some cluster) rest
      else takeAll (← values.takeCluster cluster none) extras none rest
    | none, _ => takeAll values (extras ++ [word]) none rest

/-- What the switches of a command line were given. -/
def parse (words : List String) : Except Refusal Values := do
  let (values, extras) ← takeAll {} [] none (← classifyAll words)
  if !values.missing.isEmpty then throw (.missingSwitches values.missing)
  if !extras.isEmpty then throw (.unrecognized extras)
  return values

end BuildAnalysis.CommandLine
