/-!
# Log messages

A message is printed when its level reaches the threshold of the console, and with the parts that
the layout of the console asks for before it.
-/

namespace BuildAnalysis.Host

/-- How urgent a message is. -/
inductive Level where
  | info
  | warning
  | error
  deriving DecidableEq, Repr

namespace Level

/-- The rank of a level among the thresholds. -/
def rank : Level → Int
  | .info => 20
  | .warning => 30
  | .error => 40

/-- The word for a level. -/
def word : Level → String
  | .info => "INFO"
  | .warning => "WARNING"
  | .error => "ERROR"

end Level

/-- The parts that stand before a message. -/
structure Layout where
  showName : Bool
  showLevel : Bool
  showOrigin : Bool
  deriving DecidableEq, Repr

/-- A console: what it prints, how, and what it has printed. -/
structure Console where
  name : String
  threshold : Int
  layout : Layout
  printed : List String := []
  deriving Repr

namespace Console

/-- The threshold below which there are only messages for the search of faults. -/
def debugRank : Int := 10

/-- Whether messages of a level are printed. -/
def shows (console : Console) (level : Level) : Bool :=
  console.threshold ≤ level.rank

/-- A message as it is printed. -/
def render (console : Console) (level : Level) (origin message : String) : String :=
  (if console.layout.showName then console.name ++ ": " else "") ++
    (if console.layout.showLevel then level.word ++ ": " else "") ++
    (if console.layout.showOrigin then origin ++ ": " else "") ++ message

/-- Prints a text. -/
def print (console : Console) (text : String) : Console :=
  { console with printed := console.printed ++ [text] }

/-- Prints a message from `origin` if its level is shown. -/
def log (console : Console) (level : Level) (origin message : String) : Console :=
  if console.shows level then console.print (console.render level origin message) else console

/-- The console of a command: messages from warnings on, after the name of the command. -/
def ofCommand (name : String) : Console where
  name := name
  threshold := Level.warning.rank
  layout := ⟨true, false, false⟩

/-- Sets how much is printed. Each step of verbosity shows one more level, and from the fourth on
the origin of a message is shown too; without verbosity the console stays as it is. -/
def setVerbosity (console : Console) (verbosity : Int) : Console :=
  if verbosity == 0 then console
  else
    { console with
      threshold := max debugRank (Level.warning.rank - 10 * verbosity)
      layout := ⟨true, true, 3 < verbosity⟩ }

end Console

end BuildAnalysis.Host
