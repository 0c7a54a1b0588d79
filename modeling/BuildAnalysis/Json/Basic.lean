import BuildAnalysis.Decimal.Binary64

/-!
# JSON values

A number without fraction and exponent is an integer of any size, every other one a binary64
number. The members of an object keep the order of the document.
-/

namespace BuildAnalysis

/-- A JSON value. -/
inductive Json where
  | null
  | bool (b : Bool)
  | integer (n : Int)
  | float (x : Binary64)
  | string (s : String)
  | array (items : List Json)
  | object (members : List (String × Json))
  deriving Inhabited

namespace Json

/-- The kinds of JSON values. -/
inductive Kind where
  | null
  | bool
  | integer
  | float
  | string
  | array
  | object
  deriving DecidableEq, Repr

/-- The kind of a value. -/
def kind : Json → Kind
  | .null => .null
  | .bool _ => .bool
  | .integer _ => .integer
  | .float _ => .float
  | .string _ => .string
  | .array _ => .array
  | .object _ => .object

/-- The word for a kind in messages. -/
def Kind.word : Kind → String
  | .null => "NoneType"
  | .bool => "bool"
  | .integer => "int"
  | .float => "float"
  | .string => "str"
  | .array => "list"
  | .object => "dict"

/-- Whether a value counts as true: it is not null, false, zero or empty. -/
def truthy : Json → Bool
  | .null => false
  | .bool b => b
  | .integer n => n != 0
  | .float x => !x.isZero
  | .string s => !s.isEmpty
  | .array items => !items.isEmpty
  | .object members => !members.isEmpty

/-- The text of a string value. -/
def string? : Json → Option String
  | .string s => some s
  | _ => none

/-- The integer of a value; the truth values count as one and zero. -/
def integer? : Json → Option Int
  | .integer n => some n
  | .bool b => some (if b then 1 else 0)
  | _ => none

/-- The member of a list of members with a given name. -/
def find? (members : List (String × Json)) (name : String) : Option Json :=
  (members.find? (·.1 == name)).map (·.2)

/-- Puts a member into a list of members: in place of the one with its name, or at the end. -/
def insert (members : List (String × Json)) (name : String) (value : Json) :
    List (String × Json) :=
  match members with
  | [] => [(name, value)]
  | (n, v) :: rest =>
    if n == name then (name, value) :: rest else (n, v) :: insert rest name value

theorem find?_insert (members : List (String × Json)) (name other : String) (value : Json) :
    find? (insert members name value) other =
      if name == other then some value else find? members other := by
  induction members with
  | nil => by_cases h : name = other <;> simp [insert, find?, h]
  | cons m rest ih =>
    obtain ⟨n, v⟩ := m
    by_cases hn : n = name
    · subst hn
      by_cases h : n = other <;> simp [insert, find?, h]
    · by_cases h : n = other
      · subst h
        simp [insert, find?, hn, Ne.symm hn]
      · simp only [find?] at ih
        simp [insert, find?, hn, h, ih]

end Json

end BuildAnalysis
