import BuildAnalysis.Decimal.Shortest
import BuildAnalysis.Json.Basic
import BuildAnalysis.Text.Literal

/-!
# Writing values

A value is written in one of two forms: as a JSON document of ASCII characters, or as it appears in
a message. The forms differ in their words, in their strings and in what a string alone looks like.
-/

namespace BuildAnalysis.Json

/-- How the words, numbers and strings of a form are written. -/
structure Form where
  null : String
  bool : Bool → String
  float : Binary64 → String
  string : String → String

mutual

/-- A value in a form. -/
def write (form : Form) : Json → String
  | .null => form.null
  | .bool b => form.bool b
  | .integer n => toString n
  | .float x => form.float x
  | .string s => form.string s
  | .array items => "[" ++ writeItems form items ++ "]"
  | .object members => "\x7b" ++ writeMembers form members ++ "\x7d"

/-- The items of an array, between commas. -/
def writeItems (form : Form) : List Json → String
  | [] => ""
  | [item] => write form item
  | item :: rest => write form item ++ ", " ++ writeItems form rest

/-- The members of an object, between commas. -/
def writeMembers (form : Form) : List (String × Json) → String
  | [] => ""
  | [(name, value)] => form.string name ++ ": " ++ write form value
  | (name, value) :: rest =>
    form.string name ++ ": " ++ write form value ++ ", " ++ writeMembers form rest

end

/-! ## Documents -/

/-- The escape of a unit of sixteen bits. -/
def unitEscape (unit : Nat) : List Char :=
  '\\' :: 'u' :: Text.hexDigits 4 unit

/-- A character of a string in a document. -/
def documentChar (c : Char) : List Char :=
  if c == '"' || c == '\\' then ['\\', c]
  else if c == '\n' then ['\\', 'n']
  else if c == '\r' then ['\\', 'r']
  else if c == '\t' then ['\\', 't']
  else if c == '\x08' then ['\\', 'b']
  else if c == '\x0c' then ['\\', 'f']
  else if 0x20 ≤ c.toNat && c.toNat < 0x7F then [c]
  else if c.toNat < 0x10000 then unitEscape c.toNat
  else
    let n := c.toNat - 0x10000
    unitEscape (0xD800 + n / 0x400) ++ unitEscape (0xDC00 + n % 0x400)

/-- A string of a document. -/
def documentString (s : String) : String :=
  String.ofList ('"' :: s.toList.flatMap documentChar ++ ['"'])

/-- A binary64 number of a document. -/
def documentFloat : Binary64 → String
  | .nan => "NaN"
  | .infinity negative => if negative then "-Infinity" else "Infinity"
  | x => x.text

/-- Documents have the words of JSON, and escape every character beyond the ASCII ones. -/
def Form.document : Form where
  null := "null"
  bool b := if b then "true" else "false"
  float := documentFloat
  string := documentString

/-- A value as a JSON document. -/
def document (value : Json) : String :=
  write .document value

/-! ## Messages -/

/-- Messages have words of their own, and strings are literals. -/
def Form.message : Form where
  null := "None"
  bool b := if b then "True" else "False"
  float := Binary64.text
  string := Text.literal

/-- A value as a literal of a message. -/
def literal (value : Json) : String :=
  write .message value

/-- A value in a message: a string stands there as it is, every other value as a literal. -/
def display : Json → String
  | .string s => s
  | value => literal value

end BuildAnalysis.Json
