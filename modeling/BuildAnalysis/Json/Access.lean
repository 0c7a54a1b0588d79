import BuildAnalysis.Json.Writer

/-!
# Access to values

A reply is read by asking its values for members and items. A value that is not of the kind that a
question needs answers with a fault, which tells the kinds of faults apart: a missing member, an
index out of range, a value of the wrong kind, and a value that has no members at all.
-/

namespace BuildAnalysis.Json

/-- Why a question to a value has no answer. -/
inductive Fault where
  /-- An object has no member with the name. -/
  | noMember (name : String)
  /-- An object was asked for the item at an index. -/
  | noIndex (index : Nat)
  /-- An array or a string is too short. -/
  | outOfRange (kind : Kind)
  /-- A value that is no object was asked for a member that may be absent. -/
  | noLookup (kind : Kind)
  /-- An array or a string was asked for a member. -/
  | indexKind (kind : Kind)
  /-- A value without members and items was asked for one. -/
  | noSubscript (kind : Kind)
  /-- A value without items was asked for all of them. -/
  | noItems (kind : Kind)
  /-- An array or an object was used as a key. -/
  | noKey (kind : Kind)
  /-- A value that is no string was used as a path. -/
  | noPath (kind : Kind)
  /-- A value that is no string was used as an argument. -/
  | noArgument (position : Nat) (kind : Kind)
  deriving DecidableEq, Repr

/-- The word for the class of a fault. -/
def Fault.word : Fault → String
  | .noMember _ | .noIndex _ => "KeyError"
  | .outOfRange _ => "IndexError"
  | .noLookup _ => "AttributeError"
  | _ => "TypeError"

/-- What a fault tells, as it stands after the word for its class. -/
def Fault.detail : Fault → String
  | .noMember name => Text.literal name
  | .noIndex index => toString index
  | .outOfRange .string => Text.literal "string index out of range"
  | .outOfRange _ => Text.literal "list index out of range"
  | .noLookup kind => Text.literal ("'" ++ kind.word ++ "' object has no attribute 'get'")
  | .indexKind .string => Text.literal "string indices must be integers, not 'str'"
  | .indexKind _ => Text.literal "list indices must be integers or slices, not str"
  | .noSubscript kind => Text.literal ("'" ++ kind.word ++ "' object is not subscriptable")
  | .noItems kind => Text.literal ("'" ++ kind.word ++ "' object is not iterable")
  | .noKey kind => Text.literal ("unhashable type: '" ++ kind.word ++ "'")
  | .noPath kind =>
    Text.literal ("join() argument must be str, bytes, or os.PathLike object, not '" ++
      kind.word ++ "'")
  | .noArgument position kind =>
    Text.literal (s!"sequence item {position}: expected str instance, " ++ kind.word ++ " found")

/-- A fault with the word for its class and what it tells. -/
def Fault.text (fault : Fault) : String :=
  fault.word ++ "(" ++ fault.detail ++ ")"

/-- The member with a name, which has to be there. -/
def member (value : Json) (name : String) : Except Fault Json :=
  match value with
  | .object members =>
    match find? members name with
    | some v => .ok v
    | none => .error (.noMember name)
  | .array _ | .string _ => .error (.indexKind value.kind)
  | _ => .error (.noSubscript value.kind)

/-- The member with a name, if it is there. -/
def member? (value : Json) (name : String) : Except Fault (Option Json) :=
  match value with
  | .object members => .ok (find? members name)
  | _ => .error (.noLookup value.kind)

/-- The member with a name, or a given value if it is absent. -/
def memberD (value : Json) (name : String) (absent : Json) : Except Fault Json :=
  (value.member? name).map (·.getD absent)

/-- The items of a value: those of an array, the characters of a string, the names of an object. -/
def items (value : Json) : Except Fault (List Json) :=
  match value with
  | .array items => .ok items
  | .string s => .ok (s.toList.map fun c => .string c.toString)
  | .object members => .ok (members.map fun m => .string m.1)
  | _ => .error (.noItems value.kind)

/-- The first item of an array, or the first character of a string. -/
def first (value : Json) : Except Fault Json :=
  match value with
  | .array (item :: _) => .ok item
  | .array [] => .error (.outOfRange .array)
  | .string s =>
    match s.toList with
    | c :: _ => .ok (.string c.toString)
    | [] => .error (.outOfRange .string)
  | .object _ => .error (.noIndex 0)
  | _ => .error (.noSubscript value.kind)

/-- The member with a name of a value that may be anything. -/
def find (value : Json) (name : String) : Option Json :=
  match value with
  | .object members => find? members name
  | _ => none

/-- A value as a path. -/
def path (value : Json) : Except Fault String :=
  match value with
  | .string s => .ok s
  | _ => .error (.noPath value.kind)

/-- A value as a key; arrays and objects are none. -/
def key (value : Json) : Except Fault Json :=
  match value with
  | .array _ | .object _ => .error (.noKey value.kind)
  | _ => .ok value

/-- What tells keys apart. -/
inductive Key where
  | null
  | text (s : String)
  | number (value : Rat)
  /-- A number that is equal to none of the others: an infinity or a NaN. -/
  | special (x : Binary64)
  deriving DecidableEq

/-- What a value is as a key: numbers and truth values are compared as numbers, and every NaN is the
same key. -/
def key? : Json → Option Key
  | .null => some .null
  | .string s => some (.text s)
  | .bool b => some (.number (if b then 1 else 0))
  | .integer n => some (.number n)
  | .float x => some (x.value?.elim (.special x) .number)
  | .array _ | .object _ => none

/-- Whether two values are the same key. -/
def sameKey (k l : Json) : Bool :=
  k.key?.isSome && k.key? == l.key?

end BuildAnalysis.Json
