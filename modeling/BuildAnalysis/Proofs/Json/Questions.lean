import BuildAnalysis.Json.Access
import BuildAnalysis.Proofs.Answers

/-!
# Questions to values

A question to a value has an answer exactly if the value is of the right kind; what the answer is can
then be found in the value. Being the same key is an equivalence on the values that are keys.
-/

namespace BuildAnalysis.Json

variable {value : Json} {name s : String}

/-! ## Members -/

/-- A member can be asked for exactly if it is found. -/
theorem member_eq_ok {v : Json} : value.member name = .ok v ↔ value.find name = some v := by
  cases value with
  | object members =>
    simp only [member, find]
    cases find? members name with
    | none => simp
    | some w => simp
  | null => simp [member, find]
  | bool b => simp [member, find]
  | integer n => simp [member, find]
  | float x => simp [member, find]
  | string t => simp [member, find]
  | array items => simp [member, find]

/-- A member that may be absent can be asked of objects alone. -/
theorem member?_eq_ok {found : Option Json} :
    value.member? name = .ok found ↔ value.kind = .object ∧ value.find name = found := by
  cases value with
  | object members => simp [member?, find, kind]
  | null => simp [member?, kind]
  | bool b => simp [member?, kind]
  | integer n => simp [member?, kind]
  | float x => simp [member?, kind]
  | string t => simp [member?, kind]
  | array items => simp [member?, kind]

theorem memberD_eq_ok {absent v : Json} :
    value.memberD name absent = .ok v ↔
      value.kind = .object ∧ (value.find name).getD absent = v := by
  rw [memberD, map_eq_ok]
  simp only [member?_eq_ok]
  constructor
  · rintro ⟨_, ⟨hkind, rfl⟩, h⟩
    exact ⟨hkind, h⟩
  · rintro ⟨hkind, h⟩
    exact ⟨_, ⟨hkind, rfl⟩, h⟩

theorem path_eq_ok : value.path = .ok s ↔ value = .string s := by
  cases value with
  | string t => simp [path]
  | null => simp [path]
  | bool b => simp [path]
  | integer n => simp [path]
  | float x => simp [path]
  | array items => simp [path]
  | object members => simp [path]

/-- Only arrays have a first item that is an object; the first of a string is a string. -/
theorem array_of_first {item : Json} (h : value.first = .ok item) (hitem : item.kind = .object) :
    ∃ others, value = .array (item :: others) := by
  cases value with
  | array items =>
    cases items with
    | nil => cases h
    | cons first rest =>
      cases h
      exact ⟨rest, rfl⟩
  | string s =>
    rw [first] at h
    split at h
    · cases h
      cases hitem
    · cases h
  | null => cases h
  | bool b => cases h
  | integer n => cases h
  | float x => cases h
  | object members => cases h

/-- The items of a value can be asked for exactly if it is an array, a string or an object. -/
theorem exists_items_eq_ok :
    (∃ items, value.items = .ok items) ↔
      value.kind = .array ∨ value.kind = .string ∨ value.kind = .object := by
  cases value with
  | array list => simp [items, kind]
  | string t => simp [items, kind]
  | object members => simp [items, kind]
  | null => simp [items, kind]
  | bool b => simp [items, kind]
  | integer n => simp [items, kind]
  | float x => simp [items, kind]

/-! ## Keys -/

theorem key_eq_ok {k : Json} : value.key = .ok k ↔ value.key?.isSome = true ∧ value = k := by
  cases value with
  | null => simp [key, key?]
  | bool b => simp [key, key?]
  | integer n => simp [key, key?]
  | float x => simp [key, key?]
  | string t => simp [key, key?]
  | array items => simp [key, key?]
  | object members => simp [key, key?]

/-- Two values are the same key when there is one key that both of them are. -/
theorem sameKey_iff {k l : Json} :
    sameKey k l = true ↔ ∃ key, k.key? = some key ∧ l.key? = some key := by
  rw [sameKey]
  cases k.key? with
  | none => simp
  | some key =>
    simp only [Option.isSome_some, Bool.true_and, beq_iff_eq, Option.some.injEq, exists_eq_left']
    exact eq_comm

/-- Values that are the same key are the same as any other key. -/
theorem sameKey_congr {k l : Json} (h : sameKey k l = true) (other : Json) :
    sameKey k other = sameKey l other := by
  obtain ⟨key, hk, hl⟩ := sameKey_iff.1 h
  rw [sameKey, sameKey, hk, hl]

theorem sameKey_comm (k l : Json) : sameKey k l = sameKey l k := by
  rw [Bool.eq_iff_iff, sameKey_iff, sameKey_iff]
  simp only [and_comm]

/-- Among all values a string is the same key as itself alone. -/
theorem sameKey_string : sameKey value (.string s) = true ↔ value = .string s := by
  rw [sameKey_iff]
  cases value with
  | string t => simp [key?, eq_comm]
  | null => simp [key?]
  | bool b => simp [key?]
  | integer n => simp [key?]
  | float x =>
    cases hx : x.value? with
    | none => simp [key?, hx]
    | some q => simp [key?, hx]
  | array items => simp [key?]
  | object members => simp [key?]

/-! ## Values that differ in one place -/

/-- Whether two values are objects that differ at most in the value that a path of names leads to:
all members beside those on the path are the same. -/
def AgreeExceptAt : List String → Json → Json → Prop
  | [], _, _ => True
  | name :: rest, a, b =>
    (∃ v w, a.find name = some v ∧ b.find name = some w ∧ AgreeExceptAt rest v w) ∧
      ∀ other, other ≠ name → b.find other = a.find other

/-- Objects that differ at most in their first member differ at most where that member does. -/
theorem agreeExceptAt_cons {name : String} {path : List String} {a b : Json}
    (h : AgreeExceptAt path a b) (rest : List (String × Json)) :
    AgreeExceptAt (name :: path) (.object ((name, a) :: rest)) (.object ((name, b) :: rest)) := by
  have hfind (value : Json) : find? ((name, value) :: rest) name = some value := by
    simp [find?]
  refine ⟨⟨a, b, hfind a, hfind b, h⟩, fun other hother => ?_⟩
  simp only [find, find?, List.find?_cons, beq_false_of_ne hother.symm]

end BuildAnalysis.Json
