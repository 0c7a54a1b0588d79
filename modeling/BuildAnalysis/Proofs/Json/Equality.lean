import BuildAnalysis.Json.Basic

/-!
# Equality of JSON values

Whether two JSON values are the same can be decided by evaluation.

* `Json.isSame_iff`: the comparison of two values tells whether they are equal.
-/

namespace BuildAnalysis.Json

mutual

/-- Whether two values are the same, with their members in the same order. -/
def isSame : Json → Json → Bool
  | .null, .null => true
  | .bool b, .bool b' => b == b'
  | .integer n, .integer n' => n == n'
  | .float x, .float x' => decide (x = x')
  | .string s, .string s' => s == s'
  | .array items, .array items' => areSameItems items items'
  | .object members, .object members' => areSameMembers members members'
  | _, _ => false

/-- Whether two lists hold the same values. -/
def areSameItems : List Json → List Json → Bool
  | [], [] => true
  | item :: rest, item' :: rest' => isSame item item' && areSameItems rest rest'
  | _, _ => false

/-- Whether two lists hold the same members. -/
def areSameMembers : List (String × Json) → List (String × Json) → Bool
  | [], [] => true
  | (name, value) :: rest, (name', value') :: rest' =>
    name == name' && isSame value value' && areSameMembers rest rest'
  | _, _ => false

end

mutual

theorem isSame_iff : ∀ {value value' : Json}, isSame value value' = true ↔ value = value'
  | .array items, value' => by cases value' <;> simp [isSame, areSameItems_iff]
  | .object members, value' => by cases value' <;> simp [isSame, areSameMembers_iff]
  | .null, value' => by cases value' <;> simp [isSame]
  | .bool _, value' => by cases value' <;> simp [isSame]
  | .integer _, value' => by cases value' <;> simp [isSame]
  | .float _, value' => by cases value' <;> simp [isSame]
  | .string _, value' => by cases value' <;> simp [isSame]

theorem areSameItems_iff : ∀ {items items' : List Json},
    areSameItems items items' = true ↔ items = items'
  | [], items' => by cases items' <;> simp [areSameItems]
  | item :: rest, items' => by
    cases items' <;> simp [areSameItems, isSame_iff, areSameItems_iff]

theorem areSameMembers_iff : ∀ {members members' : List (String × Json)},
    areSameMembers members members' = true ↔ members = members'
  | [], members' => by cases members' <;> simp [areSameMembers]
  | (name, value) :: rest, members' => by
    cases members' <;> simp [areSameMembers, isSame_iff, areSameMembers_iff, Prod.ext_iff]

end

instance : DecidableEq Json := fun _ _ => decidable_of_iff _ isSame_iff

end BuildAnalysis.Json
