import BuildAnalysis.Proofs.Json.Questions
import BuildAnalysis.Toolchain.Resolution

/-!
# Cache variables

The names of cache variables may be any keys. A variable has the value that it was given last.
-/

namespace BuildAnalysis.Cache

/-- The value of the variable with any key as its name. -/
def value? (cache : Cache) (name : Json) : Option Json :=
  (cache.find? fun entry => Json.sameKey entry.1 name).map (·.2)

/-- A variable whose name is a string is looked for by that name. -/
theorem get?_eq_value? (cache : Cache) (name : String) :
    cache.get? name = cache.value? (.string name) := rfl

theorem value?_cons (entry : Json × Json) (rest : Cache) (name : Json) :
    value? (entry :: rest) name =
      if Json.sameKey entry.1 name then some entry.2 else value? rest name := by
  rw [value?, List.find?_cons]
  cases Json.sameKey entry.1 name with
  | true => rfl
  | false => rfl

/-- A variable that is given a value has it, and every other one keeps its own. -/
theorem value?_put (cache : Cache) (name value other : Json) :
    (cache.put name value).value? other =
      if Json.sameKey name other then some value else cache.value? other := by
  induction cache with
  | nil => exact value?_cons (name, value) [] other
  | cons entry rest ih =>
    obtain ⟨n, v⟩ := entry
    rw [put]
    by_cases hn : Json.sameKey n name = true
    -- the entry in front keeps its name, which is the same key
    · rw [if_pos hn, value?_cons, value?_cons, Json.sameKey_congr hn other]
      split
      · rfl
      · rfl
    · rw [if_neg hn, value?_cons, value?_cons, ih]
      simp only
      by_cases h : Json.sameKey n other = true
      · -- the variable in front is another one than that which is given a value
        have hother : ¬ Json.sameKey name other = true := by
          intro hsame
          apply hn
          rw [Json.sameKey_congr h name, Json.sameKey_comm]
          exact hsame
        rw [if_pos h, if_neg hother, if_pos h]
      · rw [if_neg h, if_neg h]

end BuildAnalysis.Cache
