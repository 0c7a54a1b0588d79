import BuildAnalysis.Proofs.Answers
import BuildAnalysis.Version
import Mathlib.Data.List.Lex

/-!
# The order of versions

Versions are compared number by number, the most significant one first; that is the lexicographic
order of their lists of numbers. A text that begins with digits may still denote no version at all:
its digits are too many, or there is one among them that no number is written with.

* `before_iff`: the order of versions.
* `parse_eq_badValue`: the texts whose digits are no numbers.
-/

namespace BuildAnalysis.Version

/-- A version comes before another exactly if its list of numbers does. -/
theorem before_iff {v w : Version} : before v w = true ↔ v < w := by
  induction v generalizing w with
  | nil =>
    cases w with
    | nil => simp [before]
    | cons n others => simp [before]
  | cons m rest ih =>
    cases w with
    | nil => simp [before]
    | cons n others =>
      rw [List.cons_lt_cons_iff, ← ih]
      simp [before]

/-- A text is a supported version when it denotes one that is not less than the minimum. -/
theorem atLeast_eq_ok {text minimum : String} {least : Version} (h : parse minimum = .ok least) :
    atLeast text minimum = .ok true ↔ ∃ version, parse text = .ok version ∧ least ≤ version := by
  rw [atLeast, bind_eq_ok]
  constructor
  · rintro ⟨version, hversion, hleast⟩
    refine ⟨version, hversion, ?_⟩
    rw [h] at hleast
    have hbefore : before version least = false := by
      simpa [bind, Except.bind, pure, Except.pure] using hleast
    refine not_lt.1 fun hlt => ?_
    rw [before_iff.2 hlt] at hbefore
    cases hbefore
  · rintro ⟨version, hversion, hle⟩
    refine ⟨version, hversion, ?_⟩
    have hbefore : before version least = false :=
      Bool.eq_false_iff.2 fun hlt => not_lt.2 hle (before_iff.1 hlt)
    rw [h]
    simp [bind, Except.bind, pure, Except.pure, hbefore]

/-! ## Digits that are no number -/

/-- Digits denote no number if there are too many, or one of them belongs to no positional script. -/
theorem numeral?_eq_none {digits : List Char} :
    Text.numeral? digits = none ↔
      Text.maxNumeralLength < digits.length ∨ ∃ c ∈ digits, Text.isDecimal c = false := by
  have hfrom (n : Nat) : Text.numeralFrom n digits = none ↔
      ∃ c ∈ digits, Text.isDecimal c = false := by
    induction digits generalizing n with
    | nil => simp [Text.numeralFrom]
    | cons c rest ih =>
      rw [Text.numeralFrom]
      cases hvalue : Text.decimalValue? c with
      | none =>
        have hc : Text.isDecimal c = false := by rw [Text.isDecimal, hvalue, Option.isSome_none]
        simp [hc]
      | some d =>
        have hc : Text.isDecimal c = true := by rw [Text.isDecimal, hvalue, Option.isSome_some]
        simp [hc, ih]
  rw [Text.numeral?]
  split
  · rename_i hle
    rw [hfrom]
    simp [Nat.not_lt.2 hle]
  · rename_i hlt
    simp [Nat.not_le.1 hlt]

/-- Whether the digits that a component of a version begins with denote a number. -/
def HasNumber (component : List Char) : Prop :=
  component.takeWhile Text.isDigit ≠ [] ∧
    ∃ n, Text.numeral? (component.takeWhile Text.isDigit) = some n

/-- Whether a text has a component that begins with digits which denote no number, after components
that begin with numbers. -/
def IsMisnumbered (text : String) : Prop :=
  ∃ front component back, Text.split '.' text.toList = front ++ component :: back ∧
    (∀ other ∈ front, HasNumber other) ∧ component.takeWhile Text.isDigit ≠ [] ∧
      (Text.maxNumeralLength < (component.takeWhile Text.isDigit).length ∨
        ∃ c ∈ component.takeWhile Text.isDigit, Text.isDecimal c = false)

theorem numbers_eq_error {components : List (List Char)} {failure : Failure} :
    numbers components = .error failure ↔ failure = .badValue ∧
      ∃ front component back, components = front ++ component :: back ∧
        (∀ other ∈ front, HasNumber other) ∧ component.takeWhile Text.isDigit ≠ [] ∧
          Text.numeral? (component.takeWhile Text.isDigit) = none := by
  induction components with
  | nil => simp [numbers]
  | cons first rest ih =>
    rw [numbers]
    split
    · -- reading ends at the first component
      rename_i hnone
      simp only [reduceCtorEq, false_iff, not_and, not_exists]
      rintro - front component back heq hfront hdigits -
      cases front with
      | nil =>
        rw [List.nil_append, List.cons.injEq] at heq
        rw [← heq.1] at hdigits
        exact hdigits hnone
      | cons other others =>
        rw [List.cons_append, List.cons.injEq] at heq
        rw [heq.1] at hnone
        exact (hfront other List.mem_cons_self).1 hnone
    · rename_i digits hdigits
      cases hnumeral : Text.numeral? (first.takeWhile Text.isDigit) with
      | none =>
        simp only
        constructor
        · intro h
          cases h
          exact ⟨rfl, [], first, rest, rfl, by simp, hdigits, hnumeral⟩
        · rintro ⟨rfl, -⟩
          rfl
      | some n =>
        have hfirst : HasNumber first := ⟨hdigits, n, hnumeral⟩
        have herror : ((numbers rest).map (n :: ·) = .error failure) ↔
            numbers rest = .error failure := by
          cases numbers rest with
          | error e => simp [Except.map]
          | ok v => simp [Except.map]
        simp only
        rw [herror, ih]
        refine and_congr_right fun _ => ?_
        constructor
        · rintro ⟨front, component, back, heq, hfront, hrest⟩
          exact ⟨first :: front, component, back, by rw [heq]; rfl,
            List.forall_mem_cons.2 ⟨hfirst, hfront⟩, hrest⟩
        · rintro ⟨front, component, back, heq, hfront, hcomponent, hnone⟩
          cases front with
          | nil =>
            rw [List.nil_append, List.cons.injEq] at heq
            rw [← heq.1, hnumeral] at hnone
            cases hnone
          | cons other others =>
            rw [List.cons_append, List.cons.injEq] at heq
            exact ⟨others, component, back, heq.2,
              fun o ho => hfront o (List.mem_cons_of_mem _ ho), hcomponent, hnone⟩

/-- Otherwise a text that denotes no version is told as an error. -/
theorem parse_failure {text : String} {failure : Failure} (h : parse text = .error failure) :
    failure = .badValue ∨ ∃ e, failure = .analysis e := by
  rw [parse] at h
  split at h
  · rename_i other hother
    cases h
    exact .inl (numbers_eq_error.1 hother).1
  · cases h
    exact .inr ⟨_, rfl⟩
  · cases h

/-- Reading a version fails without a report exactly for such a text. -/
theorem parse_eq_badValue {text : String} : parse text = .error .badValue ↔ IsMisnumbered text := by
  have hnumbers : parse text = .error .badValue ↔
      numbers (Text.split '.' text.toList) = .error .badValue := by
    rw [parse]
    cases numbers (Text.split '.' text.toList) with
    | error e => simp
    | ok v =>
      cases v with
      | nil => simp
      | cons n others => simp
  rw [hnumbers, numbers_eq_error, IsMisnumbered]
  simp only [true_and, numeral?_eq_none]

end BuildAnalysis.Version
