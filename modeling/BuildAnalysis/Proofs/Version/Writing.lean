import BuildAnalysis.Proofs.Version
import Mathlib.Data.Nat.Digits.Defs

/-!
# Versions as they are written

A version may be written in many ways: zeros may stand before its numbers, a suffix that begins with no
digit may stand behind each of them, and behind the last one a dot and anything that begins with no
digit. All of them are read as the same numbers, and versions are compared by their numbers alone.

* `parse_of_isWritten`: a version is read from every text that writes it.
* `atLeast_of_isWritten`: when a text writes a version that is not less than another one.
-/

namespace BuildAnalysis

namespace Text

variable {c : Char} {digits : List Char}

/-- The number that decimal digits write. -/
def valueOf (digits : List Char) : Nat :=
  Nat.ofDigits 10 (digits.reverse.map fun c => c.toNat - '0'.toNat)

/-- A decimal digit denotes how far it is from zero. -/
theorem decimalValue?_of_isDigit (h : c.isDigit = true) :
    decimalValue? c = some (c.toNat - '0'.toNat) := by
  have hrange : (0x30 ≤ c.toNat && c.toNat ≤ 0x30 + 9) = true := by
    unfold Char.isDigit at h
    simpa [UInt32.le_iff_toNat_le] using h
  have hzero : decimalZeros.find? (fun z => z ≤ c.toNat && c.toNat ≤ z + 9) = some 0x30 :=
    List.find?_cons_of_pos hrange
  rw [decimalValue?, hzero]
  rfl

theorem isDigit_of_isDigit (h : c.isDigit = true) : isDigit c = true := by
  rw [isDigit, isDecimal, decimalValue?_of_isDigit h]
  rfl

/-- Digits are read from the first one on, each of them ten times what the next one counts. -/
theorem numeralFrom_eq_valueOf (h : ∀ c ∈ digits, c.isDigit = true) (n : Nat) :
    numeralFrom n digits = some (10 ^ digits.length * n + valueOf digits) := by
  induction digits generalizing n with
  | nil => simp [numeralFrom, valueOf]
  | cons c rest ih =>
    obtain ⟨hc, hrest⟩ := List.forall_mem_cons.1 h
    have hvalue : valueOf (c :: rest) =
        valueOf rest + 10 ^ rest.length * (c.toNat - '0'.toNat) := by
      simp [valueOf, Nat.ofDigits_append]
    rw [numeralFrom, decimalValue?_of_isDigit hc, Option.bind_some, ih hrest, hvalue,
      List.length_cons]
    congr 1
    ring

end Text

namespace Version

variable {n : Nat} {version minimum : Version} {text least : String} {component : List Char}
  {components : List (List Char)}

/-! ## Writing -/

/-- Whether decimal digits write a number; zeros may stand before it. -/
structure IsNumeral (n : Nat) (digits : List Char) : Prop where
  ne_nil : digits ≠ []
  length_le : digits.length ≤ Text.maxNumeralLength
  isDigit : ∀ c ∈ digits, c.isDigit = true
  value : Text.valueOf digits = n

instance (n : Nat) (digits : List Char) : Decidable (IsNumeral n digits) :=
  decidable_of_iff (digits ≠ [] ∧ digits.length ≤ Text.maxNumeralLength ∧
      digits.all Char.isDigit = true ∧ Text.valueOf digits = n)
    ⟨fun ⟨hne, hlength, hdigit, hvalue⟩ => ⟨hne, hlength, List.all_eq_true.1 hdigit, hvalue⟩,
      fun h => ⟨h.ne_nil, h.length_le, List.all_eq_true.2 h.isDigit, h.value⟩⟩

/-- Whether a text begins with no digit of any script. -/
def IsUnnumbered (cs : List Char) : Prop :=
  ∀ c ∈ cs.head?, Text.isDigit c = false

instance (cs : List Char) : Decidable (IsUnnumbered cs) :=
  decidable_of_iff (cs.head?.all (!Text.isDigit ·) = true)
    (by simp [IsUnnumbered, Option.all_eq_true])

/-- Whether a component writes a number: its digits, and a suffix that holds no dot and begins with no
digit. -/
def IsComponent (n : Nat) (component : List Char) : Prop :=
  ∃ digits suffix, component = digits ++ suffix ∧ IsNumeral n digits ∧ '.' ∉ suffix ∧
    IsUnnumbered suffix

/-- Whether a text writes a version: components for its numbers with a dot between each two, and
nothing behind them, or a dot and a text that begins with no digit. -/
def IsWritten (version : Version) (text : String) : Prop :=
  ∃ components rest, List.Forall₂ IsComponent version components ∧
    text.toList = Text.unsplit '.' components ++ rest ∧
    (rest = [] ∨ ∃ more, rest = '.' :: more ∧ IsUnnumbered more)

/-! ## Reading -/

theorem takeWhile_of_isUnnumbered {cs : List Char} (h : IsUnnumbered cs) :
    cs.takeWhile Text.isDigit = [] := by
  cases cs with
  | nil => rfl
  | cons c rest => rw [List.takeWhile_cons, if_neg (by simp [h c rfl])]

/-- The digits that a component begins with are those of its number. -/
theorem IsComponent.numeral? (h : IsComponent n component) :
    component.takeWhile Text.isDigit ≠ [] ∧
      Text.numeral? (component.takeWhile Text.isDigit) = some n := by
  obtain ⟨digits, suffix, rfl, hdigits, -, hsuffix⟩ := h
  have htake : (digits ++ suffix).takeWhile Text.isDigit = digits := by
    rw [List.takeWhile_append_of_pos fun c hc => Text.isDigit_of_isDigit (hdigits.isDigit c hc),
      takeWhile_of_isUnnumbered hsuffix, List.append_nil]
  rw [htake, Text.numeral?, if_pos hdigits.length_le,
    Text.numeralFrom_eq_valueOf hdigits.isDigit, hdigits.value, Nat.mul_zero, Nat.zero_add]
  exact ⟨hdigits.ne_nil, rfl⟩

theorem IsComponent.dot_not_mem (h : IsComponent n component) : '.' ∉ component := by
  obtain ⟨digits, suffix, rfl, hdigits, hsuffix, -⟩ := h
  rw [List.mem_append, not_or]
  exact ⟨fun hdot => absurd (hdigits.isDigit '.' hdot) (by decide), hsuffix⟩

/-- The components that write a version are those of the text that they make. -/
theorem split_components (hne : version ≠ []) (h : List.Forall₂ IsComponent version components) :
    Text.split '.' (Text.unsplit '.' components) = components := by
  have hdots : ∀ component ∈ components, '.' ∉ component := by
    clear hne
    induction h with
    | nil => exact List.forall_mem_nil _
    | cons hcomponent _ ih => exact List.forall_mem_cons.2 ⟨hcomponent.dot_not_mem, ih⟩
  refine Text.split_unsplit ?_ hdots
  rintro rfl
  exact hne (List.forall₂_nil_right_iff.1 h)

/-- Reading goes on behind a component that writes a number. -/
theorem numbers_append {others : List (List Char)}
    (h : List.Forall₂ IsComponent version components) :
    numbers (components ++ others) = (numbers others).map (version ++ ·) := by
  induction h with
  | nil =>
    cases hothers : numbers others with
    | error e => simp [Except.map, hothers]
    | ok v => simp [Except.map, hothers]
  | @cons n component version components hcomponent _ ih =>
    obtain ⟨hne, hnumeral⟩ := hcomponent.numeral?
    rw [List.cons_append, numbers]
    split
    · rename_i hnone
      exact absurd hnone hne
    · rw [hnumeral]
      simp only [ih]
      cases numbers others with
      | error e => rfl
      | ok v => rfl

/-- Reading ends at a text that begins with no digit. -/
theorem numbers_split_of_isUnnumbered {cs : List Char} (h : IsUnnumbered cs) :
    numbers (Text.split '.' cs) = .ok [] := by
  have hfirst : ∃ first rest, Text.split '.' cs = first :: rest ∧ IsUnnumbered first := by
    cases cs with
    | nil => exact ⟨[], [], rfl, by simp [IsUnnumbered]⟩
    | cons c rest =>
      rw [Text.split]
      split
      · exact ⟨[], _, rfl, by simp [IsUnnumbered]⟩
      · split
        · exact ⟨[c], [], rfl, h⟩
        · exact ⟨_, _, rfl, h⟩
  obtain ⟨first, rest, hsplit, hunnumbered⟩ := hfirst
  rw [hsplit, numbers, takeWhile_of_isUnnumbered hunnumbered]

/-- A version is read from every text that writes it. -/
theorem parse_of_isWritten (hne : version ≠ []) (h : IsWritten version text) :
    parse text = .ok version := by
  obtain ⟨components, rest, hcomponents, htext, hrest⟩ := h
  have hsplit := split_components hne hcomponents
  -- behind the components that write the version there is none that begins with a digit
  have hothers : ∃ others, Text.split '.' text.toList = components ++ others ∧
      numbers others = .ok [] := by
    rcases hrest with rfl | ⟨more, rfl, hmore⟩
    · exact ⟨[], by rw [htext, List.append_nil, hsplit, List.append_nil], rfl⟩
    · exact ⟨_, by rw [htext, Text.split_append_cons, hsplit],
        numbers_split_of_isUnnumbered hmore⟩
  obtain ⟨others, hparts, hnone⟩ := hothers
  have hnumbers : numbers (Text.split '.' text.toList) = .ok version := by
    rw [hparts, numbers_append hcomponents, hnone, Except.map, List.append_nil]
  rw [parse, hnumbers]
  cases version with
  | nil => exact absurd rfl hne
  | cons n others => rfl

/-- Versions are compared by their numbers, however they are written. -/
theorem atLeast_of_isWritten (hne : version ≠ []) (hleast : minimum ≠ [])
    (h : IsWritten version text) (hminimum : IsWritten minimum least) :
    atLeast text least = .ok (decide (minimum ≤ version)) := by
  rw [atLeast, parse_of_isWritten hne h, parse_of_isWritten hleast hminimum]
  have hbefore : (!before version minimum) = decide (minimum ≤ version) := by
    rw [Bool.eq_iff_iff, Bool.not_eq_true', ← Bool.not_eq_true, before_iff, not_lt,
      decide_eq_true_iff]
  rw [← hbefore]
  rfl

/-- A version with greater numbers is not less. -/
theorem le_of_forall₂ {newer : Version} (h : List.Forall₂ (· ≤ ·) version newer) :
    version ≤ newer := by
  induction h with
  | nil => exact le_rfl
  | cons hfirst _ ih =>
    refine not_lt.1 fun hlt => ?_
    rcases List.cons_lt_cons_iff.1 hlt with hless | ⟨-, hless⟩
    · exact not_lt.2 hfirst hless
    · exact not_lt.2 ih hless

end Version

end BuildAnalysis
