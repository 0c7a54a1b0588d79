import BuildAnalysis.CommandLine.LineUnit
import BuildAnalysis.CommandLine.Quoting

/-!
# Reading command lines in parts

The reading of a command line is cut in two at any place: the words that end before it, and the
scan with which the rest is read. Where no quote is open a blank makes the two readings independent,
so that the words of joined parts are the words of each of them.

* `splitFrom_append`: the reading of two texts, one after the other.
* `quoted_after`: whether a quote is open is told by the units of the text alone.
* `join_append`: the parts of two lists, joined.
* `split_join`: the words of joined parts, none of which leaves a quote open.
-/

namespace BuildAnalysis.CommandLine

/-! ## The scan after some characters -/

namespace Scan

/-- Whether a character ends the word begun. -/
def ends (scan : Scan) (c : Char) : Bool :=
  Text.isBlank c && !scan.quoted

/-- The scan after one more character. -/
def next (scan : Scan) (c : Char) : Scan :=
  if c = '\\' then scan.backslash
  else if c = '"' then scan.quote
  else if scan.ends c then {}
  else scan.plain c

/-- The scan after more characters. -/
def after (scan : Scan) (cs : List Char) : Scan :=
  cs.foldl next scan

/-- The words that end within characters. -/
def finished (scan : Scan) : List Char → List (List Char)
  | [] => []
  | c :: rest => (if scan.ends c then scan.words else []) ++ (scan.next c).finished rest

@[simp] theorem after_nil (scan : Scan) : scan.after [] = scan := rfl

@[simp] theorem after_cons (scan : Scan) (c : Char) (cs : List Char) :
    scan.after (c :: cs) = (scan.next c).after cs := rfl

theorem after_append (scan : Scan) (xs ys : List Char) :
    scan.after (xs ++ ys) = (scan.after xs).after ys :=
  List.foldl_append

theorem finished_append (scan : Scan) (xs ys : List Char) :
    scan.finished (xs ++ ys) = scan.finished xs ++ (scan.after xs).finished ys := by
  induction xs generalizing scan with
  | nil => rfl
  | cons c rest ih => rw [List.cons_append, finished, ih, finished, after_cons, List.append_assoc]

@[simp] theorem next_backslash (scan : Scan) : scan.next '\\' = scan.backslash := by
  simp [next]

@[simp] theorem next_quote (scan : Scan) : scan.next '"' = scan.quote := by
  simp [next]

theorem ends_iff {scan : Scan} {c : Char} :
    scan.ends c = true ↔ Text.isBlank c = true ∧ scan.quoted = false := by
  rw [ends, Bool.and_eq_true, Bool.not_eq_true']

@[simp] theorem ends_backslash (scan : Scan) : scan.ends '\\' = false := by
  simp [ends, Text.isBlank_backslash]

@[simp] theorem ends_quote (scan : Scan) : scan.ends '"' = false := by
  simp [ends, Text.isBlank_quote]

/-- No word ends inside quotes. -/
theorem ends_of_quoted {scan : Scan} (h : scan.quoted = true) (c : Char) :
    scan.ends c = false := by
  simp [ends, h]

/-- A blank outside quotes makes the scan forget what it has read. -/
theorem next_of_ends {scan : Scan} {c : Char} (h : scan.ends c = true) : scan.next c = {} := by
  have hblank := (ends_iff.1 h).1
  rw [next, if_neg (Text.ne_backslash_of_isBlank hblank),
    if_neg (Text.ne_quote_of_isBlank hblank), if_pos h]

/-- Every other character belongs to the word, unless it is a backslash or a quote. -/
theorem next_of_not_ends {scan : Scan} {c : Char} (h : scan.ends c = false) (hb : c ≠ '\\')
    (hq : c ≠ '"') : scan.next c = scan.plain c := by
  rw [next, if_neg hb, if_neg hq, h]
  rfl

end Scan

/-- One character is read by finishing the word that it ends, and going on after it. -/
theorem splitFrom_cons (scan : Scan) (c : Char) (rest : List Char) :
    splitFrom scan (c :: rest) =
      (if scan.ends c then scan.words else []) ++ splitFrom (scan.next c) rest := by
  by_cases hb : c = '\\'
  · subst hb
    simp [splitFrom]
  by_cases hq : c = '"'
  · subst hq
    simp [splitFrom]
  cases he : scan.ends c with
  | true =>
    rw [Scan.next_of_ends he]
    simp only [Scan.ends] at he
    simp [splitFrom, hb, hq, he]
  | false =>
    rw [Scan.next_of_not_ends he hb hq]
    simp only [Scan.ends] at he
    simp [splitFrom, hb, hq, he]

/-- Two texts are read one after the other. -/
theorem splitFrom_append (scan : Scan) (xs ys : List Char) :
    splitFrom scan (xs ++ ys) = scan.finished xs ++ splitFrom (scan.after xs) ys := by
  induction xs generalizing scan with
  | nil => rfl
  | cons c rest ih =>
    rw [List.cons_append, splitFrom_cons, ih, Scan.finished, Scan.after_cons, List.append_assoc]

/-- The words of a text are those that end in it and the one that is left. -/
theorem splitFrom_eq_finished (scan : Scan) (cs : List Char) :
    splitFrom scan cs = scan.finished cs ++ (scan.after cs).words := by
  have h := splitFrom_append scan cs []
  rw [List.append_nil] at h
  exact h

/-- A blank where no quote is open divides a text. -/
theorem splitFrom_append_blank {scan : Scan} {xs : List Char} {c : Char} (ys : List Char)
    (hc : Text.isBlank c = true) (h : (scan.after xs).quoted = false) :
    splitFrom scan (xs ++ c :: ys) = splitFrom scan xs ++ splitFrom {} ys := by
  have hends := Scan.ends_iff.2 ⟨hc, h⟩
  rw [splitFrom_append, splitFrom_cons, if_pos hends, Scan.next_of_ends hends,
    splitFrom_eq_finished scan xs, List.append_assoc]

/-- What stands before a blank outside quotes does not matter to the scan. -/
theorem after_append_blank {scan : Scan} {xs : List Char} {c : Char} (ys : List Char)
    (hc : Text.isBlank c = true) (h : (scan.after xs).quoted = false) :
    scan.after (xs ++ c :: ys) = ({} : Scan).after ys := by
  have hends := Scan.ends_iff.2 ⟨hc, h⟩
  rw [Scan.after_append, Scan.after_cons, Scan.next_of_ends hends]

/-! ## Open quotes -/

/-- Whether a unit opens or closes a quote: a quote does after an even number of backslashes. -/
def LineUnit.isSwitch : LineUnit → Bool
  | .quote n => n % 2 == 0
  | _ => false

/-- Whether no quote is open at the end of a text: of its quotes, those that stand after an even
number of backslashes are even in number. -/
def EndsOutside (s : String) : Prop :=
  (LineUnit.units s.toList).countP LineUnit.isSwitch % 2 = 0

instance (s : String) : Decidable (EndsOutside s) :=
  inferInstanceAs (Decidable (_ = _))

theorem countP_isSwitch_run (n : Nat) : (LineUnit.run n).countP LineUnit.isSwitch = 0 := by
  rw [LineUnit.run]
  split
  · rfl
  · rfl

/-- A quote is open after a text if one was open before, or else if the units of the text switch an
odd number of times. -/
theorem quoted_after (scan : Scan) (cs : List Char) :
    (scan.after cs).quoted = (scan.quoted ^^
      ((LineUnit.unitsFrom scan.backslashes cs).countP LineUnit.isSwitch % 2 == 1)) := by
  -- the backslashes of the scan are those that the units of the text begin with
  induction cs generalizing scan with
  | nil => simp [LineUnit.unitsFrom, countP_isSwitch_run]
  | cons c rest ih =>
    rw [Scan.after_cons, ih, LineUnit.unitsFrom]
    by_cases hb : c = '\\'
    · subst hb
      simp [Scan.backslash]
    by_cases hq : c = '"'
    · subst hq
      rw [if_neg hb, if_pos rfl, List.countP_cons, Scan.next_quote, Scan.quote]
      rcases Nat.mod_two_eq_zero_or_one scan.backslashes with hn | hn
      · simp only [hn, LineUnit.isSwitch]
        rcases Nat.mod_two_eq_zero_or_one
          ((LineUnit.unitsFrom 0 rest).countP LineUnit.isSwitch) with hm | hm
        · simp [Nat.add_mod, hm]
        · simp [Nat.add_mod, hm]
      · simp [hn, LineUnit.isSwitch]
    rw [if_neg hb, if_neg hq, List.countP_append, countP_isSwitch_run, List.countP_cons]
    cases he : scan.ends c with
    | true =>
      rw [Scan.next_of_ends he]
      simp [LineUnit.isSwitch, (Scan.ends_iff.1 he).2]
    | false =>
      rw [Scan.next_of_not_ends he hb hq]
      simp [Scan.plain, LineUnit.isSwitch]

theorem endsOutside_iff {s : String} :
    EndsOutside s ↔ (({} : Scan).after s.toList).quoted = false := by
  rw [quoted_after, EndsOutside, LineUnit.units]
  rcases Nat.mod_two_eq_zero_or_one
    ((LineUnit.unitsFrom 0 s.toList).countP LineUnit.isSwitch) with h | h
  · simp [h]
  · simp [h]

/-- Without quotes nothing switches. -/
theorem countP_isSwitch_of_not_mem (n : Nat) {cs : List Char} (h : '"' ∉ cs) :
    (LineUnit.unitsFrom n cs).countP LineUnit.isSwitch = 0 := by
  induction cs generalizing n with
  | nil => exact countP_isSwitch_run n
  | cons c rest ih =>
    have hq : c ≠ '"' := fun e => h (by simp [e])
    have hrest : '"' ∉ rest := fun hm => h (List.mem_cons_of_mem _ hm)
    rw [LineUnit.unitsFrom, if_neg hq]
    split
    · exact ih (n + 1) hrest
    · rw [List.countP_append, countP_isSwitch_run, List.countP_cons, ih 0 hrest]
      rfl

/-- A text without quotes leaves none open. -/
theorem endsOutside_of_not_mem {s : String} (h : '"' ∉ s.toList) : EndsOutside s := by
  rw [EndsOutside, LineUnit.units, countP_isSwitch_of_not_mem 0 h]

/-! ## Blanks between texts -/

section

variable {s : String} {c : Char}

theorem toList_append_singleton_append (s : String) (c : Char) (t : String) :
    (s ++ String.singleton c ++ t).toList = s.toList ++ c :: t.toList := by
  simp

/-- What stands behind a blank is read for itself, if no quote is open before it. -/
theorem split_append_blank (hc : Text.isBlank c = true) (h : EndsOutside s) (t : String) :
    split (s ++ String.singleton c ++ t) = split s ++ split t := by
  rw [split, toList_append_singleton_append,
    splitFrom_append_blank _ hc (endsOutside_iff.1 h), List.map_append]
  rfl

/-- If no quote is open before a blank, those that are open at the end are opened behind it. -/
theorem endsOutside_append_blank (hc : Text.isBlank c = true) (h : EndsOutside s) (t : String) :
    EndsOutside (s ++ String.singleton c ++ t) ↔ EndsOutside t := by
  rw [endsOutside_iff, endsOutside_iff, toList_append_singleton_append,
    after_append_blank _ hc (endsOutside_iff.1 h)]

end

/-! ## Joined parts -/

/-- Two texts with a space between them; an empty one is left out. -/
def spaced (left right : String) : String :=
  if left.isEmpty then right
  else if right.isEmpty then left
  else left ++ String.singleton ' ' ++ right

theorem split_empty : split "" = [] := rfl

theorem split_spaced {left : String} (h : EndsOutside left) (right : String) :
    split (spaced left right) = split left ++ split right := by
  unfold spaced
  split
  · next hleft => rw [String.isEmpty_iff.1 hleft, split_empty, List.nil_append]
  · split
    · next hright => rw [String.isEmpty_iff.1 hright, split_empty, List.append_nil]
    · exact split_append_blank Text.isBlank_space h right

theorem endsOutside_spaced {left : String} (h : EndsOutside left) (right : String) :
    EndsOutside (spaced left right) ↔ EndsOutside right := by
  unfold spaced
  split
  · rfl
  · split
    · next hright =>
      rw [String.isEmpty_iff.1 hright]
      exact iff_of_true h (by decide)
    · exact endsOutside_append_blank Text.isBlank_space h right

/-- Joined parts are an empty text only if all of them were left out. -/
theorem isEmpty_join (parts : List String) :
    (join parts).isEmpty = (parts.filter (!·.isEmpty)).isEmpty := by
  rw [join]
  cases hparts : parts.filter (!·.isEmpty) with
  | nil => rfl
  | cons part rest =>
    have hpart : part ≠ "" := by
      have hmem : part ∈ parts.filter (!·.isEmpty) := by simp [hparts]
      simpa using (List.mem_filter.1 hmem).2
    cases rest with
    | nil => simpa using hpart
    | cons other more => simp [hpart]

/-- The parts of two lists are joined as those of each of them are, with a space between. -/
theorem join_append (xs ys : List String) : join (xs ++ ys) = spaced (join xs) (join ys) := by
  rw [spaced, isEmpty_join, isEmpty_join, join, join, join, List.filter_append]
  cases xs.filter (!·.isEmpty) with
  | nil => rfl
  | cons x rest =>
    cases ys.filter (!·.isEmpty) with
    | nil => simp
    | cons y more =>
      exact String.intercalate_append_of_ne_nil (List.cons_ne_nil x rest) (List.cons_ne_nil y more)

theorem join_singleton (part : String) : join [part] = part := by
  cases hpart : part.isEmpty with
  | true =>
    rw [String.isEmpty_iff.1 hpart]
    rfl
  | false => simp [join, hpart]

theorem join_cons (part : String) (rest : List String) :
    join (part :: rest) = spaced part (join rest) := by
  have h := join_append [part] rest
  rwa [join_singleton] at h

/-- Joined parts are read each for itself, when none of them leaves a quote open. -/
theorem split_join {parts : List String} (h : ∀ part ∈ parts, EndsOutside part) :
    split (join parts) = parts.flatMap split := by
  induction parts with
  | nil => rfl
  | cons part rest ih =>
    obtain ⟨hpart, hrest⟩ := List.forall_mem_cons.1 h
    rw [join_cons, split_spaced hpart, ih hrest, List.flatMap_cons]

/-- Joined parts leave no quote open, when none of them does. -/
theorem endsOutside_join {parts : List String} (h : ∀ part ∈ parts, EndsOutside part) :
    EndsOutside (join parts) := by
  induction parts with
  | nil => decide
  | cons part rest ih =>
    obtain ⟨hpart, hrest⟩ := List.forall_mem_cons.1 h
    rw [join_cons, endsOutside_spaced hpart]
    exact ih hrest

theorem toList_join (parts : List String) :
    (join parts).toList = [' '].intercalate ((parts.filter (!·.isEmpty)).map String.toList) := by
  rw [join, String.toList_intercalate]
  rfl

end BuildAnalysis.CommandLine
