import BuildAnalysis.Proofs.CommandLine.RoundTrip
import Mathlib.Logic.ExistsUnique

/-!
# Command lines unit by unit

The words of a command line are told by its units. Every unit stands for some characters, and blanks
outside quotes divide the units into words: a word is a run of units between them, with the characters
that these stand for. Reading character by character comes to the same, though it does not know what a
backslash means before it has seen what follows.

* `LineUnit.isCut_iff`: a text is cut into units in one way only.
* `splitFrom_eq_meaning`: reading follows the units, whatever was read before.
* `LineUnit.meaning_eq_words`: what units mean is what the runs between blanks stand for.
* `split_isReadByUnits`: the words of a command line.
-/

namespace BuildAnalysis

/-! ## Runs -/

section

variable {α : Type} {cut : α → Bool}

/-- The runs of a list between the elements at which it is cut. -/
def runs (cut : α → Bool) (xs : List α) : List (List α) :=
  (xs.splitOnP cut).filter (!·.isEmpty)

/-- A list is divided where it is cut. -/
theorem runs_append_cons {x : α} (h : cut x = true) (xs ys : List α) :
    runs cut (xs ++ x :: ys) = runs cut xs ++ runs cut ys := by
  rw [runs, List.splitOnP_append_cons xs ys h, List.filter_append]
  rfl

/-- Elements at which a list is not cut are a single run. -/
theorem runs_of_forall {xs : List α} (h : ∀ x ∈ xs, cut x = false) (hne : xs ≠ []) :
    runs cut xs = [xs] := by
  rw [runs, List.splitOnP_eq_singleton h]
  simp [hne]

end

namespace CommandLine

namespace LineUnit

/-! ## One cut only -/

theorem unitsFrom_replicate_append (n m : Nat) (cs : List Char) :
    unitsFrom n (List.replicate m '\\' ++ cs) = unitsFrom (n + m) cs := by
  induction m generalizing n with
  | zero => rfl
  | succ m ih =>
    have hcount : n + 1 + m = n + (m + 1) := by omega
    rw [List.replicate_succ, List.cons_append, unitsFrom, if_pos rfl, ih, hcount]

/-- A cut is found again in its text, also after backslashes that it does not go on with. -/
theorem unitsFrom_flatMap_text {units : List LineUnit} (h : IsCut units) (n : Nat)
    (hn : n = 0 ∨ ∀ unit ∈ units.head?, unit.IsChar) :
    unitsFrom n (units.flatMap text) = run n ++ units := by
  induction units generalizing n with
  | nil => simp [unitsFrom]
  | cons unit rest ih =>
    cases unit with
    | quote m =>
      have hzero : n = 0 := hn.resolve_right fun hchar => hchar _ rfl
      subst hzero
      rw [List.flatMap_cons, text, List.append_assoc, unitsFrom_replicate_append,
        List.singleton_append, unitsFrom, if_neg (by decide), if_pos rfl, ih h 0 (.inl rfl),
        Nat.zero_add]
      rfl
    | backslashes m =>
      have hzero : n = 0 := hn.resolve_right fun hchar => hchar _ rfl
      subst hzero
      obtain ⟨hpos, hnext, hrest⟩ := h
      have hrun : run m = [.backslashes m] := if_neg (by simpa using Nat.pos_iff_ne_zero.1 hpos)
      rw [List.flatMap_cons, text, unitsFrom_replicate_append, Nat.zero_add,
        ih hrest m (.inr hnext), hrun]
      rfl
    | char c =>
      obtain ⟨hb, hq, hrest⟩ := h
      rw [List.flatMap_cons, text, List.singleton_append, unitsFrom, if_neg hb, if_neg hq,
        ih hrest 0 (.inl rfl)]
      rfl

/-- A text is cut into its units, and in no other way. -/
theorem isCut_iff {units : List LineUnit} {cs : List Char} :
    IsCut units ∧ units.flatMap text = cs ↔ units = LineUnit.units cs := by
  constructor
  · rintro ⟨hcut, rfl⟩
    exact (unitsFrom_flatMap_text hcut 0 (.inl rfl)).symm
  · rintro rfl
    exact ⟨isCut_units cs, text_units cs⟩

/-! ## The meaning of units -/

/-- What a unit stands for in a word: two backslashes before a quote stand for one, and the quote for
itself unless it switches. -/
def content : LineUnit → List Char
  | .quote n => List.replicate (n / 2) '\\' ++ if n % 2 = 0 then [] else ['"']
  | .backslashes n => List.replicate n '\\'
  | .char c => [c]

/-- Units, each with whether a quote is open before it. -/
def marked (quoted : Bool) : List LineUnit → List (LineUnit × Bool)
  | [] => []
  | unit :: rest => (unit, quoted) :: marked (quoted ^^ unit.isSwitch) rest

/-- Whether a unit divides words: it is a blank outside quotes. -/
def divides : LineUnit × Bool → Bool
  | (.char c, quoted) => Text.isBlank c && !quoted
  | _ => false

/-- What units in a row stand for. -/
def contents (units : List (LineUnit × Bool)) : List Char :=
  units.flatMap (·.1.content)

/-- The words of units: what the runs between the units stand for that divide words. -/
def words (units : List LineUnit) : List (List Char) :=
  (runs divides (marked false units)).map contents

/-- The word that units have begun, if there are any. -/
def begun (units : List (LineUnit × Bool)) : Option (List Char) :=
  if units.isEmpty then none else some (contents units)

theorem contents_append_singleton (units : List (LineUnit × Bool)) (unit : LineUnit × Bool) :
    contents (units ++ [unit]) = contents units ++ unit.1.content := by
  simp [contents]

theorem getD_begun (units : List (LineUnit × Bool)) : (begun units).getD [] = contents units := by
  cases units with
  | nil => rfl
  | cons unit rest => rfl

theorem begun_append_singleton (units : List (LineUnit × Bool)) (unit : LineUnit × Bool) :
    begun (units ++ [unit]) = some ((begun units).getD [] ++ unit.1.content) := by
  rw [getD_begun, ← contents_append_singleton, begun, if_neg (by simp)]

/-- Units that do not divide words are one word, if there are any. -/
theorem map_contents_runs {units : List (LineUnit × Bool)}
    (h : ∀ unit ∈ units, divides unit = false) :
    (runs divides units).map contents = (begun units).toList := by
  cases units with
  | nil => rfl
  | cons unit rest =>
    rw [runs_of_forall h (List.cons_ne_nil unit rest)]
    rfl

/-- A unit that does not divide words adds to the word what it stands for. -/
theorem meaning_cons {quoted : Bool} {unit : LineUnit} (h : divides (unit, quoted) = false)
    (word : Option (List Char)) (rest : List LineUnit) :
    meaning quoted word (unit :: rest) =
      meaning (quoted ^^ unit.isSwitch) (some (word.getD [] ++ unit.content)) rest := by
  cases unit with
  | quote n =>
    rw [meaning]
    by_cases hn : n % 2 = 0
    · simp [content, isSwitch, hn]
    · have hodd : (n % 2 == 0) = false := by simpa using hn
      simp [content, isSwitch, hn, hodd]
  | backslashes n => simp [meaning, content, isSwitch]
  | char c =>
    have hword : (Text.isBlank c && !quoted) = false := h
    rw [meaning, hword]
    simp [content, isSwitch]

/-- A unit that divides words ends the word, and there is no quote open. -/
theorem meaning_cons_of_divides {quoted : Bool} {unit : LineUnit}
    (h : divides (unit, quoted) = true) (word : Option (List Char)) (rest : List LineUnit) :
    meaning quoted word (unit :: rest) =
      word.toList ++ meaning (quoted ^^ unit.isSwitch) none rest := by
  cases unit with
  | quote n => cases h
  | backslashes n => cases h
  | char c =>
    have hends : (Text.isBlank c && !quoted) = true := h
    have hopen : quoted = false := by
      rw [Bool.and_eq_true, Bool.not_eq_true'] at hends
      exact hends.2
    rw [meaning, if_pos hends, hopen]
    rfl

/-- What units mean after others that have begun a word. -/
theorem meaning_begun {front : List (LineUnit × Bool)} (h : ∀ unit ∈ front, divides unit = false)
    (quoted : Bool) (units : List LineUnit) :
    meaning quoted (begun front) units =
      (runs divides (front ++ marked quoted units)).map contents := by
  -- `front` is the word begun: it grows unit by unit until one divides
  induction units generalizing front quoted with
  | nil => rw [meaning, marked, List.append_nil, map_contents_runs h]
  | cons unit rest ih =>
    rw [marked]
    cases hunit : divides (unit, quoted) with
    | true =>
      have hnone : ∀ other ∈ ([] : List (LineUnit × Bool)), divides other = false := by simp
      have hrest := ih hnone (quoted ^^ unit.isSwitch)
      rw [meaning_cons_of_divides hunit, runs_append_cons hunit, List.map_append,
        map_contents_runs h]
      exact congrArg _ hrest
    | false =>
      have hfront : ∀ other ∈ front ++ [(unit, quoted)], divides other = false := by
        intro other hother
        rcases List.mem_append.1 hother with hother | hother
        · exact h other hother
        · rw [List.mem_singleton.1 hother]
          exact hunit
      have hrest := ih hfront (quoted ^^ unit.isSwitch)
      rw [begun_append_singleton, List.append_assoc, List.singleton_append] at hrest
      rw [meaning_cons hunit, hrest]

/-- What units mean is what the runs between blanks outside quotes stand for. -/
theorem meaning_eq_words (units : List LineUnit) : meaning false none units = words units := by
  have hnone : ∀ unit ∈ ([] : List (LineUnit × Bool)), divides unit = false := by simp
  exact meaning_begun hnone false units

/-! ## Lines without quotes -/

/-- The word that characters have begun, if there are any. -/
def begunBy (front : List Char) : Option (List Char) :=
  if front.isEmpty then none else some front

theorem getD_begunBy (front : List Char) : (begunBy front).getD [] = front := by
  cases front with
  | nil => rfl
  | cons c rest => rfl

theorem begunBy_of_ne_nil {front : List Char} (h : front ≠ []) : begunBy front = some front := by
  rw [begunBy, if_neg (by simpa using h)]

/-- Characters that are no blanks are one run, if there are any. -/
theorem runs_isBlank {front : List Char} (h : ∀ c ∈ front, Text.isBlank c = false) :
    runs Text.isBlank front = (begunBy front).toList := by
  cases front with
  | nil => rfl
  | cons c rest => exact runs_of_forall h (List.cons_ne_nil c rest)

/-- A unit other than a quote stands for its text. -/
theorem content_eq_text {unit : LineUnit} (h : '"' ∉ unit.text) : unit.content = unit.text := by
  cases unit with
  | quote n => simp [text] at h
  | backslashes n => rfl
  | char c => rfl

/-- A unit that divides words where no quote is open is a single blank, and in every other one there
are no blanks. -/
theorem text_of_divides {unit : LineUnit} (h : '"' ∉ unit.text) :
    (∃ c, unit.text = [c] ∧ Text.isBlank c = true ∧ divides (unit, false) = true) ∨
      divides (unit, false) = false ∧ ∀ c ∈ unit.text, Text.isBlank c = false := by
  cases unit with
  | quote n => simp [text] at h
  | backslashes n =>
    right
    refine ⟨rfl, fun c hc => ?_⟩
    rw [List.eq_of_mem_replicate hc]
    exact Text.isBlank_backslash
  | char c =>
    cases hc : Text.isBlank c with
    | true => exact .inl ⟨c, rfl, hc, by simp [divides, hc]⟩
    | false => exact .inr ⟨by simp [divides, hc], fun d hd => by rwa [List.mem_singleton.1 hd]⟩

/-- Without quotes units mean the runs between the blanks of their text. -/
theorem meaning_begunBy {units : List LineUnit} (hne : ∀ unit ∈ units, unit.text ≠ [])
    (hquote : '"' ∉ units.flatMap text) {front : List Char}
    (hfront : ∀ c ∈ front, Text.isBlank c = false) :
    meaning false (begunBy front) units = runs Text.isBlank (front ++ units.flatMap text) := by
  induction units generalizing front with
  | nil => rw [meaning, List.flatMap_nil, List.append_nil, runs_isBlank hfront]
  | cons unit rest ih =>
    obtain ⟨hunit, hrest⟩ := List.forall_mem_cons.1 hne
    rw [List.flatMap_cons, List.mem_append, not_or] at hquote
    have hswitch : (false ^^ unit.isSwitch) = false := by
      cases unit with
      | quote n => simp [text] at hquote
      | backslashes n => rfl
      | char c => rfl
    rw [List.flatMap_cons]
    rcases text_of_divides hquote.1 with ⟨c, htext, hc, hdivides⟩ | ⟨hdivides, hplain⟩
    · have hnone : ∀ c ∈ ([] : List Char), Text.isBlank c = false := by simp
      have hafter := ih hrest hquote.2 hnone
      rw [meaning_cons_of_divides hdivides, hswitch, htext, List.singleton_append,
        runs_append_cons hc, runs_isBlank hfront]
      exact congrArg _ hafter
    · have hlonger : ∀ c ∈ front ++ unit.text, Text.isBlank c = false := by
        intro c hc
        exact (List.mem_append.1 hc).elim (hfront c) (hplain c)
      have hlongerNe : front ++ unit.text ≠ [] := fun hnil =>
        hunit (List.append_eq_nil_iff.1 hnil).2
      have hafter := ih hrest hquote.2 hlonger
      rw [begunBy_of_ne_nil hlongerNe] at hafter
      rw [meaning_cons hdivides, hswitch, getD_begunBy, content_eq_text hquote.1, hafter,
        List.append_assoc]

/-- No unit of a cut is empty. -/
theorem text_ne_nil {units : List LineUnit} (h : IsCut units) : ∀ unit ∈ units, unit.text ≠ [] := by
  induction units with
  | nil => simp
  | cons unit rest ih =>
    cases unit with
    | quote n => exact List.forall_mem_cons.2 ⟨by simp [text], ih h⟩
    | backslashes n =>
      obtain ⟨hpos, -, hrest⟩ := h
      exact List.forall_mem_cons.2 ⟨by simp [text]; omega, ih hrest⟩
    | char c => exact List.forall_mem_cons.2 ⟨by simp [text], ih h.2.2⟩

end LineUnit

/-! ## Reading -/

namespace Scan

/-- The word that a scan has begun, without the backslashes behind it. -/
def begunWord (scan : Scan) : Option (List Char) :=
  if scan.begun then some scan.word.reverse else none

/-- The word that a scan has begun, with the backslashes behind it. -/
def heldWord (scan : Scan) : Option (List Char) :=
  if scan.begun then some (scan.withBackslashes scan.backslashes).reverse else none

theorem toList_heldWord (scan : Scan) : scan.heldWord.toList = scan.words := by
  unfold heldWord words
  split
  · rfl
  · rfl

theorem getD_begunWord {scan : Scan} (h : scan.IsSound) :
    scan.begunWord.getD [] = scan.word.reverse := by
  unfold begunWord
  cases hbegun : scan.begun with
  | false =>
    rw [(h hbegun).1]
    rfl
  | true => rfl

theorem getD_heldWord {scan : Scan} (h : scan.IsSound) :
    scan.heldWord.getD [] = (scan.withBackslashes scan.backslashes).reverse := by
  unfold heldWord
  cases hbegun : scan.begun with
  | false =>
    obtain ⟨hword, hcount⟩ := h hbegun
    rw [withBackslashes, hword, hcount]
    rfl
  | true => rfl

/-- A quote adds to the word what it stands for with the backslashes before it. -/
theorem begunWord_quote (scan : Scan) :
    scan.quote.begunWord =
      some (scan.word.reverse ++ (LineUnit.quote scan.backslashes).content) := by
  rw [begunWord, begun_quote, if_pos rfl, quote, LineUnit.content]
  rcases Nat.mod_two_eq_zero_or_one scan.backslashes with hn | hn
  · simp [hn, withBackslashes]
  · simp [hn, withBackslashes]

theorem quoted_quote (scan : Scan) :
    scan.quote.quoted = (scan.quoted ^^ (LineUnit.quote scan.backslashes).isSwitch) := by
  rw [quote, LineUnit.isSwitch]
  rcases Nat.mod_two_eq_zero_or_one scan.backslashes with hn | hn
  · simp [hn]
  · simp [hn]

end Scan

namespace LineUnit

theorem run_of_pos {n : Nat} (h : 0 < n) : run n = [.backslashes n] :=
  if_neg (by simpa using Nat.pos_iff_ne_zero.1 h)

/-- Backslashes begin a word, so that it does not matter whether there is one before them. -/
theorem meaning_unitsFrom {n : Nat} (h : 0 < n) (quoted : Bool) (word : Option (List Char))
    (cs : List Char) :
    meaning quoted word (unitsFrom n cs) = meaning quoted (some (word.getD [])) (unitsFrom n cs) := by
  induction cs generalizing n with
  | nil =>
    rw [unitsFrom, run_of_pos h]
    rfl
  | cons c rest ih =>
    rw [unitsFrom]
    split
    · exact ih (Nat.succ_pos n)
    · split
      · rfl
      · rw [run_of_pos h]
        rfl

/-- The backslashes of a scan, if there are any, are behind the word that it has begun. -/
theorem meaning_run_append {scan : Scan} (h : scan.IsSound) (quoted : Bool)
    (rest : List LineUnit) :
    meaning quoted scan.begunWord (run scan.backslashes ++ rest) =
      meaning quoted scan.heldWord rest := by
  cases hn : scan.backslashes with
  | zero =>
    have hsame : scan.heldWord = scan.begunWord := by
      rw [Scan.heldWord, Scan.begunWord, Scan.withBackslashes, hn]
      rfl
    rw [hsame]
    rfl
  | succ n =>
    -- a scan that has counted backslashes has begun a word
    have hbegun : scan.begun = true := by
      cases hbegun : scan.begun with
      | true => rfl
      | false => simp [(h hbegun).2] at hn
    rw [run_of_pos (Nat.succ_pos n), List.singleton_append, meaning, Scan.getD_begunWord h,
      Scan.heldWord, hbegun, if_pos rfl, Scan.withBackslashes, hn, List.reverse_append,
      List.reverse_replicate]

end LineUnit

open LineUnit in
/-- Reading follows the units: those that the backslashes before a text begin with, in the word begun
before them. -/
theorem splitFrom_eq_meaning {scan : Scan} (h : scan.IsSound) (cs : List Char) :
    splitFrom scan cs = meaning scan.quoted scan.begunWord (unitsFrom scan.backslashes cs) := by
  induction cs generalizing scan with
  | nil =>
    have hrun := meaning_run_append h scan.quoted []
    rw [List.append_nil] at hrun
    rw [splitFrom, unitsFrom, hrun, meaning, Scan.toList_heldWord]
  | cons c rest ih =>
    have hnext := ih (scan.isSound_next c)
    rw [splitFrom_cons, hnext]
    by_cases hb : c = '\\'
    · subst hb
      have hbegun : scan.backslash.begunWord = some scan.word.reverse := rfl
      rw [unitsFrom, if_pos rfl, meaning_unitsFrom (Nat.succ_pos _), Scan.getD_begunWord h,
        Scan.next_backslash, hbegun, Scan.ends_backslash]
      rfl
    by_cases hq : c = '"'
    · subst hq
      rw [unitsFrom, if_neg hb, if_pos rfl, meaning_cons rfl, Scan.getD_begunWord h,
        Scan.next_quote, Scan.begunWord_quote, Scan.quoted_quote, Scan.backslashes_quote,
        Scan.ends_quote]
      rfl
    rw [unitsFrom, if_neg hb, if_neg hq, meaning_run_append h]
    cases hends : scan.ends c with
    | true =>
      have hquoted : scan.quoted = false := (Scan.ends_iff.1 hends).2
      have hdivides : divides (.char c, scan.quoted) = true := hends
      rw [meaning_cons_of_divides hdivides, Scan.toList_heldWord, Scan.next_of_ends hends, hquoted]
      rfl
    | false =>
      have hdivides : divides (.char c, scan.quoted) = false := hends
      have hbegun : (scan.plain c).begunWord =
          some ((scan.withBackslashes scan.backslashes).reverse ++ [c]) := by
        rw [Scan.begunWord, Scan.plain, if_pos rfl, List.reverse_cons]
      have hswitch : (scan.quoted ^^ (LineUnit.char c).isSwitch) = scan.quoted :=
        Bool.xor_false scan.quoted
      rw [meaning_cons hdivides, Scan.getD_heldWord h, Scan.next_of_not_ends hends hb hq, hbegun,
        hswitch]
      rfl

/-- How the words of a command line follow from its units. -/
structure IsReadByUnits (s : String) : Prop where
  /-- There is one way only to cut the text into units that are as long as they can be. -/
  cut : ∃! units, LineUnit.IsCut units ∧ units.flatMap LineUnit.text = s.toList
  /-- The words are what the runs of units stand for between blanks outside quotes. -/
  words : ∀ units, LineUnit.IsCut units → units.flatMap LineUnit.text = s.toList →
    split s = (LineUnit.words units).map String.ofList
  /-- Without quotes the words are the runs of characters between blanks. -/
  blanks : '"' ∉ s.toList → split s = (runs Text.isBlank s.toList).map String.ofList

/-- The words of a command line are told by its units alone. -/
theorem split_isReadByUnits (s : String) : IsReadByUnits s where
  cut := ⟨LineUnit.units s.toList, LineUnit.isCut_iff.2 rfl, fun _ h => LineUnit.isCut_iff.1 h⟩
  words units hcut htext := by
    have hunits := LineUnit.isCut_iff.1 ⟨hcut, htext⟩
    rw [split, splitFrom_eq_meaning Scan.isSound_empty, ← LineUnit.meaning_eq_words, hunits]
    rfl
  blanks hquote := by
    obtain ⟨hcut, htext⟩ := LineUnit.isCut_iff.2 (rfl : LineUnit.units s.toList = _)
    have hnone : ∀ c ∈ ([] : List Char), Text.isBlank c = false := by simp
    rw [← htext] at hquote
    have hmeaning := LineUnit.meaning_begunBy (LineUnit.text_ne_nil hcut) hquote hnone
    rw [htext, List.nil_append] at hmeaning
    rw [split, splitFrom_eq_meaning Scan.isSound_empty, ← hmeaning]
    rfl

/-- Backslashes before a blank stand for themselves, and those before a quote are read in pairs. -/
example : split "a\\\\ b\\\\\" c\" \"\"" = ["a\\\\", "b\\ c", ""] := by
  decide +kernel

end CommandLine

end BuildAnalysis
