import BuildAnalysis.Proofs.Target.Arguments

/-!
# Quoting words and reading them back

Words that are quoted, joined and read again come back as they were exactly if none of them holds a
quote. That a quote is always lost is shown by counting the backslashes and the quotes together: the
doubled backslashes before a closing quote are halved again, and every quote within a word takes away
at least one of these characters. What is lost in one word is never made up for in another.

* `countP_special_splitFrom`: how many backslashes and quotes are left by reading.
* `specialsFrom_quoted`: how many of them are left of a quoted word.
* `split_join_map_quote_eq_iff`: the words that come back as they were.
-/

namespace BuildAnalysis.CommandLine

/-- Whether a character is one that reading may take away. -/
def isSpecial (c : Char) : Bool :=
  c == '\\' || c == '"'

/-! ## Reading -/

/-- How many backslashes and quotes are left of a unit in the words. Of the backslashes before a
quote half are left, and the quote itself if they are odd in number. -/
def LineUnit.specials : LineUnit → Nat
  | .quote n => (n + 1) / 2
  | .backslashes n => n
  | .char _ => 0

/-- How many backslashes and quotes are left of units in a row. -/
def LineUnit.specialsOf : List LineUnit → Nat
  | [] => 0
  | unit :: rest => unit.specials + specialsOf rest

theorem LineUnit.specialsOf_append (units others : List LineUnit) :
    specialsOf (units ++ others) = specialsOf units + specialsOf others := by
  induction units with
  | nil => rw [List.nil_append, specialsOf, Nat.zero_add]
  | cons unit rest ih => rw [List.cons_append, specialsOf, specialsOf, ih, Nat.add_assoc]

/-- How many backslashes and quotes are left of a text that follows `n` backslashes. -/
def specialsFrom (n : Nat) (cs : List Char) : Nat :=
  LineUnit.specialsOf (LineUnit.unitsFrom n cs)

theorem specialsOf_run (n : Nat) : LineUnit.specialsOf (LineUnit.run n) = n := by
  unfold LineUnit.run
  split
  · rename_i h
    exact (beq_iff_eq.1 h).symm
  · rfl

@[simp] theorem specialsFrom_nil (n : Nat) : specialsFrom n [] = n :=
  specialsOf_run n

@[simp] theorem specialsFrom_backslash (n : Nat) (cs : List Char) :
    specialsFrom n ('\\' :: cs) = specialsFrom (n + 1) cs := by
  simp [specialsFrom, LineUnit.unitsFrom]

@[simp] theorem specialsFrom_quote (n : Nat) (cs : List Char) :
    specialsFrom n ('"' :: cs) = (n + 1) / 2 + specialsFrom 0 cs := by
  simp [specialsFrom, LineUnit.unitsFrom, LineUnit.specialsOf, LineUnit.specials]

theorem specialsFrom_char (n : Nat) {c : Char} (cs : List Char) (hb : c ≠ '\\') (hq : c ≠ '"') :
    specialsFrom n (c :: cs) = n + specialsFrom 0 cs := by
  unfold specialsFrom
  rw [LineUnit.unitsFrom, if_neg hb, if_neg hq, LineUnit.specialsOf_append, specialsOf_run,
    LineUnit.specialsOf, LineUnit.specials, Nat.zero_add]

/-- Whether a scan has nothing of a word unless it has begun one. -/
def Scan.IsSound (scan : Scan) : Prop :=
  scan.begun = false → scan.word = [] ∧ scan.backslashes = 0

theorem Scan.isSound_of_begun {scan : Scan} (h : scan.begun = true) : scan.IsSound := by
  intro hbegun
  rw [h] at hbegun
  contradiction

/-- A reading that has not begun is sound. -/
theorem Scan.isSound_empty : ({} : Scan).IsSound := fun _ => ⟨rfl, rfl⟩

theorem Scan.countP_withBackslashes (scan : Scan) (n : Nat) :
    (scan.withBackslashes n).countP isSpecial = n + scan.word.countP isSpecial := by
  have hreplicate : (List.replicate n '\\').countP isSpecial = n := by
    rw [List.countP_replicate, if_pos (by decide)]
  rw [withBackslashes, List.countP_append, hreplicate]

/-- The word of a scan, if there is one, holds all that the scan has kept. -/
theorem Scan.countP_words {scan : Scan} (h : scan.IsSound) :
    scan.words.flatten.countP isSpecial = scan.word.countP isSpecial + scan.backslashes := by
  unfold words
  cases hbegun : scan.begun with
  | true =>
    rw [if_pos rfl, List.flatten_singleton, List.countP_reverse, countP_withBackslashes,
      Nat.add_comm]
  | false =>
    obtain ⟨hword, hcount⟩ := h hbegun
    simp [hword, hcount]

theorem Scan.begun_quote (scan : Scan) : scan.quote.begun = true := by
  unfold quote
  split
  · rfl
  · rfl

theorem Scan.backslashes_quote (scan : Scan) : scan.quote.backslashes = 0 := by
  unfold quote
  split
  · rfl
  · rfl

/-- Whatever a scan has read, it is sound after the next character. -/
theorem Scan.isSound_next (scan : Scan) (c : Char) : (scan.next c).IsSound := by
  unfold next
  split
  · exact isSound_of_begun rfl
  · split
    · exact isSound_of_begun scan.begun_quote
    · split
      · exact isSound_empty
      · exact isSound_of_begun rfl

/-- A quote that follows an odd number of backslashes is kept with half of them, and one that follows
an even number is not. -/
theorem Scan.countP_quote (scan : Scan) :
    scan.quote.word.countP isSpecial =
      scan.word.countP isSpecial + (scan.backslashes + 1) / 2 := by
  unfold quote
  split
  · rename_i hodd
    have hodd : scan.backslashes % 2 = 1 := by simpa using hodd
    have hquote : isSpecial '"' = true := by decide
    simp only [List.countP_cons_of_pos hquote, countP_withBackslashes]
    omega
  · rename_i heven
    have heven : scan.backslashes % 2 ≠ 1 := by simpa using heven
    simp only [countP_withBackslashes]
    omega

/-- What one character does to the count: what a word that ends takes with it, what the scan keeps and
what is left of the rest are what the scan had and what is left of the text. -/
theorem Scan.countP_next {scan : Scan} (h : scan.IsSound) (c : Char) (rest : List Char) :
    (if scan.ends c then scan.words else []).flatten.countP isSpecial +
        ((scan.next c).word.countP isSpecial + specialsFrom (scan.next c).backslashes rest) =
      scan.word.countP isSpecial + specialsFrom scan.backslashes (c :: rest) := by
  by_cases hb : c = '\\'
  · subst hb
    rw [next_backslash, ends_backslash, specialsFrom_backslash]
    simp [backslash]
  by_cases hq : c = '"'
  · subst hq
    rw [next_quote, ends_quote, countP_quote, backslashes_quote, specialsFrom_quote]
    simp [Nat.add_assoc]
  rw [specialsFrom_char _ _ hb hq]
  cases hends : scan.ends c with
  | true =>
    -- the word ends here, and the scan begins anew
    have hzero : ({} : Scan).backslashes = 0 := rfl
    rw [next_of_ends hends, if_pos rfl, countP_words h, List.countP_nil, hzero]
    omega
  | false =>
    have hplain : ¬ isSpecial c = true := by simp [isSpecial, hb, hq]
    have hword : (scan.plain c).word.countP isSpecial =
        scan.backslashes + scan.word.countP isSpecial := by
      rw [plain, List.countP_cons_of_neg hplain, countP_withBackslashes]
    have hzero : (scan.plain c).backslashes = 0 := rfl
    rw [next_of_not_ends hends hb hq, hword, hzero]
    simp only [Bool.false_eq_true, if_false, List.flatten_nil, List.countP_nil]
    omega

/-- The backslashes and quotes in the words of a text are those that are left of its units. -/
theorem countP_special_splitFrom {scan : Scan} (h : scan.IsSound) (cs : List Char) :
    (splitFrom scan cs).flatten.countP isSpecial =
      scan.word.countP isSpecial + specialsFrom scan.backslashes cs := by
  induction cs generalizing scan with
  | nil => rw [splitFrom, Scan.countP_words h, specialsFrom_nil]
  | cons c rest ih =>
    rw [splitFrom_cons, List.flatten_append, List.countP_append, ih (scan.isSound_next c),
      Scan.countP_next h]

/-! ## Quoting -/

/-- A quote ends the unit that it belongs to. -/
theorem specialsFrom_append_quote (n : Nat) (xs ys : List Char) :
    specialsFrom n (xs ++ '"' :: ys) = specialsFrom n (xs ++ ['"']) + specialsFrom 0 ys := by
  induction xs generalizing n with
  | nil => simp
  | cons c rest ih =>
    by_cases hb : c = '\\'
    · subst hb
      simp [ih]
    by_cases hq : c = '"'
    · subst hq
      simp [ih, Nat.add_assoc]
    rw [List.cons_append, List.cons_append, specialsFrom_char _ _ hb hq,
      specialsFrom_char _ _ hb hq, ih, Nat.add_assoc]

/-- A quote halves the backslashes that stand before it. -/
theorem specialsFrom_replicate_quote (n m : Nat) :
    specialsFrom n (List.replicate m '\\' ++ ['"']) = (n + m + 1) / 2 := by
  induction m generalizing n with
  | zero => simp
  | succ m ih =>
    rw [List.replicate_succ, List.cons_append, specialsFrom_backslash, ih]
    omega

/-- Of a text between quotes, with the backslashes at its end doubled, no more backslashes and quotes
are left than it has, and at least one less for each quote in it. -/
theorem specialsFrom_quoted (n : Nat) (cs : List Char) :
    specialsFrom n (cs ++
        List.replicate (trailingBackslashes (List.replicate n '\\' ++ cs)) '\\' ++ ['"']) +
      cs.count '"' ≤ n + cs.countP isSpecial := by
  induction cs generalizing n with
  | nil =>
    -- the backslashes are doubled, and the closing quote halves them again
    rw [List.append_nil, trailingBackslashes_replicate, List.nil_append,
      specialsFrom_replicate_quote]
    simp only [List.count_nil, List.countP_nil]
    omega
  | cons c rest ih =>
    by_cases hb : c = '\\'
    · subst hb
      have hrest := ih (n + 1)
      have hreplicate : List.replicate n '\\' ++ '\\' :: rest =
          List.replicate (n + 1) '\\' ++ rest := by
        simp [List.replicate_succ']
      have hspecial : isSpecial '\\' = true := by decide
      rw [hreplicate, List.cons_append, List.cons_append, specialsFrom_backslash,
        List.countP_cons_of_pos hspecial, List.count_cons_of_ne (by decide)]
      omega
    have hrest := ih 0
    rw [List.replicate_zero, List.nil_append] at hrest
    rw [trailingBackslashes_append_cons hb, List.cons_append, List.cons_append]
    by_cases hq : c = '"'
    · subst hq
      have hspecial : isSpecial '"' = true := by decide
      rw [specialsFrom_quote, List.countP_cons_of_pos hspecial, List.count_cons_self]
      omega
    · have hplain : isSpecial c = false := by simp [isSpecial, hb, hq]
      rw [specialsFrom_char _ _ hb hq, List.countP_cons_of_neg (by simp [hplain]),
        List.count_cons_of_ne hq]
      omega

/-- What follows a quoted word is counted by itself. -/
theorem specialsFrom_quoteChars_append (cs ys : List Char) :
    specialsFrom 0 (quoteChars cs ++ ys) = specialsFrom 0 (quoteChars cs) + specialsFrom 0 ys := by
  have h := specialsFrom_append_quote 0
    ('"' :: cs ++ List.replicate (trailingBackslashes cs) '\\') ys
  rw [quoteChars, List.append_assoc, List.singleton_append]
  exact h

theorem specialsFrom_quoteChars (cs : List Char) :
    specialsFrom 0 (quoteChars cs) + cs.count '"' ≤ cs.countP isSpecial := by
  have h := specialsFrom_quoted 0 cs
  rw [List.replicate_zero, List.nil_append, Nat.zero_add] at h
  rw [quoteChars, List.cons_append, List.cons_append, specialsFrom_quote]
  simpa using h

/-- Of quoted words with a space between each two no more backslashes and quotes are left than the
words have, and at least one less for each quote. -/
theorem specialsFrom_intercalate (words : List (List Char)) :
    specialsFrom 0 ([' '].intercalate (words.map quoteChars)) + words.flatten.count '"' ≤
      words.flatten.countP isSpecial := by
  induction words with
  | nil => simp
  | cons word rest ih =>
    have hword := specialsFrom_quoteChars word
    rw [List.flatten_cons, List.count_append, List.countP_append]
    cases rest with
    | nil => simpa using hword
    | cons other more =>
      have hspace (cs : List Char) : specialsFrom 0 (' ' :: cs) = specialsFrom 0 cs := by
        rw [specialsFrom_char 0 cs (by decide) (by decide), Nat.zero_add]
      rw [List.map_cons, List.map_cons, List.intercalate_cons_cons, List.append_assoc,
        specialsFrom_quoteChars_append, List.singleton_append, hspace]
      rw [List.map_cons] at ih
      omega

/-! ## There and back -/

theorem isEmpty_quote (word : String) : (quote word).isEmpty = false := by
  have hne : quote word ≠ "" := by
    intro h
    have hlist := congrArg String.toList h
    rw [quote, String.toList_ofList, quoteChars] at hlist
    simp at hlist
  simp [hne]

theorem toList_join_map_quote (args : List String) :
    (join (args.map quote)).toList =
      [' '].intercalate ((args.map String.toList).map quoteChars) := by
  have hfilter : (args.map quote).filter (!·.isEmpty) = args.map quote := by
    rw [List.filter_eq_self]
    intro part hpart
    obtain ⟨arg, -, rfl⟩ := List.mem_map.1 hpart
    rw [isEmpty_quote, Bool.not_false]
  have htoList : String.toList ∘ quote = quoteChars ∘ String.toList := by
    funext arg
    exact String.toList_ofList
  rw [toList_join, hfilter, List.map_map, List.map_map, htoList]

/-- Words that are quoted, joined and read again are the same words if and only if none of them holds
a quote. -/
theorem split_join_map_quote_eq_iff (args : List String) :
    split (join (args.map quote)) = args ↔ ∀ arg ∈ args, '"' ∉ arg.toList := by
  constructor
  · intro h
    have hread : (args.map String.toList) = splitFrom {} (join (args.map quote)).toList := by
      have hmap := congrArg (List.map String.toList) h
      rw [split, List.map_map] at hmap
      rw [← hmap]
      simp [Function.comp_def]
    have hleft := countP_special_splitFrom Scan.isSound_empty (join (args.map quote)).toList
    rw [← hread, toList_join_map_quote] at hleft
    have hlost := specialsFrom_intercalate (args.map String.toList)
    -- as many are left as the words have, so that nothing was lost for a quote
    have hnone : (args.map String.toList).flatten.count '"' = 0 := by
      simp only [List.countP_nil, Nat.zero_add] at hleft
      omega
    intro arg harg hmem
    rw [List.count_eq_zero] at hnone
    exact hnone (List.mem_flatten.2 ⟨arg.toList, List.mem_map.2 ⟨arg, harg, rfl⟩, hmem⟩)
  · intro h
    rw [split_join (endsOutside_map_quote h), flatMap_split_quote h]

end BuildAnalysis.CommandLine
