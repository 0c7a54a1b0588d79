import BuildAnalysis.Proofs.CommandLine.QuotedWord

/-!
# Command lines part by part

Behind a text that leaves no quote open a blank makes the reader forget all that it carries: the
word begun and the backslashes that wait for their meaning. So what follows is read for itself.
Behind any other text it is not, since the blank goes on with the word. Parts are joined by spaces,
so that they are read one by one, and those that were joined before are so as well.

* `endsOutside_iff_split`: the texts that a blank divides from what follows.
* `join_join`: parts that were joined before.
* `readsInParts`: how command lines are read part by part.
-/

namespace BuildAnalysis.CommandLine

/-! ## Blanks behind a text -/

/-- A character that belongs to the word is the last one of it, behind all backslashes. -/
theorem Scan.words_plain (scan : Scan) (c : Char) :
    (scan.plain c).words = [scan.text.reverse ++ [c]] := by
  rw [words, plain, if_pos rfl, withBackslashes, List.replicate_zero, List.nil_append,
    List.reverse_cons]
  rfl

/-- No scan has a word that is one character longer than its own. -/
theorem Scan.words_plain_ne (scan : Scan) (c : Char) : (scan.plain c).words ≠ scan.words := by
  rw [words_plain, words]
  split
  · intro h
    have hword : scan.text.reverse ++ [c] = scan.text.reverse := List.singleton_inj.1 h
    simp at hword
  · simp

/-- A blank within quotes goes on with the word, so that the words are not those before it. -/
theorem splitFrom_append_blank_ne {scan : Scan} {xs : List Char} {c : Char}
    (hc : Text.isBlank c = true) (h : (scan.after xs).quoted = true) :
    splitFrom scan (xs ++ [c]) ≠ splitFrom scan xs := by
  have hends := Scan.ends_of_quoted h c
  have hnext := Scan.next_of_not_ends hends (Text.ne_backslash_of_isBlank hc)
    (Text.ne_quote_of_isBlank hc)
  rw [splitFrom_append, splitFrom_eq_finished scan xs, splitFrom_cons, hends, hnext]
  intro heq
  exact (scan.after xs).words_plain_ne c (List.append_cancel_left heq)

/-- No quote is open at the end of a text if and only if a blank behind it divides the text from
what follows, whatever that is. -/
theorem endsOutside_iff_split {s : String} {c : Char} (hc : Text.isBlank c = true) :
    EndsOutside s ↔ ∀ t, split (s ++ String.singleton c ++ t) = split s ++ split t := by
  constructor
  · intro h t
    exact split_append_blank hc h t
  · intro h
    rw [endsOutside_iff]
    cases hopen : (({} : Scan).after s.toList).quoted with
    | false => rfl
    | true =>
      -- nothing follows, and yet the blank changes the words
      have hnone := h ""
      rw [split_empty, List.append_nil, split, toList_append_singleton_append] at hnone
      have hchars := (List.map_inj_right fun _ _ => String.ofList_injective).1 hnone
      exact absurd hchars (splitFrom_append_blank_ne hc hopen)

/-- Backslashes at the end of a text open no quote and close none. -/
theorem endsOutside_append_backslashes (s : String) (n : Nat) :
    EndsOutside (s ++ String.ofList (List.replicate n '\\')) ↔ EndsOutside s := by
  obtain ⟨-, hquoted, -⟩ := (({} : Scan).after s.toList).after_replicate n
  rw [endsOutside_iff, endsOutside_iff, String.toList_append, String.toList_ofList,
    Scan.after_append, hquoted]

/-- A text of blanks has no words. -/
theorem splitFrom_blanks {cs : List Char} (h : ∀ c ∈ cs, Text.isBlank c = true) :
    splitFrom {} cs = [] := by
  induction cs with
  | nil => rfl
  | cons c rest ih =>
    obtain ⟨hc, hrest⟩ := List.forall_mem_cons.1 h
    have hends : ({} : Scan).ends c = true := Scan.ends_iff.2 ⟨hc, rfl⟩
    rw [splitFrom_cons, if_pos hends, Scan.next_of_ends hends, ih hrest]
    rfl

/-- A text of blanks leaves no quote open, and there are no words in it. -/
theorem endsOutside_of_blanks {s : String} (h : ∀ c ∈ s.toList, Text.isBlank c = true) :
    EndsOutside s ∧ split s = [] := by
  constructor
  · apply endsOutside_of_not_mem
    intro hquote
    exact Text.ne_quote_of_isBlank (h _ hquote) rfl
  · rw [split, splitFrom_blanks h]
    rfl

/-! ## Parts -/

/-- Parts that were joined before are joined as if they had not been. -/
theorem join_join (xs ys : List String) : join [join xs, join ys] = join (xs ++ ys) := by
  calc join ([join xs] ++ [join ys])
      = spaced (join [join xs]) (join [join ys]) := join_append [join xs] [join ys]
    _ = spaced (join xs) (join ys) := by rw [join_singleton, join_singleton]
    _ = join (xs ++ ys) := (join_append xs ys).symm

/-- How command lines are read part by part. -/
structure ReadsInParts : Prop where
  /-- Whether a quote is open at the end of a text is what the reader has kept of it. -/
  scanned : ∀ s, EndsOutside s ↔ (({} : Scan).after s.toList).quoted = false
  /-- A blank divides the texts that leave no quote open from what follows, and no others. -/
  divided : ∀ (s : String) (c : Char), Text.isBlank c = true →
    (EndsOutside s ↔ ∀ t, split (s ++ String.singleton c ++ t) = split s ++ split t)
  /-- Joined parts are read each for itself. -/
  joined : ∀ parts : List String, (∀ part ∈ parts, EndsOutside part) →
    split (join parts) = parts.flatMap split
  /-- It does not matter whether parts were joined before. -/
  nested : ∀ xs ys : List String, join [join xs, join ys] = join (xs ++ ys)
  /-- A part may be empty, or hold blanks only; then there are no words in it. -/
  blanks : ∀ s : String, (∀ c ∈ s.toList, Text.isBlank c = true) → EndsOutside s ∧ split s = []
  /-- A part may end with any number of backslashes. -/
  backslashes : ∀ (s : String) (n : Nat),
    EndsOutside (s ++ String.ofList (List.replicate n '\\')) ↔ EndsOutside s

/-- Parts that leave no quote open are read each for itself, however they were joined. -/
theorem readsInParts : ReadsInParts where
  scanned _ := endsOutside_iff
  divided _ _ hc := endsOutside_iff_split hc
  joined _ h := split_join h
  nested := join_join
  blanks _ h := endsOutside_of_blanks h
  backslashes := endsOutside_append_backslashes

/-- A part that ends with backslashes, before a tab and a part that leaves a quote open; and parts
of which one is empty, one holds blanks only, and one an escaped quote. -/
theorem readsInParts_sample :
    Text.isBlank '\t' = true ∧ EndsOutside "\"a b\" c\\\\" ∧
      split ("\"a b\" c\\\\" ++ String.singleton '\t' ++ "\\\\\" d") = ["a b", "c\\\\", "\\ d"] ∧
      (∀ part ∈ ["", "\t ", "\"a b\" c\\\\", "\\\" d\\"], EndsOutside part) ∧
      split (join ["", "\t ", "\"a b\" c\\\\", "\\\" d\\"]) = ["a b", "c\\\\", "\"", "d\\"] := by
  have hblank : Text.isBlank '\t' = true := by decide
  have hclosed : EndsOutside "\"a b\" c\\\\" := by decide
  have hparts : ∀ part ∈ ["", "\t ", "\"a b\" c\\\\", "\\\" d\\"], EndsOutside part := by decide
  refine ⟨hblank, hclosed, ?_, hparts, ?_⟩
  · rw [(readsInParts.divided _ _ hblank).1 hclosed]
    decide +kernel
  · rw [readsInParts.joined _ hparts]
    decide +kernel

end BuildAnalysis.CommandLine
