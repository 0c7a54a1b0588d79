import BuildAnalysis.Proofs.CommandLine.Reading

/-!
# Reading a quoted word

Between quotes every character stands for itself, as long as it is no quote. The backslashes before
the closing quote are read in pairs, which is why quoting a word doubles those at its end.

* `split_quote`: a quoted word is read as that word.
* `endsOutside_quote`: it leaves no quote open.
-/

namespace BuildAnalysis.CommandLine

namespace Scan

/-- The word begun with the backslashes behind it, last first. -/
def text (scan : Scan) : List Char :=
  scan.withBackslashes scan.backslashes

/-- Inside quotes a character that is no quote is taken as it is. -/
theorem next_within {scan : Scan} {c : Char} (h : scan.quoted = true) (hq : c ≠ '"') :
    (scan.next c).quoted = true ∧ (scan.next c).text = c :: scan.text := by
  by_cases hb : c = '\\'
  · subst hb
    rw [next_backslash]
    exact ⟨h, by simp [text, withBackslashes, backslash, List.replicate_succ]⟩
  · rw [next_of_not_ends (ends_of_quoted h c) hb hq]
    exact ⟨h, by simp [text, withBackslashes, plain]⟩

/-- Inside quotes a text without quotes is taken as it is. -/
theorem after_within {scan : Scan} {cs : List Char} (h : scan.quoted = true) (hcs : '"' ∉ cs) :
    (scan.after cs).quoted = true ∧ (scan.after cs).text = cs.reverse ++ scan.text := by
  induction cs generalizing scan with
  | nil => exact ⟨h, rfl⟩
  | cons c rest ih =>
    have hq : c ≠ '"' := fun e => hcs (by simp [e])
    have hrest : '"' ∉ rest := fun hm => hcs (List.mem_cons_of_mem _ hm)
    obtain ⟨hquoted, htext⟩ := next_within h hq
    obtain ⟨hquoted', htext'⟩ := ih hquoted hrest
    refine ⟨hquoted', ?_⟩
    rw [after_cons, htext', htext, List.reverse_cons, List.append_assoc, List.singleton_append]

/-- No word ends inside quotes. -/
theorem finished_within {scan : Scan} {cs : List Char} (h : scan.quoted = true)
    (hcs : '"' ∉ cs) : scan.finished cs = [] := by
  induction cs generalizing scan with
  | nil => rfl
  | cons c rest ih =>
    have hq : c ≠ '"' := fun e => hcs (by simp [e])
    have hrest : '"' ∉ rest := fun hm => hcs (List.mem_cons_of_mem _ hm)
    rw [finished, ends_of_quoted h, ih (next_within h hq).1 hrest]
    rfl

/-- Backslashes are counted, and nothing else happens. -/
theorem after_replicate (scan : Scan) (n : Nat) :
    (scan.after (List.replicate n '\\')).word = scan.word ∧
      (scan.after (List.replicate n '\\')).quoted = scan.quoted ∧
      (scan.after (List.replicate n '\\')).backslashes = scan.backslashes + n := by
  induction n generalizing scan with
  | zero => exact ⟨rfl, rfl, rfl⟩
  | succ n ih =>
    rw [List.replicate_succ, after_cons, next_backslash]
    obtain ⟨hword, hquoted, hcount⟩ := ih scan.backslash
    refine ⟨hword, hquoted, ?_⟩
    rw [hcount]
    simp only [backslash]
    omega

end Scan

/-- The backslashes at the end of a text are those after any other character. -/
theorem trailingBackslashes_append_cons {c : Char} (hc : c ≠ '\\') (xs ys : List Char) :
    trailingBackslashes (xs ++ c :: ys) = trailingBackslashes ys := by
  have hstop : (c :: xs.reverse).takeWhile (· == '\\') = [] := by simp [hc]
  have hrev : (xs ++ c :: ys).reverse = ys.reverse ++ c :: xs.reverse := by simp
  rw [trailingBackslashes, trailingBackslashes, hrev, List.takeWhile_append, hstop]
  split
  · rename_i hall
    rw [List.append_nil, hall]
  · rfl

theorem trailingBackslashes_replicate (n : Nat) :
    trailingBackslashes (List.replicate n '\\') = n := by
  simp [trailingBackslashes]

/-- Inside quotes the backslashes that wait for their meaning are those at the end of what was
read. -/
theorem Scan.backslashes_within {scan : Scan} {cs : List Char} (h : scan.quoted = true)
    (hcs : '"' ∉ cs) : (scan.after cs).backslashes =
      trailingBackslashes (List.replicate scan.backslashes '\\' ++ cs) := by
  induction cs generalizing scan with
  | nil => simp [trailingBackslashes_replicate]
  | cons c rest ih =>
    have hq : c ≠ '"' := fun e => hcs (by simp [e])
    have hrest : '"' ∉ rest := fun hm => hcs (List.mem_cons_of_mem _ hm)
    rw [after_cons, ih (next_within h hq).1 hrest]
    by_cases hb : c = '\\'
    · subst hb
      simp [backslash, List.replicate_succ']
    · rw [next_of_not_ends (ends_of_quoted h c) hb hq, trailingBackslashes_append_cons hb]
      rfl

/-- A quote closes what was read since the opening one, when the backslashes before it are as many
as the text ends with. -/
theorem Scan.quote_within {scan : Scan} {cs : List Char} (h : scan.quoted = true)
    (hn : scan.backslashes = 0) (hcs : '"' ∉ cs) :
    ((scan.after cs).after (List.replicate (trailingBackslashes cs) '\\')).quote =
      { word := cs.reverse ++ scan.word, begun := true } := by
  obtain ⟨hquoted, htext⟩ := after_within h hcs
  have hcount : (scan.after cs).backslashes = trailingBackslashes cs := by
    rw [backslashes_within h hcs, hn]
    rfl
  obtain ⟨hword', hquoted', hcount'⟩ :=
    (scan.after cs).after_replicate (trailingBackslashes cs)
  -- the backslashes are doubled, and the quote takes half of them for the word
  have hpairs : ((scan.after cs).after
      (List.replicate (trailingBackslashes cs) '\\')).backslashes =
        2 * (scan.after cs).backslashes := by
    rw [hcount', hcount]
    omega
  have hhalf : 2 * (scan.after cs).backslashes / 2 = (scan.after cs).backslashes := by omega
  have heven : 2 * (scan.after cs).backslashes % 2 = 0 := by omega
  have htaken : List.replicate (scan.after cs).backslashes '\\' ++ (scan.after cs).word =
      cs.reverse ++ scan.word := by
    simpa [text, withBackslashes, hn] using htext
  simp [quote, withBackslashes, hpairs, hhalf, heven, hword', hquoted', hquoted, htaken]

/-- The scan after a quoted word holds that word, outside quotes. -/
theorem after_quoteChars {cs : List Char} (h : '"' ∉ cs) :
    ({} : Scan).after (quoteChars cs) = { word := cs.reverse, begun := true } := by
  have hopened : (({} : Scan).quote).quoted = true := rfl
  rw [quoteChars, List.cons_append, List.cons_append, Scan.after_cons, Scan.next_quote,
    Scan.after_append, Scan.after_append, Scan.after_cons, Scan.after_nil, Scan.next_quote,
    Scan.quote_within hopened rfl h]
  simp [Scan.quote, Scan.withBackslashes]

/-- A quoted word ends after its closing quote only. -/
theorem finished_quoteChars {cs : List Char} (h : '"' ∉ cs) :
    ({} : Scan).finished (quoteChars cs) = [] := by
  have hwithin : '"' ∉ cs ++ List.replicate (trailingBackslashes cs) '\\' := by
    simp [h, List.mem_replicate]
  have hopened : (({} : Scan).quote).quoted = true := rfl
  rw [quoteChars, List.cons_append, List.cons_append, Scan.finished, Scan.next_quote,
    Scan.finished_append, Scan.finished_within hopened hwithin]
  simp [Scan.finished]

/-- A quoted word is read as that word. -/
theorem split_quote {word : String} (h : '"' ∉ word.toList) : split (quote word) = [word] := by
  rw [split, quote, String.toList_ofList, splitFrom_eq_finished, finished_quoteChars h,
    after_quoteChars h]
  simp [Scan.words, Scan.withBackslashes]

/-- A quoted word leaves no quote open. -/
theorem endsOutside_quote {word : String} (h : '"' ∉ word.toList) : EndsOutside (quote word) := by
  rw [endsOutside_iff, quote, String.toList_ofList, after_quoteChars h]

end BuildAnalysis.CommandLine
