import BuildAnalysis.Text.Lowercase

/-!
# The lower case of texts with a number

How a capital sigma is written in lower case depends on the characters around it, but a hyphen ends
every word, so that what follows a hyphen does not matter to what stands before it. A hyphen with a
number after it has no capital letters at all, and a dot is the lower case of nothing but a dot.

* `lower_append_number`: the lower case of a text with a number.
* `lower_append`: the lower case of texts without a capital sigma.
* `dot_mem_lowerFrom`: where the lower case of a text has a dot.
-/

namespace BuildAnalysis.Text

/-- Whether the search for a cased character ends at a character, without finding a cased one. -/
def EndsWord (c : Char) : Prop :=
  isCaseIgnorable c = false ∧ isCased c = false

theorem endsWord_hyphen : EndsWord '-' := by
  constructor
  · decide +kernel
  · decide +kernel

/-- What follows the end of a word does not matter to what stands before it. -/
theorem meetsCased_append {c : Char} (hc : EndsWord c) (cs rest : List Char) :
    meetsCased (cs ++ c :: rest) = meetsCased cs := by
  unfold meetsCased
  rw [List.find?_append]
  cases hfind : cs.find? fun c => !isCaseIgnorable c with
  | some found => rw [Option.some_or]
  | none =>
    have hstop : (c :: rest).find? (fun c => !isCaseIgnorable c) = some c :=
      List.find?_cons_of_pos (by simp [hc.1])
    rw [hstop, Option.none_or]
    exact hc.2

/-- The end of a word divides the lower case of a text. -/
theorem lowerFrom_append {c : Char} (hc : EndsWord c) (before cs rest : List Char) :
    lowerFrom before (cs ++ c :: rest) =
      lowerFrom before cs ++ lowerFrom (cs.reverse ++ before) (c :: rest) := by
  induction cs generalizing before with
  | nil => rfl
  | cons d more ih =>
    have hmore := ih (d :: before)
    rw [List.cons_append, lowerFrom, hmore, meetsCased_append hc, List.reverse_cons,
      List.append_assoc, List.singleton_append, ← List.append_assoc]
    rfl

/-- Whether a character is its own lower case, whatever stands around it. -/
def IsLower (c : Char) : Prop :=
  c ≠ '\u03a3' ∧ lowerChar c = [c]

theorem isLower_hyphen : IsLower '-' := by
  constructor
  · decide
  · rfl

theorem isLower_of_isDigit {c : Char} (h : c.isDigit = true) : IsLower c := by
  have hrange : '0'.toNat ≤ c.toNat ∧ c.toNat ≤ '9'.toNat := by
    unfold Char.isDigit at h
    simpa [UInt32.le_iff_toNat_le] using h
  have hzero : '0'.toNat = 48 := rfl
  have hnine : '9'.toNat = 57 := rfl
  constructor
  · rintro rfl
    have hsigma : '\u03a3'.toNat = 931 := rfl
    omega
  · have hupper : ¬ (c.val ≥ 'A'.val ∧ c.val ≤ 'Z'.val) := by
      rintro ⟨hfirst, -⟩
      have hfirst : 'A'.toNat ≤ c.toNat := UInt32.le_iff_toNat_le.1 hfirst
      have hcapital : 'A'.toNat = 65 := rfl
      omega
    have hsmall : c.toNat < 0x80 := by omega
    have hsame : c.toLower = c := dif_neg hupper
    rw [lowerChar, if_pos hsmall, hsame]

theorem lowerFrom_eq_self {cs : List Char} (h : ∀ c ∈ cs, IsLower c) (before : List Char) :
    lowerFrom before cs = cs := by
  induction cs generalizing before with
  | nil => rfl
  | cons c rest ih =>
    obtain ⟨hsigma, hlower⟩ := h c List.mem_cons_self
    have hrest := ih (fun d hd => h d (List.mem_cons_of_mem _ hd)) (c :: before)
    rw [lowerFrom, hrest, if_neg (by simpa using hsigma), hlower, List.singleton_append]

/-- The digits of a number. -/
theorem isDigit_of_mem_toString {n : Nat} {c : Char} (h : c ∈ (toString n).toList) :
    c.isDigit = true := by
  rw [Nat.toString_eq_repr, Nat.toList_repr] at h
  exact Nat.isDigit_of_mem_toDigits (by decide) (by decide) h

/-- A number that is put behind a text with a hyphen stays as it is in lower case, and nothing else
changes. -/
theorem lower_append_number (s : String) (n : Nat) :
    lower (s ++ "-" ++ toString n) = lower s ++ "-" ++ toString n := by
  have hchars : (s ++ "-" ++ toString n).toList = s.toList ++ '-' :: (toString n).toList := by
    rw [String.toList_append, String.toList_append, List.append_assoc]
    rfl
  have hnumber : ∀ c ∈ '-' :: (toString n).toList, IsLower c := by
    intro c hc
    rcases List.mem_cons.1 hc with rfl | hdigit
    · exact isLower_hyphen
    · exact isLower_of_isDigit (isDigit_of_mem_toString hdigit)
  rw [← String.toList_inj, lower, String.toList_ofList, hchars,
    lowerFrom_append endsWord_hyphen, lowerFrom_eq_self hnumber, String.toList_append,
    String.toList_append, lower, String.toList_ofList, List.append_assoc]
  rfl

/-! ## Capital sigmas -/

/-- Without a capital sigma each character has its lower case wherever it stands. -/
theorem lowerFrom_eq_flatMap {cs : List Char} (h : '\u03a3' ∉ cs) (before : List Char) :
    lowerFrom before cs = cs.flatMap lowerChar := by
  induction cs generalizing before with
  | nil => rfl
  | cons c rest ih =>
    rw [List.mem_cons, not_or] at h
    have hsigma : ¬ (c == '\u03a3') = true := fun hsame => h.1 (beq_iff_eq.1 hsame).symm
    rw [lowerFrom, ih h.2, if_neg hsigma, List.flatMap_cons]

theorem lower_append {s t : String} (hs : '\u03a3' ∉ s.toList) (ht : '\u03a3' ∉ t.toList) :
    lower (s ++ t) = lower s ++ lower t := by
  have hboth : '\u03a3' ∉ (s ++ t).toList := by
    rw [String.toList_append, List.mem_append, not_or]
    exact ⟨hs, ht⟩
  rw [lower, lower, lower, lowerFrom_eq_flatMap hboth, lowerFrom_eq_flatMap hs,
    lowerFrom_eq_flatMap ht, String.toList_append, List.flatMap_append, String.ofList_append]

/-- A capital sigma becomes a small one, be it a final one or not. -/
theorem sigma_mem_lowerFrom {cs : List Char} (h : '\u03a3' ∈ cs) (before : List Char) :
    '\u03c2' ∈ lowerFrom before cs ∨ '\u03c3' ∈ lowerFrom before cs := by
  obtain ⟨front, rest, rfl⟩ := List.append_of_mem h
  clear h
  induction front generalizing before with
  | nil =>
    rw [List.nil_append, lowerFrom, if_pos (by decide)]
    split
    · exact .inl (List.mem_append_left _ List.mem_cons_self)
    · exact .inr (List.mem_append_left _ List.mem_cons_self)
  | cons c more ih =>
    rw [List.cons_append, lowerFrom]
    exact (ih (c :: before)).imp (List.mem_append_right _) (List.mem_append_right _)

/-- So a text has none if its lower case has no sigma. -/
theorem sigma_not_mem_of_lower {s : String} (hfinal : '\u03c2' ∉ (lower s).toList)
    (hsmall : '\u03c3' ∉ (lower s).toList) : '\u03a3' ∉ s.toList := by
  rw [lower, String.toList_ofList] at hfinal hsmall
  exact fun hmem => (sigma_mem_lowerFrom hmem []).elim hfinal hsmall

/-! ## Dots -/

/-- A character behind the dot is none. -/
theorem ofNat_ne_dot {n : Nat} (h : 46 < n) : Char.ofNat n ≠ '.' := by
  intro hdot
  by_cases hvalid : n.isValidChar
  · rw [Char.ofNat, dif_pos hvalid] at hdot
    have hnat : n = 46 := congrArg Char.toNat hdot
    omega
  · rw [Char.ofNat, dif_neg hvalid] at hdot
    exact absurd hdot (by decide)

/-- A dot is the lower case of a dot alone: the lower case of every other character lies behind it,
or is that character. -/
theorem dot_mem_lowerChar {c : Char} : '.' ∈ lowerChar c ↔ c = '.' := by
  have hascii : ∀ n < 0x80, '.' = (Char.ofNat n).toLower → Char.ofNat n = '.' := by decide
  have hruns : ∀ r ∈ caseRuns, (46 : Int) < r.first + r.shift := by decide +kernel
  constructor
  · intro h
    unfold lowerChar at h
    split at h
    · rename_i hsmall
      have hc := hascii c.toNat hsmall
      rw [Char.ofNat_toNat] at hc
      exact hc (List.mem_singleton.1 h)
    · split at h
      · exact absurd h (by decide)
      · split at h
        · rename_i r hr
          have hrun := hruns r (List.mem_of_find?_eq_some hr)
          have hfirst : r.first ≤ c.toNat := by
            have hin := List.find?_some hr
            simp only [Bool.and_eq_true, decide_eq_true_eq] at hin
            exact hin.1.1
          exact absurd (List.mem_singleton.1 h).symm (ofNat_ne_dot (by omega))
        · exact (List.mem_singleton.1 h).symm
  · rintro rfl
    decide

/-- The lower case of a text has a dot exactly if the text has one. -/
theorem dot_mem_lowerFrom {cs : List Char} (before : List Char) :
    '.' ∈ lowerFrom before cs ↔ '.' ∈ cs := by
  induction cs generalizing before with
  | nil => rfl
  | cons c rest ih =>
    rw [lowerFrom, List.mem_append, ih, List.mem_cons]
    refine or_congr_left ?_
    split
    · rename_i hsigma
      obtain rfl : c = '\u03a3' := by simpa using hsigma
      refine iff_of_false ?_ (by decide)
      split
      · decide
      · decide
    · rw [dot_mem_lowerChar, eq_comm]

/-- Every character has a lower case. -/
theorem lowerChar_ne_nil (c : Char) : lowerChar c ≠ [] := by
  unfold lowerChar
  split
  · simp
  · split
    · simp
    · split
      · simp
      · simp

/-- A text whose lower case begins with its only dot begins with its only dot. -/
theorem eq_dot_cons_of_lowerFrom {before cs lowered : List Char}
    (h : lowerFrom before cs = '.' :: lowered) (hdot : '.' ∉ lowered) :
    ∃ rest, cs = '.' :: rest ∧ '.' ∉ rest := by
  cases cs with
  | nil => cases h
  | cons c rest =>
    rw [lowerFrom] at h
    have hsigma : ¬ (c == '\u03a3') = true := by
      intro hsigma
      rw [if_pos hsigma] at h
      have hhead := List.head_eq_of_cons_eq h
      split at hhead
      · exact absurd hhead (by decide)
      · exact absurd hhead (by decide)
    rw [if_neg hsigma] at h
    obtain rfl : c = '.' := by
      cases hc : lowerChar c with
      | nil => exact absurd hc (lowerChar_ne_nil c)
      | cons first more =>
        rw [hc, List.cons_append] at h
        rw [← dot_mem_lowerChar, hc, List.head_eq_of_cons_eq h]
        exact List.mem_cons_self
    have hrest := List.tail_eq_of_cons_eq h
    refine ⟨rest, rfl, fun hmem => hdot ?_⟩
    rw [← hrest]
    exact (dot_mem_lowerFrom _).2 hmem

end BuildAnalysis.Text
