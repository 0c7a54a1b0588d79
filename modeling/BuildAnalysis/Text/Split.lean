/-!
# Parts of a text between separators

A text with `n` separators has `n + 1` parts. Putting the separators back gives the text again.
-/

namespace BuildAnalysis.Text

/-- The parts of a text between the characters `separator`. -/
def split (separator : Char) : List Char → List (List Char)
  | [] => [[]]
  | c :: rest =>
    if c == separator then [] :: split separator rest
    else
      match split separator rest with
      | [] => [[c]]
      | part :: others => (c :: part) :: others

/-- Parts with a separator between each two. -/
def unsplit (separator : Char) : List (List Char) → List Char
  | [] => []
  | [part] => part
  | part :: others => part ++ separator :: unsplit separator others

theorem split_ne_nil (separator : Char) (cs : List Char) : split separator cs ≠ [] := by
  cases cs with
  | nil => simp [split]
  | cons c rest =>
    rw [split]
    split
    · simp
    · split <;> simp

theorem unsplit_split (separator : Char) (cs : List Char) :
    unsplit separator (split separator cs) = cs := by
  induction cs with
  | nil => rfl
  | cons c rest ih =>
    rw [split]
    split
    · next h =>
      rw [unsplit, ih]
      · simp [beq_iff_eq.mp h]
      · exact split_ne_nil separator rest
    · cases hs : split separator rest with
      | nil => exact absurd hs (split_ne_nil separator rest)
      | cons part others =>
        rw [hs] at ih
        cases others with
        | nil => simpa [unsplit] using ih
        | cons next more => simpa [unsplit] using ih

theorem not_mem_of_mem_split {separator : Char} {cs part : List Char}
    (h : part ∈ split separator cs) : separator ∉ part := by
  induction cs generalizing part with
  | nil =>
    have : part = [] := by simpa [split] using h
    simp [this]
  | cons c rest ih =>
    rw [split] at h
    split at h
    · rcases List.mem_cons.mp h with rfl | h
      · simp
      · exact ih h
    · next hc =>
      have hne : separator ≠ c := fun e => hc (by simp [e])
      cases hs : split separator rest with
      | nil => exact absurd hs (split_ne_nil separator rest)
      | cons first others =>
        simp only [hs, List.mem_cons] at h
        rcases h with rfl | h
        · have : separator ∉ first := ih (by simp [hs])
          simp [hne, this]
        · exact ih (by simp [hs, h])

/-- The parts hold no characters but those of the text. -/
theorem mem_of_mem_split {separator c : Char} {cs part : List Char}
    (h : part ∈ split separator cs) (hc : c ∈ part) : c ∈ cs := by
  induction cs generalizing part with
  | nil =>
    have hpart : part = [] := by simpa [split] using h
    simp [hpart] at hc
  | cons d rest ih =>
    rw [split] at h
    split at h
    · rcases List.mem_cons.mp h with rfl | h
      · simp at hc
      · exact List.mem_cons_of_mem d (ih h hc)
    · cases hs : split separator rest with
      | nil => exact absurd hs (split_ne_nil separator rest)
      | cons first others =>
        simp only [hs, List.mem_cons] at h
        rcases h with rfl | h
        · rcases List.mem_cons.mp hc with rfl | hc
          · exact List.mem_cons_self
          · exact List.mem_cons_of_mem d (ih (by simp [hs]) hc)
        · exact List.mem_cons_of_mem d (ih (by simp [hs, h]) hc)

theorem split_append_cons (separator : Char) (xs ys : List Char) :
    split separator (xs ++ separator :: ys) = split separator xs ++ split separator ys := by
  induction xs with
  | nil => simp [split]
  | cons c rest ih =>
    by_cases hc : c = separator
    · simp [split, hc, ih]
    · cases hs : split separator rest with
      | nil => exact absurd hs (split_ne_nil separator rest)
      | cons first others => simp [split, hc, ih, hs]

theorem split_of_not_mem {separator : Char} {cs : List Char} (h : separator ∉ cs) :
    split separator cs = [cs] := by
  induction cs with
  | nil => rfl
  | cons c rest ih =>
    have hc : ¬c = separator := fun e => h (by simp [e])
    have hrest : separator ∉ rest := fun hm => h (by simp [hm])
    simp [split, hc, ih hrest]

/-- Parts without a separator are the parts of the text that they make, if there are any. -/
theorem split_unsplit {separator : Char} {parts : List (List Char)} (hne : parts ≠ [])
    (h : ∀ part ∈ parts, separator ∉ part) : split separator (unsplit separator parts) = parts := by
  induction parts with
  | nil => exact absurd rfl hne
  | cons part others ih =>
    obtain ⟨hpart, hothers⟩ := List.forall_mem_cons.1 h
    cases others with
    | nil => exact split_of_not_mem hpart
    | cons next more =>
      rw [unsplit, split_append_cons, split_of_not_mem hpart,
        ih (List.cons_ne_nil _ _) hothers, List.singleton_append]
      exact List.cons_ne_nil _ _

end BuildAnalysis.Text
