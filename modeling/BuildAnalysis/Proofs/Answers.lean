import Mathlib.Data.List.Forall2

/-!
# Answers that may be failures

An answer that is made from others is there if all of them are. Each statement takes one step of
such an answer apart.
-/

namespace BuildAnalysis

variable {ε ε' α β : Type}

/-- An answer that goes on after another one is there if both are. -/
theorem bind_eq_ok {x : Except ε α} {f : α → Except ε β} {b : β} :
    (x >>= f) = .ok b ↔ ∃ a, x = .ok a ∧ f a = .ok b := by
  cases x with
  | error e => exact ⟨fun h => (by cases h), fun ⟨_, h, _⟩ => (by cases h)⟩
  | ok a => exact ⟨fun h => ⟨a, rfl, h⟩, fun ⟨_, h, h'⟩ => (by cases h; exact h')⟩

theorem mapError_error (f : ε → ε') (e : ε) :
    (Except.error e : Except ε α).mapError f = .error (f e) := rfl

theorem mapError_ok (f : ε → ε') (a : α) : (Except.ok a : Except ε α).mapError f = .ok a := rfl

/-- A failure may be told in other words; the answer stays the same. -/
theorem mapError_eq_ok {x : Except ε α} {f : ε → ε'} {a : α} :
    x.mapError f = .ok a ↔ x = .ok a := by
  cases x with
  | error e => simp [mapError_error]
  | ok a => simp [mapError_ok]

theorem map_eq_ok {x : Except ε α} {f : α → β} {b : β} :
    x.map f = .ok b ↔ ∃ a, x = .ok a ∧ f a = b := by
  cases x with
  | error e => simp [Except.map]
  | ok a => simp [Except.map]

/-- Two answers of which the same is seen are failures that are the same, or are both there. -/
theorem map_eq_map {x y : Except ε α} {f : α → β} (h : y.map f = x.map f) :
    (∃ e, x = .error e ∧ y = .error e) ∨ ∃ a b, x = .ok a ∧ y = .ok b ∧ f b = f a := by
  cases x with
  | error e =>
    cases y with
    | error e' =>
      cases h
      exact .inl ⟨e, rfl, rfl⟩
    | ok b => cases h
  | ok a =>
    cases y with
    | error e' => cases h
    | ok b => exact .inr ⟨a, b, rfl, rfl, Except.ok.inj h⟩

theorem toOption_eq_some {x : Except ε α} {a : α} : x.toOption = some a ↔ x = .ok a := by
  cases x with
  | error e => simp [Except.toOption]
  | ok a => simp [Except.toOption]

/-- The answers to all of several questions are there if each of them is. -/
theorem mapM_eq_ok {f : α → Except ε β} {as : List α} {bs : List β} :
    as.mapM f = .ok bs ↔ List.Forall₂ (fun a b => f a = .ok b) as bs := by
  induction as generalizing bs with
  | nil =>
    rw [List.mapM_nil, List.forall₂_nil_left_iff]
    exact ⟨fun h => by cases h; rfl, fun h => by rw [h]; rfl⟩
  | cons a rest ih =>
    rw [List.mapM_cons, bind_eq_ok, List.forall₂_cons_left_iff]
    constructor
    · rintro ⟨b, hb, hrest⟩
      obtain ⟨others, hothers, hbs⟩ := bind_eq_ok.1 hrest
      cases hbs
      exact ⟨b, others, hb, ih.1 hothers, rfl⟩
    · rintro ⟨b, others, hb, hothers, rfl⟩
      exact ⟨b, hb, bind_eq_ok.2 ⟨others, ih.2 hothers, rfl⟩⟩

/-- There are answers to all of several questions exactly if there is one to each. -/
theorem exists_mapM_eq_ok {f : α → Except ε β} {as : List α} :
    (∃ bs, as.mapM f = .ok bs) ↔ ∀ a ∈ as, ∃ b, f a = .ok b := by
  simp only [mapM_eq_ok]
  induction as with
  | nil => simp
  | cons a rest ih =>
    simp only [List.forall₂_cons_left_iff, List.forall_mem_cons, ← ih]
    constructor
    · rintro ⟨_, b, others, hb, hothers, rfl⟩
      exact ⟨⟨b, hb⟩, others, hothers⟩
    · rintro ⟨⟨b, hb⟩, others, hothers⟩
      exact ⟨b :: others, b, others, hb, hothers, rfl⟩

/-- Answers that are made from all of several values, where it is known when there is one and which
it is. -/
theorem mapM_eq_ok_iff {f : α → Except ε β} {P : α → Prop} {Q : β → Prop} {g : α → β}
    (hf : ∀ a b, f a = .ok b ∧ Q b ↔ P a ∧ b = g a) {as : List α} {bs : List β} :
    (as.mapM f = .ok bs ∧ ∀ b ∈ bs, Q b) ↔ (∀ a ∈ as, P a) ∧ bs = as.map g := by
  rw [mapM_eq_ok]
  induction as generalizing bs with
  | nil =>
    rw [List.forall₂_nil_left_iff]
    constructor
    · rintro ⟨rfl, -⟩
      exact ⟨by simp, rfl⟩
    · rintro ⟨-, rfl⟩
      exact ⟨rfl, by simp⟩
  | cons a rest ih =>
    rw [List.forall₂_cons_left_iff, List.forall_mem_cons, List.map_cons]
    constructor
    · rintro ⟨⟨b, others, hb, hothers, rfl⟩, hall⟩
      obtain ⟨hQ, hrest⟩ := List.forall_mem_cons.1 hall
      obtain ⟨hP, rfl⟩ := (hf a b).1 ⟨hb, hQ⟩
      obtain ⟨hPrest, rfl⟩ := ih.1 ⟨hothers, hrest⟩
      exact ⟨⟨hP, hPrest⟩, rfl⟩
    · rintro ⟨⟨hP, hPrest⟩, rfl⟩
      obtain ⟨hb, hQ⟩ := (hf a (g a)).2 ⟨hP, rfl⟩
      obtain ⟨hothers, hrest⟩ := ih.2 ⟨hPrest, rfl⟩
      exact ⟨⟨_, _, hb, hothers, rfl⟩, List.forall_mem_cons.2 ⟨hQ, hrest⟩⟩

end BuildAnalysis
