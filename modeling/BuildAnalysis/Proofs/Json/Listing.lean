import BuildAnalysis.Proofs.Json.Questions
import BuildAnalysis.Target.Basic

/-!
# Members that list items

A reply may leave a list out. One that is there is an array; an empty text and an empty object list
nothing either. The items of a text that is not empty are its characters, and those of an object are
the names of its members: where the items have to be something else than texts neither is taken.

* `Json.memberItems_eq_ok`: the items of a member that are all of a kind.
* `Json.mapM_memberItems_eq_ok`: the values that are made from them.
* `Json.faultsExpected_memberItems`: how a question for the items of a member fails.
-/

namespace BuildAnalysis

namespace Json

variable {α β : Type} {value : Json} {name : String} {P : Json → Prop}

/-- Whether a member is absent, is empty, or is an array of items that are all of a kind. -/
def Lists (value : Json) (name : String) (P : Json → Prop) : Prop :=
  ∀ member, value.find name = some member →
    member = .string "" ∨ member = .object [] ∨
      ∃ items, member = .array items ∧ ∀ item ∈ items, P item

/-- The items that a member lists. -/
def listed (value : Json) (name : String) : List Json :=
  match value.find name with
  | some (.array items) => items
  | _ => []

/-- Whether a value is an object that has a member with a name. -/
def Has (value : Json) (name : String) : Prop :=
  ∃ member, value.find name = some member

/-- The member with a name that a value has. -/
def get (value : Json) (name : String) : Json :=
  (value.find name).getD .null

theorem not_has_string (s name : String) : ¬ (Json.string s).Has name := by
  rintro ⟨member, h⟩
  cases h

theorem Has.kind (h : value.Has name) : value.kind = .object := by
  obtain ⟨member, h⟩ := h
  cases value with
  | object members => rfl
  | _ => cases h

theorem member_eq_ok_iff_has {v : Json} :
    value.member name = .ok v ↔ value.Has name ∧ v = value.get name := by
  rw [member_eq_ok, Has, get]
  cases value.find name with
  | none => simp
  | some member => simp [eq_comm]

theorem lists_of_find_eq_array {items : List Json} (h : value.find name = some (.array items))
    (hall : ∀ item ∈ items, P item) : value.Lists name P := by
  intro member hmember
  rw [h] at hmember
  cases hmember
  exact .inr (.inr ⟨items, rfl, hall⟩)

/-- What a member has to be for its items to be asked for. -/
theorem memberItems_iff {items : List Json} :
    value.memberItems name = .ok items ↔
      value.kind = .object ∧ ((value.find name).getD (.array [])).items = .ok items := by
  rw [memberItems, bind_eq_ok]
  constructor
  · rintro ⟨member, hmember, hitems⟩
    obtain ⟨hkind, rfl⟩ := memberD_eq_ok.1 hmember
    exact ⟨hkind, hitems⟩
  · rintro ⟨hkind, hitems⟩
    exact ⟨_, memberD_eq_ok.2 ⟨hkind, rfl⟩, hitems⟩

/-- Texts are not of a kind to which no text belongs, unless there are none of them. -/
theorem forall_map_string {γ : Type} (hP : ∀ s, ¬ P (.string s)) {f : γ → String} {xs : List γ} :
    (∀ item ∈ xs.map fun x => Json.string (f x), P item) ↔ xs = [] := by
  cases xs with
  | nil => simp
  | cons x rest => simp [hP]

/-- The items of a member are all of a kind, to which no text belongs, exactly if the member lists
such items. -/
theorem memberItems_eq_ok (hP : ∀ s, ¬ P (.string s)) {items : List Json} :
    (value.memberItems name = .ok items ∧ ∀ item ∈ items, P item) ↔
      value.kind = .object ∧ value.Lists name P ∧ items = value.listed name := by
  rw [memberItems_iff, and_assoc]
  refine and_congr_right fun _ => ?_
  rw [Lists, listed]
  cases value.find name with
  | none =>
    constructor
    · rintro ⟨hitems, -⟩
      cases hitems
      exact ⟨fun _ h => (by cases h), rfl⟩
    · rintro ⟨-, rfl⟩
      exact ⟨rfl, by simp⟩
  | some member =>
    simp only [Option.getD_some, Option.some.injEq, forall_eq']
    cases member with
    | array list =>
      constructor
      · rintro ⟨hitems, hall⟩
        cases hitems
        exact ⟨.inr (.inr ⟨items, rfl, hall⟩), rfl⟩
      · rintro ⟨hlist, rfl⟩
        rcases hlist with h | h | ⟨others, h, hall⟩
        · cases h
        · cases h
        · cases h
          exact ⟨rfl, hall⟩
    | string s =>
      constructor
      · rintro ⟨hitems, hall⟩
        cases hitems
        have hnone := (forall_map_string hP).1 hall
        exact ⟨.inl (congrArg _ (String.toList_eq_nil_iff.1 hnone)), by rw [hnone]; rfl⟩
      · rintro ⟨hlist, rfl⟩
        rcases hlist with h | h | ⟨others, h, -⟩
        · cases h
          exact ⟨rfl, by simp⟩
        · cases h
        · cases h
    | object members =>
      constructor
      · rintro ⟨hitems, hall⟩
        cases hitems
        have hnone := (forall_map_string hP).1 hall
        exact ⟨.inr (.inl (congrArg _ hnone)), by rw [hnone]; rfl⟩
      · rintro ⟨hlist, rfl⟩
        rcases hlist with h | h | ⟨others, h, -⟩
        · cases h
        · cases h
          exact ⟨rfl, by simp⟩
        · cases h
    | null => simp [Json.items]
    | bool b => simp [Json.items]
    | integer n => simp [Json.items]
    | float x => simp [Json.items]

section

variable {Q : β → Prop} {f : Json → Except Fault β} {g : Json → β}

/-- Values are made from the items of a member exactly if it lists items that are all of the kind from
which they can be made. -/
theorem mapM_memberItems_eq_ok (hf : ∀ item b, f item = .ok b ∧ Q b ↔ P item ∧ b = g item)
    (hP : ∀ s, ¬ P (.string s)) {bs : List β} :
    ((∃ items, value.memberItems name = .ok items ∧ items.mapM f = .ok bs) ∧ ∀ b ∈ bs, Q b) ↔
      value.kind = .object ∧ value.Lists name P ∧ bs = (value.listed name).map g := by
  constructor
  · rintro ⟨⟨items, hitems, hmap⟩, hall⟩
    obtain ⟨hkind, rfl⟩ := (mapM_eq_ok_iff hf).1 ⟨hmap, hall⟩
    obtain ⟨hobject, hlists, rfl⟩ := (memberItems_eq_ok hP).1 ⟨hitems, hkind⟩
    exact ⟨hobject, hlists, rfl⟩
  · rintro ⟨hobject, hlists, rfl⟩
    obtain ⟨hitems, hkind⟩ := (memberItems_eq_ok hP).2 ⟨hobject, hlists, rfl⟩
    obtain ⟨hmap, hall⟩ := (mapM_eq_ok_iff hf).2 ⟨hkind, rfl⟩
    exact ⟨⟨_, hitems, hmap⟩, hall⟩

/-- The same without a condition on the values that are made. -/
theorem mapM_memberItems_iff (hf : ∀ item b, f item = .ok b ↔ P item ∧ b = g item)
    (hP : ∀ s, ¬ P (.string s)) {bs : List β} :
    (∃ items, value.memberItems name = .ok items ∧ items.mapM f = .ok bs) ↔
      value.kind = .object ∧ value.Lists name P ∧ bs = (value.listed name).map g := by
  have hall : ∀ item b, f item = .ok b ∧ True ↔ P item ∧ b = g item := by
    simpa only [and_true] using hf
  rw [← mapM_memberItems_eq_ok hall hP]
  simp only [implies_true, and_true]

/-- Of items that are objects the members with a name are taken. -/
theorem members_eq_ok {key : String} {members : List Json} :
    (∃ items, value.memberItems name = .ok items ∧ items.mapM (·.member key) = .ok members) ↔
      value.kind = .object ∧ value.Lists name (·.Has key) ∧
        members = (value.listed name).map (·.get key) :=
  mapM_memberItems_iff (fun _ _ => member_eq_ok_iff_has) fun s => not_has_string s key

end

/-! ## Faults -/

/-- Whether a fault is of one of the classes that the reading of a reply looks out for. -/
def Fault.IsExpected (fault : Fault) : Prop :=
  fault.word = "KeyError" ∨ fault.word = "TypeError" ∨ fault.word = "AttributeError"

/-- Whether an answer, if there is none, is a fault that is expected. -/
def FaultsExpected (answer : Except Fault α) : Prop :=
  ∀ fault, answer = .error fault → fault.IsExpected

theorem faultsExpected_ok (a : α) : FaultsExpected (.ok a : Except Fault α) := by
  intro fault h
  cases h

theorem FaultsExpected.bind {answer : Except Fault α} {rest : α → Except Fault β}
    (h : FaultsExpected answer) (hrest : ∀ a, FaultsExpected (rest a)) :
    FaultsExpected (answer >>= rest) := by
  cases answer with
  | ok a => exact hrest a
  | error fault =>
    intro other hother
    cases hother
    exact h fault rfl

theorem FaultsExpected.map {answer : Except Fault α} (h : FaultsExpected answer) (f : α → β) :
    FaultsExpected (answer.map f) := by
  cases answer with
  | ok a => exact faultsExpected_ok (f a)
  | error fault =>
    intro other hother
    cases hother
    exact h fault rfl

theorem faultsExpected_mapM {f : α → Except Fault β} (h : ∀ a, FaultsExpected (f a))
    (as : List α) : FaultsExpected (as.mapM f) := by
  induction as with
  | nil => exact faultsExpected_ok []
  | cons a rest ih =>
    rw [List.mapM_cons]
    exact (h a).bind fun b => ih.bind fun others => faultsExpected_ok (b :: others)

theorem faultsExpected_member (value : Json) (name : String) :
    FaultsExpected (value.member name) := by
  intro fault h
  cases value with
  | object members =>
    rw [member] at h
    split at h
    · cases h
    · cases h
      exact .inl rfl
  | _ =>
    cases h
    exact .inr (.inl rfl)

theorem faultsExpected_memberD (value : Json) (name : String) (absent : Json) :
    FaultsExpected (value.memberD name absent) := by
  refine FaultsExpected.map (fun fault h => ?_) _
  cases value with
  | object members => cases h
  | _ =>
    cases h
    exact .inr (.inr rfl)

theorem faultsExpected_items (value : Json) : FaultsExpected value.items := by
  intro fault h
  cases value with
  | array list => cases h
  | string s => cases h
  | object members => cases h
  | _ =>
    cases h
    exact .inr (.inl rfl)

theorem faultsExpected_memberItems (value : Json) (name : String) :
    FaultsExpected (value.memberItems name) :=
  (faultsExpected_memberD value name _).bind faultsExpected_items

end Json

end BuildAnalysis
