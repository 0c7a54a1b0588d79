import BuildAnalysis.Proofs.Target.Feed

/-!
# A stretch in pieces

A stretch that is asked for several times is given in pieces. Together the pieces are the commands
from the front of the stretch, as many as the limits add up to. Its failure comes after all of its
commands, and nothing comes after its failure.

* `Stretch.isGiven_pulls`: what is known of the pieces of a stretch.
* `Feed.Offers.pull`: a feed gives the pieces of a stretch, whatever becomes of later targets.
-/

namespace BuildAnalysis

/-! ## Pieces -/

/-- What limits add up to; there is no limit if one of them is none. -/
def totalLimit : List (Option Nat) → Option Nat
  | [] => some 0
  | limit :: rest => limit.bind fun n => (totalLimit rest).map (n + ·)

namespace Stretch

/-- The pieces that a stretch gives up to limits, one after the other. -/
def pulls : List (Option Nat) → Stretch → List Pull
  | [], _ => []
  | limit :: rest, stretch => (stretch.pull limit).1 :: pulls rest (stretch.pull limit).2

/-- Whether a stretch is enough for limits: it has as many commands as they add up to, or its failure
comes before. -/
def Suffices (limits : List (Option Nat)) (stretch : Stretch) : Prop :=
  stretch.failure.isSome = true ∨ stretch.reaches (totalLimit limits) = true

/-- What is known of the pieces of a stretch. -/
structure IsGiven (stretch : Stretch) (limits : List (Option Nat)) (given : List Pull) : Prop where
  /-- The pieces are commands from the front of the stretch, as many as the limits add up to. -/
  commands : given.flatMap (·.commands) =
    stretch.commands.take ((totalLimit limits).getD stretch.commands.length)
  /-- The failure of the stretch is given once, if more is asked for than there are commands. -/
  failures : given.filterMap (·.failure) =
    if stretch.reaches (totalLimit limits) then [] else stretch.failure.toList
  /-- When the failure is given all commands are, and afterwards there is nothing. -/
  last : ∀ earlier piece later failure, given = earlier ++ piece :: later →
    piece.failure = some failure → stretch.failure = some failure ∧
      earlier.flatMap (·.commands) ++ piece.commands = stretch.commands ∧
      ∀ nothing ∈ later, nothing.commands = [] ∧ nothing.failure = none

variable {stretch : Stretch} {limit : Option Nat} {limits : List (Option Nat)} {n : Nat}

/-- Limits are reached after the first of them if they all are. -/
theorem reaches_cons (h : stretch.reaches (some n) = true) :
    stretch.reaches (totalLimit (some n :: limits)) =
      (⟨stretch.commands.drop n, stretch.failure⟩ : Stretch).reaches (totalLimit limits) := by
  have hle := reaches_some.1 h
  cases htotal : totalLimit limits with
  | none => simp [totalLimit, htotal]
  | some m =>
    rw [totalLimit, Option.bind_some, htotal, Option.map_some, Bool.eq_iff_iff, reaches_some,
      reaches_some, List.length_drop]
    omega

/-- Limits are not reached if the first of them is not. -/
theorem not_reaches_cons (h : ¬ stretch.reaches limit = true) (limits : List (Option Nat)) :
    ¬ stretch.reaches (totalLimit (limit :: limits)) = true := by
  cases limit with
  | none => simp [totalLimit]
  | some n =>
    have hlt : stretch.commands.length < n := by simpa using h
    cases htotal : totalLimit limits with
    | none => simp [totalLimit, htotal]
    | some m =>
      rw [totalLimit, Option.bind_some, htotal, Option.map_some, reaches_some]
      omega

/-- A limit that is not reached cuts no command off. -/
theorem take_of_not_reaches (h : ¬ stretch.reaches limit = true) :
    stretch.commands.take (limit.getD stretch.commands.length) = stretch.commands := by
  cases limit with
  | none => rw [Option.getD_none, List.take_length]
  | some n =>
    rw [reaches_some] at h
    exact List.take_of_length_le (Nat.le_of_not_le h)

/-- A stretch that is enough for limits is enough for the first of them. -/
theorem Suffices.first (h : stretch.Suffices (limit :: limits)) :
    stretch.failure.isSome = true ∨ stretch.reaches limit = true := by
  refine h.imp_right fun hreaches => ?_
  by_cases hlimit : stretch.reaches limit = true
  · exact hlimit
  · exact absurd hreaches (not_reaches_cons hlimit limits)

/-- When the first limit is reached, what is left is enough for the others. -/
theorem Suffices.rest (h : stretch.Suffices (limit :: limits))
    (hreaches : stretch.reaches limit = true) : (stretch.pull limit).2.Suffices limits := by
  obtain ⟨n, rfl, -⟩ := (Option.any_eq_true _ _).1 hreaches
  rw [Suffices, reaches_cons hreaches] at h
  rw [pull_of_reaches hreaches]
  exact h

/-- An empty stretch gives nothing, however often it is asked. -/
theorem pulls_empty (limits : List (Option Nat)) :
    ∀ piece ∈ pulls limits {}, piece.commands = [] ∧ piece.failure = none := by
  induction limits with
  | nil => exact fun piece hpiece => absurd hpiece List.not_mem_nil
  | cons limit rest ih =>
    have hnothing : ({} : Stretch).pull limit =
        (⟨[], (({} : Stretch).pull limit).1.done, none⟩, {}) := by
      rw [pull]
      split
      · simp
      · rfl
    rw [pulls, hnothing]
    exact List.forall_mem_cons.2 ⟨⟨rfl, rfl⟩, ih⟩

theorem isGiven_nil (stretch : Stretch) : stretch.IsGiven [] [] where
  commands := rfl
  failures := rfl
  last earlier piece later failure h := by simp at h

/-- A piece that is reached comes before the pieces of what is left. -/
theorem IsGiven.cons {given : List Pull}
    (h : (⟨stretch.commands.drop n, stretch.failure⟩ : Stretch).IsGiven limits given)
    (hreaches : stretch.reaches (some n) = true) :
    stretch.IsGiven (some n :: limits) (⟨stretch.commands.take n, false, none⟩ :: given) where
  commands := by
    have hle := reaches_some.1 hreaches
    rw [List.flatMap_cons, h.commands, totalLimit, Option.bind_some]
    cases totalLimit limits with
    | none =>
      rw [Option.map_none, Option.getD_none, Option.getD_none, List.take_length, List.take_length,
        List.take_append_drop]
    | some m => rw [Option.map_some, Option.getD_some, Option.getD_some, List.take_add]
  failures := by
    rw [List.filterMap_cons_none rfl, h.failures, reaches_cons hreaches]
  last earlier piece later failure heq hfailure := by
    -- the failure is not in the first piece, and so it is in one of the others
    cases earlier with
    | nil =>
      rw [List.nil_append, List.cons.injEq] at heq
      rw [← heq.1] at hfailure
      cases hfailure
    | cons first rest =>
      rw [List.cons_append, List.cons.injEq] at heq
      obtain ⟨hsame, hcommands, hlater⟩ := h.last rest piece later failure heq.2 hfailure
      refine ⟨hsame, ?_, hlater⟩
      rw [← heq.1, List.flatMap_cons, List.append_assoc, hcommands, List.take_append_drop]

/-- A piece that is not reached is the whole stretch, and nothing comes after it. -/
theorem isGiven_whole {given : List Pull} (h : ¬ stretch.reaches limit = true)
    (hgiven : ∀ piece ∈ given, piece.commands = [] ∧ piece.failure = none) (done : Bool)
    (limits : List (Option Nat)) :
    stretch.IsGiven (limit :: limits) (⟨stretch.commands, done, stretch.failure⟩ :: given) where
  commands := by
    have hnone : given.flatMap (·.commands) = [] :=
      List.flatMap_eq_nil_iff.2 fun piece hpiece => (hgiven piece hpiece).1
    rw [List.flatMap_cons, hnone, List.append_nil, take_of_not_reaches (not_reaches_cons h limits)]
  failures := by
    have hnone : given.filterMap (·.failure) = [] :=
      List.filterMap_eq_nil_iff.2 fun piece hpiece => (hgiven piece hpiece).2
    rw [if_neg (not_reaches_cons h limits)]
    cases hfailure : stretch.failure with
    | none => rw [List.filterMap_cons_none rfl, hnone, Option.toList_none]
    | some failure => simp only [List.filterMap_cons, hnone, Option.toList_some]
  last earlier piece later failure heq hfailure := by
    cases earlier with
    | nil =>
      rw [List.nil_append, List.cons.injEq] at heq
      obtain ⟨rfl, rfl⟩ := heq
      exact ⟨hfailure, rfl, hgiven⟩
    | cons first rest =>
      rw [List.cons_append, List.cons.injEq] at heq
      have hpiece : piece ∈ given := by
        rw [heq.2]
        exact List.mem_append_right _ List.mem_cons_self
      rw [(hgiven piece hpiece).2] at hfailure
      cases hfailure

/-- What is known of the pieces of a stretch. -/
theorem isGiven_pulls (limits : List (Option Nat)) (stretch : Stretch) :
    stretch.IsGiven limits (pulls limits stretch) := by
  induction limits generalizing stretch with
  | nil => exact isGiven_nil stretch
  | cons limit rest ih =>
    rw [pulls]
    by_cases h : stretch.reaches limit = true
    · obtain ⟨n, rfl, -⟩ := (Option.any_eq_true _ _).1 h
      rw [pull_of_reaches h]
      exact (ih _).cons h
    · rw [pull_of_not_reaches h]
      exact isGiven_whole h (pulls_empty rest) _ rest

end Stretch

/-! ## Feeds in pieces -/

namespace Feed

/-- Whether a feed offers a stretch to limits: the stretch is given by targets in the front of the
feed, all of them from `files`, and unless there are no other targets it is enough for the limits. -/
def Offers (read : String → Stretch) (files : List String) (limits : List (Option Nat))
    (feed : Feed String) (stretch : Stretch) : Prop :=
  ∃ front back, feed.pending = front ++ back ∧ front ⊆ files ∧
    stretch = whole read { feed with pending := front } ∧
    (back = [] ∨ stretch.Suffices limits)

variable {read other : String → Stretch} {files : List String} {limit : Option Nat}
  {limits : List (Option Nat)} {feed : Feed String} {stretch : Stretch}

/-- A feed that offers a stretch gives a piece of it, even if other targets than those of the stretch
have changed, and goes on to offer what is left. -/
theorem Offers.pull (h : feed.Offers read files (limit :: limits) stretch)
    (hread : ∀ file ∈ files, other file = read file) :
    (feed.pull other limit).1 = (stretch.pull limit).1 ∧
      (feed.pull other limit).2.Offers read files limits (stretch.pull limit).2 := by
  obtain ⟨front, back, hpending, hfront, rfl, hsuffices⟩ := h
  have hcongr : ∀ target ∈ front, other target = read target := fun target ht =>
    hread target (hfront ht)
  have hsame := pullFrom_congr hcongr limit feed.ready feed.failure
  have hpull := pullFrom_eq read limit feed.ready feed.failure front
  have hleft := pullFrom_pending read limit feed.ready feed.failure front
  generalize pullFrom read limit feed.ready feed.failure front = pulled at hsame hpull hleft
  have hpiece := congrArg Prod.fst hpull
  have hrest := congrArg Prod.snd hpull
  have hsubset : pulled.2.pending ⊆ files := fun file hfile => hfront (hleft.subset hfile)
  rcases hsuffices with rfl | hsuffices
  · have heq : feed.pull other limit = pulled := by
      rw [Feed.pull, hpending, List.append_nil, hsame]
    rw [heq]
    exact ⟨hpiece, pulled.2.pending, [], (List.append_nil _).symm, hsubset, hrest.symm, .inl rfl⟩
  · have hwhole : whole other { feed with pending := front } =
        whole read { feed with pending := front } := by
      rw [whole, whole, List.map_congr_left hcongr]
    have happend := pullFrom_append other limit feed.ready feed.failure front back
      (by rw [hwhole]; exact hsuffices.first)
    rw [hsame, hwhole] at happend
    rw [Feed.pull, hpending, happend]
    refine ⟨hpiece, pulled.2.pending, _, rfl, hsubset, hrest.symm, ?_⟩
    -- the other targets stay behind, unless the failure of the stretch has ended the feed
    by_cases hreaches : (whole read { feed with pending := front }).reaches limit = true
    · exact .inr (hsuffices.rest hreaches)
    · exact .inl (if_neg hreaches)

end Feed

end BuildAnalysis
