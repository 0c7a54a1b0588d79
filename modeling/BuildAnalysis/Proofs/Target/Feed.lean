import BuildAnalysis.Target.Feed

/-!
# What a feed gives

A feed gives a stretch of commands piece by piece. The stretch is told without regard to the pieces:
it is what the feed has ready, followed by the stretches of the targets that are not read yet. A pull
takes a piece from the front of it, and the feed goes on with the rest.

* `Feed.pullFrom_eq`: a pull takes a piece from the front of all that the feed gives.
* `Feed.pullFrom_append`: a pull does not depend on targets that come too late for it.
-/

namespace BuildAnalysis

/-- What is given when some commands are given first. -/
def Pull.preceded (ready : List CompileCommand) (pull : Pull) : Pull :=
  { pull with commands := ready ++ pull.commands }

/-! ## Stretches in a row -/

namespace Stretch

theorem append_of_failure {first : Stretch} {failure : Failure} (h : first.failure = some failure)
    (second : Stretch) : first.append second = first := by
  rw [append, h]

theorem append_of_none {first : Stretch} (h : first.failure = none) (second : Stretch) :
    first.append second = ⟨first.commands ++ second.commands, second.failure⟩ := by
  rw [append, h]

theorem length_le_append (first second : Stretch) :
    first.commands.length ≤ (first.append second).commands.length := by
  cases hfirst : first.failure with
  | some failure => exact Nat.le_of_eq (by rw [append_of_failure hfirst])
  | none =>
    rw [append_of_none hfirst, List.length_append]
    exact Nat.le_add_right _ _

/-- Stretches one after the other, up to the first that fails. -/
def concat (stretches : List Stretch) : Stretch :=
  stretches.foldr append {}

@[simp] theorem concat_nil : concat [] = {} := rfl

@[simp] theorem concat_cons (stretch : Stretch) (rest : List Stretch) :
    concat (stretch :: rest) = stretch.append (concat rest) := rfl

/-- Stretches of which none fails give all their commands. -/
theorem concat_of_none {stretches : List Stretch} (h : ∀ s ∈ stretches, s.failure = none) :
    concat stretches = ⟨stretches.flatMap (·.commands), none⟩ := by
  induction stretches with
  | nil => rfl
  | cons stretch rest ih =>
    have hrest := ih fun s hs => h s (List.mem_cons_of_mem _ hs)
    rw [concat_cons, append_of_none (h stretch List.mem_cons_self), hrest, List.flatMap_cons]

/-- The first stretch that fails ends stretches in a row. -/
theorem concat_of_failure {before : List Stretch} {stretch : Stretch} {failure : Failure}
    (hbefore : ∀ s ∈ before, s.failure = none) (h : stretch.failure = some failure)
    (after : List Stretch) :
    concat (before ++ stretch :: after) =
      ⟨before.flatMap (·.commands) ++ stretch.commands, some failure⟩ := by
  induction before with
  | nil =>
    rw [List.nil_append, concat_cons, append_of_failure h, List.flatMap_nil, List.nil_append, ← h]
  | cons first rest ih =>
    have hrest := ih fun s hs => hbefore s (List.mem_cons_of_mem _ hs)
    rw [List.cons_append, concat_cons, append_of_none (hbefore first List.mem_cons_self), hrest,
      List.flatMap_cons, List.append_assoc]

/-- Stretches in a row fail only if one of them does. -/
theorem mem_of_concat_failure {stretches : List Stretch} {failure : Failure}
    (h : (concat stretches).failure = some failure) : ∃ s ∈ stretches, s.failure = some failure := by
  induction stretches with
  | nil => cases h
  | cons stretch rest ih =>
    rw [concat_cons] at h
    cases hstretch : stretch.failure with
    | some first =>
      rw [append_of_failure hstretch, hstretch] at h
      exact ⟨stretch, List.mem_cons_self, hstretch.trans h⟩
    | none =>
      rw [append_of_none hstretch] at h
      obtain ⟨s, hs, hfailure⟩ := ih h
      exact ⟨s, List.mem_cons_of_mem _ hs, hfailure⟩

/-- Stretches in a row that do not fail are stretches of which none fails. -/
theorem failure_of_concat {stretches : List Stretch} (h : (concat stretches).failure = none) :
    ∀ s ∈ stretches, s.failure = none := by
  induction stretches with
  | nil => exact fun s hs => absurd hs List.not_mem_nil
  | cons stretch rest ih =>
    rw [concat_cons] at h
    cases hstretch : stretch.failure with
    | some failure =>
      rw [append_of_failure hstretch, hstretch] at h
      cases h
    | none =>
      rw [append_of_none hstretch] at h
      exact List.forall_mem_cons.2 ⟨hstretch, ih h⟩

/-- Whether a stretch has as many commands as a limit asks for. -/
def reaches (limit : Option Nat) (stretch : Stretch) : Bool :=
  limit.any (· ≤ stretch.commands.length)

/-- The commands that a stretch gives up to a limit, and what is left of it. -/
def pull (limit : Option Nat) (stretch : Stretch) : Pull × Stretch :=
  if stretch.reaches limit then
    (⟨stretch.commands.take (limit.getD 0), false, none⟩,
      ⟨stretch.commands.drop (limit.getD 0), stretch.failure⟩)
  else (⟨stretch.commands, stretch.failure.isNone, stretch.failure⟩, {})

@[simp] theorem reaches_none (stretch : Stretch) : stretch.reaches none = false := rfl

@[simp] theorem reaches_some {stretch : Stretch} {n : Nat} :
    stretch.reaches (some n) = true ↔ n ≤ stretch.commands.length := by
  simp [reaches]

theorem pull_of_reaches {stretch : Stretch} {limit : Option Nat} (h : stretch.reaches limit = true) :
    stretch.pull limit = (⟨stretch.commands.take (limit.getD 0), false, none⟩,
      ⟨stretch.commands.drop (limit.getD 0), stretch.failure⟩) := by
  rw [pull, if_pos h]

theorem pull_of_not_reaches {stretch : Stretch} {limit : Option Nat}
    (h : ¬ stretch.reaches limit = true) :
    stretch.pull limit = (⟨stretch.commands, stretch.failure.isNone, stretch.failure⟩, {}) := by
  rw [pull, if_neg h]

/-- Without a limit a stretch gives all that it has. -/
@[simp] theorem pull_none (stretch : Stretch) :
    stretch.pull none = (⟨stretch.commands, stretch.failure.isNone, stretch.failure⟩, {}) := rfl

/-- A limit that the first stretch reaches is reached before the second begins. -/
theorem pull_append_of_reaches {first : Stretch} {limit : Option Nat}
    (h : first.reaches limit = true) (second : Stretch) :
    (first.append second).pull limit =
      ((first.pull limit).1, (first.pull limit).2.append second) := by
  obtain ⟨n, rfl, hn⟩ := (Option.any_eq_true _ _).1 h
  have hn : n ≤ first.commands.length := by simpa using hn
  have hboth : (first.append second).reaches (some n) = true :=
    reaches_some.2 (Nat.le_trans hn (length_le_append first second))
  rw [pull_of_reaches hboth, pull_of_reaches h]
  cases hfirst : first.failure with
  | some failure => rw [append_of_failure hfirst, append_of_failure rfl, hfirst]
  | none =>
    rw [append_of_none hfirst, append_of_none rfl, Option.getD_some,
      List.take_append_of_le_length hn, List.drop_append_of_le_length hn]

/-- Up to a limit that the first stretch does not reach, it is given as a whole, and then the second
up to what is left of the limit. -/
theorem pull_append {first : Stretch} {limit : Option Nat} (h : ¬ first.reaches limit = true)
    (hnone : first.failure = none) (second : Stretch) :
    (first.append second).pull limit =
      ((second.pull (limit.map (· - first.commands.length))).1.preceded first.commands,
        (second.pull (limit.map (· - first.commands.length))).2) := by
  rw [append_of_none hnone]
  cases limit with
  | none => rfl
  | some n =>
    have hlt : first.commands.length < n := by simpa using h
    rw [Option.map_some]
    by_cases hsecond : second.reaches (some (n - first.commands.length)) = true
    · have hle := reaches_some.1 hsecond
      have hboth : (⟨first.commands ++ second.commands, second.failure⟩ : Stretch).reaches
          (some n) = true := by
        rw [reaches_some, List.length_append]
        omega
      rw [pull_of_reaches hboth, pull_of_reaches hsecond]
      simp only [Option.getD_some, List.take_append, List.drop_append]
      rw [List.take_of_length_le (by omega), List.drop_of_length_le (by omega), List.nil_append]
      rfl
    · have hgt : ¬ n - first.commands.length ≤ second.commands.length := fun hle =>
        hsecond (reaches_some.2 hle)
      have hboth : ¬ (⟨first.commands ++ second.commands, second.failure⟩ : Stretch).reaches
          (some n) = true := by
        rw [reaches_some, List.length_append]
        omega
      rw [pull_of_not_reaches hboth, pull_of_not_reaches hsecond]
      rfl

end Stretch

/-- The commands of a target are those of its groups, one group after the other. -/
theorem Target.commands_eq_concat (target : Target) (root : Json) (compilers : Compilers)
    (options : CommandOptions) :
    target.commands root compilers options =
      .concat (target.groups.map (target.groupCommands root compilers options)) := by
  rw [commands, Stretch.concat, List.foldr_map]

/-! ## Pulls -/

namespace Feed

variable {σ : Type}

/-- All that a feed gives: what is ready, and then the targets that are not read yet. -/
def whole (read : σ → Stretch) (feed : Feed σ) : Stretch :=
  (⟨feed.ready, feed.failure⟩ : Stretch).append (.concat (feed.pending.map read))

@[simp] theorem whole_empty (read : σ → Stretch) : whole read {} = {} := rfl

/-- A feed with more targets behind its own. -/
def extend (feed : Feed σ) (targets : List σ) : Feed σ :=
  { feed with pending := feed.pending ++ targets }

/-- A pull takes a piece from the front of all that the feed gives, and the feed goes on with what is
left. -/
theorem pullFrom_eq (read : σ → Stretch) (limit : Option Nat) (ready : List CompileCommand)
    (failure : Option Failure) (pending : List σ) :
    ((pullFrom read limit ready failure pending).1,
        whole read (pullFrom read limit ready failure pending).2) =
      (whole read ⟨ready, failure, pending⟩).pull limit := by
  -- the cases are those of the recursion: the limit is reached, a failure, the end, the next target
  fun_induction pullFrom read limit ready failure pending with
  | case1 pending limit ready failure h n =>
    have hready : (⟨ready, failure⟩ : Stretch).reaches limit = true := h
    rw [whole, whole, Stretch.pull_append_of_reaches hready, Stretch.pull_of_reaches hready]
  | case2 pending limit ready h failure =>
    have hready : ¬ (⟨ready, some failure⟩ : Stretch).reaches limit = true := h
    rw [whole_empty, whole, Stretch.append_of_failure rfl, Stretch.pull_of_not_reaches hready]
    rfl
  | case3 limit ready h =>
    have hready : ¬ (⟨ready, none⟩ : Stretch).reaches limit = true := h
    rw [whole_empty, whole, List.map_nil, Stretch.concat_nil, Stretch.append_of_none rfl,
      List.append_nil, Stretch.pull_of_not_reaches hready]
    rfl
  | case4 limit ready h target rest stretch pull feed hpull ih =>
    have hready : ¬ (⟨ready, none⟩ : Stretch).reaches limit = true := h
    rw [hpull] at ih
    have hwhole : whole read ⟨ready, none, target :: rest⟩ =
        (⟨ready, none⟩ : Stretch).append
          (whole read ⟨stretch.commands, stretch.failure, rest⟩) := rfl
    rw [hwhole, Stretch.pull_append hready rfl, ← ih]
    rfl

/-- A limit that is reached by what is ready is reached before any target is read. -/
theorem pullFrom_of_le {read : σ → Stretch} {limit : Option Nat} {ready : List CompileCommand}
    (h : limit.any (· ≤ ready.length) = true) (failure : Option Failure) (pending : List σ) :
    pullFrom read limit ready failure pending =
      (⟨ready.take (limit.getD 0), false, none⟩,
        ⟨ready.drop (limit.getD 0), failure, pending⟩) := by
  rw [pullFrom.eq_def, if_pos h]

/-- A pull takes targets from the front of those that are not read yet. -/
theorem pullFrom_pending (read : σ → Stretch) (limit : Option Nat) (ready : List CompileCommand)
    (failure : Option Failure) (pending : List σ) :
    (pullFrom read limit ready failure pending).2.pending <:+ pending := by
  fun_induction pullFrom read limit ready failure pending with
  | case1 pending limit ready failure h n => exact List.suffix_rfl
  | case2 pending limit ready h failure => exact List.nil_suffix
  | case3 limit ready h => exact List.nil_suffix
  | case4 limit ready h target rest stretch pull feed hpull ih =>
    rw [hpull] at ih
    exact ih.trans (List.suffix_cons target rest)

/-- A pull depends on the targets that are not read yet alone. -/
theorem pullFrom_congr {read other : σ → Stretch} {pending : List σ}
    (h : ∀ target ∈ pending, other target = read target) (limit : Option Nat)
    (ready : List CompileCommand) (failure : Option Failure) :
    pullFrom other limit ready failure pending = pullFrom read limit ready failure pending := by
  fun_induction pullFrom read limit ready failure pending with
  | case1 pending limit ready failure hlimit n => exact pullFrom_of_le hlimit failure pending
  | case2 pending limit ready hlimit failure => rw [pullFrom, if_neg hlimit]
  | case3 limit ready hlimit => rw [pullFrom, if_neg hlimit]
  | case4 limit ready hlimit target rest stretch pull feed hpull ih =>
    have htarget : other target = stretch := h target List.mem_cons_self
    have hrest := ih fun t ht => h t (List.mem_cons_of_mem _ ht)
    rw [pullFrom, if_neg hlimit]
    simp only [htarget, hrest, hpull]

/-- What a feed gives reaches a limit that is reached by what is ready. -/
theorem reaches_whole {read : σ → Stretch} {limit : Option Nat} {ready : List CompileCommand}
    {failure : Option Failure} (h : (⟨ready, failure⟩ : Stretch).reaches limit = true)
    (pending : List σ) : (whole read ⟨ready, failure, pending⟩).reaches limit = true := by
  obtain ⟨n, rfl, hn⟩ := (Option.any_eq_true _ _).1 h
  have hn : n ≤ ready.length := by simpa using hn
  exact Stretch.reaches_some.2 (Nat.le_trans hn (Stretch.length_le_append ⟨ready, failure⟩ _))

/-- Beyond what is ready a limit is reached by the first target and those after it. -/
theorem reaches_whole_cons {read : σ → Stretch} {limit : Option Nat} {ready : List CompileCommand}
    (h : ¬ (⟨ready, none⟩ : Stretch).reaches limit = true) (target : σ) (rest : List σ) :
    (whole read ⟨ready, none, target :: rest⟩).reaches limit =
      (whole read ⟨(read target).commands, (read target).failure, rest⟩).reaches
        (limit.map (· - ready.length)) := by
  have hwhole : whole read ⟨ready, none, target :: rest⟩ =
      (⟨ready, none⟩ : Stretch).append
        (whole read ⟨(read target).commands, (read target).failure, rest⟩) := rfl
  rw [hwhole, Stretch.append_of_none rfl]
  cases limit with
  | none => rfl
  | some n =>
    have hlt : ready.length < n := by simpa using h
    rw [Option.map_some, Bool.eq_iff_iff, Stretch.reaches_some, Stretch.reaches_some]
    simp only [List.length_append]
    omega

/-- A pull does not depend on targets that come after others, if those reach the limit or fail. They
stay behind the others, unless a failure has ended the feed. -/
theorem pullFrom_append (read : σ → Stretch) (limit : Option Nat) (ready : List CompileCommand)
    (failure : Option Failure) (front back : List σ)
    (h : (whole read ⟨ready, failure, front⟩).failure.isSome = true ∨
      (whole read ⟨ready, failure, front⟩).reaches limit = true) :
    pullFrom read limit ready failure (front ++ back) =
      ((pullFrom read limit ready failure front).1,
        (pullFrom read limit ready failure front).2.extend
          (if (whole read ⟨ready, failure, front⟩).reaches limit then back else [])) := by
  fun_induction pullFrom read limit ready failure front with
  | case1 pending limit ready failure hlimit n =>
    rw [pullFrom_of_le hlimit, if_pos (reaches_whole hlimit pending)]
    rfl
  | case2 pending limit ready hlimit failure =>
    have hwhole : whole read ⟨ready, some failure, pending⟩ = ⟨ready, some failure⟩ :=
      Stretch.append_of_failure rfl _
    rw [pullFrom, if_neg hlimit, hwhole, Stretch.reaches, if_neg hlimit]
    rfl
  | case3 limit ready hlimit =>
    have hwhole : whole read ⟨ready, none, []⟩ = ⟨ready, none⟩ := by
      rw [whole, Stretch.append_of_none rfl, List.map_nil, Stretch.concat_nil, List.append_nil]
    rw [hwhole] at h
    exact absurd (h.resolve_left (by simp)) hlimit
  | case4 limit ready hlimit target rest stretch pull feed hpull ih =>
    subst stretch
    rw [reaches_whole_cons hlimit] at h ⊢
    have hrest := ih h
    rw [hpull] at hrest
    rw [List.cons_append, pullFrom, if_neg hlimit]
    simp only [hrest]

end Feed

end BuildAnalysis
