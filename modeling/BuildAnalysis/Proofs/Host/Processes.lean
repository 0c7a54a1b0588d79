import BuildAnalysis.Proofs.Host.Logging
import BuildAnalysis.Proofs.Host.Requests
import Mathlib.Data.List.TakeWhile

/-!
# Child processes one after the other

A child process that is started takes the next of those to come, and leaves the directory and the
environment of the host as they are. Processes may be started in a row whatever becomes of those
before; each of them then ends in its own way.

* `startAll_started`: all of the processes are started, in their order.
* `IsAnswered.start`: if the system answers every start, a process has ended or was refused.
* `begun_eq_self`: when all of the processes that are asked for are started.
-/

namespace BuildAnalysis.Host

variable (host : Host) (invocation : Invocation)

@[simp] theorem start_directory : (host.start invocation).2.directory = host.directory := by
  rw [start]
  split
  · rfl
  · rfl

@[simp] theorem start_environment : (host.start invocation).2.environment = host.environment := by
  rw [start]
  split
  · rfl
  · rfl

/-- A process that is started takes the next of those to come. -/
@[simp] theorem start_children : (host.start invocation).2.children = host.children.tail := by
  rw [start]
  split
  · rename_i hnone
    have hnone : host.children = [] := hnone
    simp [hnone]
  · rename_i hsome
    exact (congrArg List.tail hsome).symm

/-! ## Hosts that start no process -/

/-- Whether nothing has happened to the processes between two hosts: none was started, and those to
come would find the same directory and the same environment. -/
structure KeepsProcesses (before after : Host) : Prop where
  directory : after.directory = before.directory
  environment : after.environment = before.environment
  children : after.children = before.children
  started : after.started = before.started

variable {host} {other after : Host}

theorem KeepsProcesses.refl (host : Host) : host.KeepsProcesses host := ⟨rfl, rfl, rfl, rfl⟩

theorem KeepsProcesses.trans (h : host.KeepsProcesses other) (h' : other.KeepsProcesses after) :
    host.KeepsProcesses after where
  directory := h'.directory.trans h.directory
  environment := h'.environment.trans h.environment
  children := h'.children.trans h.children
  started := h'.started.trans h.started

theorem keepsProcesses_withConsole (host : Host) (console : Console) :
    host.KeepsProcesses (host.withConsole console) := ⟨rfl, rfl, rfl, rfl⟩

theorem keepsProcesses_files (host : Host) (files : FileTree) :
    host.KeepsProcesses { host with files } := ⟨rfl, rfl, rfl, rfl⟩

/-- A path is absolute in the same way on a host whose directory is the same. -/
theorem KeepsProcesses.absolute_eq (h : host.KeepsProcesses other) (path : String) :
    other.absolute path = host.absolute path := by
  unfold Host.absolute
  rw [h.directory]

/-! ## Answers of the system -/

/-- Whether an error is an answer of the system, and not a sign that it was never asked. -/
def SystemError.IsAnswer (error : SystemError) : Prop :=
  error ≠ .invalidPath ∧ error ≠ .tooDeep

/-- Whether a process has ended, or the system has refused to start it. -/
def Outcome.IsAnswer : Outcome → Prop
  | .notStarted error => error.IsAnswer
  | .exited _ _ => True

/-- Whether a process has exited with zero. -/
def Outcome.succeeded : Outcome → Bool
  | .notStarted _ => false
  | .exited code _ => code == 0

/-- Whether the system answers the request to start a process, whatever the files are. -/
structure Child.IsAnswered (child : Child) : Prop where
  refusal : ∀ files error, (child.effect files).1 = some error → error.IsAnswer
  outcome : child.outcome.IsAnswer

/-- Whether the system answers the requests for all processes to come. -/
def IsAnswered (host : Host) : Prop :=
  ∀ child ∈ host.children, child.IsAnswered

theorem KeepsProcesses.isAnswered (h : host.KeepsProcesses other) (hhost : host.IsAnswered) :
    other.IsAnswered := by
  intro child hchild
  rw [h.children] at hchild
  exact hhost child hchild

theorem IsAnswered.start (h : host.IsAnswered) (invocation : Invocation) :
    (host.start invocation).1.IsAnswer ∧ (host.start invocation).2.IsAnswered := by
  constructor
  · rw [Host.start]
    split
    · exact trivial
    · rename_i child rest hchildren
      have hmem : child ∈ host.children := by
        rw [show host.children = child :: rest from hchildren]
        exact List.mem_cons_self
      have hchild := h child hmem
      simp only
      cases hrefusal : (child.effect host.files).1 with
      | none => exact hchild.outcome
      | some error => exact hchild.refusal host.files error hrefusal
  · intro child hchild
    rw [start_children] at hchild
    exact h child (List.mem_of_mem_tail hchild)

/-! ## One after the other -/

/-- Starts child processes one after the other, whatever becomes of those before. The answer tells
how each of them ends. -/
def startAll (host : Host) : List Invocation → List Outcome × Host
  | [] => ([], host)
  | invocation :: rest =>
    ((host.start invocation).1 :: ((host.start invocation).2.startAll rest).1,
      ((host.start invocation).2.startAll rest).2)

theorem startAll_cons (host : Host) (invocation : Invocation) (rest : List Invocation) :
    host.startAll (invocation :: rest) =
      ((host.start invocation).1 :: ((host.start invocation).2.startAll rest).1,
        ((host.start invocation).2.startAll rest).2) := rfl

/-- All of the processes are started, in their order. -/
theorem startAll_started (host : Host) (invocations : List Invocation) :
    (host.startAll invocations).2.started = host.started ++ invocations := by
  induction invocations generalizing host with
  | nil => rw [startAll, List.append_nil]
  | cons invocation rest ih =>
    rw [startAll_cons, ih, start_started, List.append_assoc, List.singleton_append]

/-- There is one outcome for each of the processes. -/
theorem length_startAll (host : Host) (invocations : List Invocation) :
    (host.startAll invocations).1.length = invocations.length := by
  induction invocations generalizing host with
  | nil => rfl
  | cons invocation rest ih => rw [startAll_cons, List.length_cons, ih, List.length_cons]

/-- The processes do the same whatever the console is. -/
theorem startAll_withConsole (host : Host) (console : Console) (invocations : List Invocation) :
    (host.withConsole console).startAll invocations =
      ((host.startAll invocations).1, (host.startAll invocations).2.withConsole console) := by
  induction invocations generalizing host with
  | nil => rfl
  | cons invocation rest ih => simp only [startAll_cons, start_withConsole, ih]

/-- The processes that are started of those that are asked for one after the other, when the first
one that the system cannot be asked for is the end. -/
def begun (invocations : List Invocation) : List Invocation :=
  invocations.takeWhile (·.isPassable)

theorem begun_cons_of_isPassable {invocation : Invocation} (h : invocation.isPassable = true)
    (rest : List Invocation) : begun (invocation :: rest) = invocation :: begun rest :=
  List.takeWhile_cons_of_pos h

theorem begun_cons_of_not_isPassable {invocation : Invocation}
    (h : ¬ invocation.isPassable = true) (rest : List Invocation) :
    begun (invocation :: rest) = [] :=
  List.takeWhile_cons_of_neg h

/-- All of the processes are started if the system can be asked for each of them. -/
theorem begun_eq_self {invocations : List Invocation}
    (h : ∀ invocation ∈ invocations, invocation.isPassable = true) :
    begun invocations = invocations := List.takeWhile_eq_self_iff.2 h

/-- Otherwise there are some that are not started. -/
theorem length_begun_lt {invocations : List Invocation}
    (h : ¬ ∀ invocation ∈ invocations, invocation.isPassable = true) :
    (begun invocations).length < invocations.length := by
  have hprefix : begun invocations <+: invocations := List.takeWhile_prefix _
  refine Nat.lt_of_le_of_ne hprefix.length_le fun hlength => h ?_
  rw [← hprefix.eq_of_length hlength]
  exact fun invocation hmem => List.mem_takeWhile_imp hmem

end BuildAnalysis.Host

namespace BuildAnalysis.Action

/-- Whether an action starts no process. -/
def KeepsProcesses {α : Type} (action : Action α) : Prop :=
  ∀ host : Host, host.KeepsProcesses (action.on host).2

variable {α β : Type}

theorem keepsProcesses_pure (a : α) : KeepsProcesses (pure a : Action α) := fun host =>
  Host.KeepsProcesses.refl host

theorem keepsProcesses_ask (question : Host → α) : KeepsProcesses (ask question) := fun host =>
  Host.KeepsProcesses.refl host

theorem keepsProcesses_report (error : AnalysisError) :
    KeepsProcesses (report error : Action α) := fun host => Host.KeepsProcesses.refl host

theorem OnlyLogs.keepsProcesses {action : Action α} (h : action.OnlyLogs) :
    action.KeepsProcesses := by
  intro host
  obtain ⟨console, hafter⟩ := h.after host
  rw [hafter]
  exact Host.keepsProcesses_withConsole host console

theorem keepsProcesses_change (onRefusal : Host.SystemError → AnalysisError)
    (edit : Host → Option Host.SystemError × Host.FileTree) :
    KeepsProcesses (change onRefusal edit) := by
  intro host
  rw [on_change]
  split
  · exact Host.keepsProcesses_files host _
  · exact Host.keepsProcesses_files host _

/-- Actions one after the other start no process if neither of them does. -/
theorem KeepsProcesses.bind {action : Action α} {rest : α → Action β} (h : action.KeepsProcesses)
    (hrest : ∀ a, (rest a).KeepsProcesses) : (action >>= rest).KeepsProcesses := by
  intro host
  have hfirst := h host
  rw [on_bind]
  cases haction : action.on host with
  | mk answer after =>
    rw [haction] at hfirst
    cases answer with
    | ok a => exact hfirst.trans (hrest a after)
    | error failure => exact hfirst

end BuildAnalysis.Action
