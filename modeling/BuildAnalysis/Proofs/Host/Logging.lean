import BuildAnalysis.Proofs.Host.Actions

/-!
# Actions that only log

Many actions change nothing but the console. Their answers do not depend on the console, so that they
may be put in any place without a change to what is done, but for the order of the messages.

* `Tells.bind`, `OnlyLogs.bind`: such actions may be put together.
* `start_withConsole`: a child process does not see the console.
-/

namespace BuildAnalysis

namespace Host

/-- A host with another console. -/
def withConsole (host : Host) (console : Console) : Host :=
  { host with console }

variable (host : Host) (console other : Console)

@[simp] theorem withConsole_files : (host.withConsole console).files = host.files := rfl

@[simp] theorem withConsole_directory : (host.withConsole console).directory = host.directory := rfl

@[simp] theorem withConsole_environment :
    (host.withConsole console).environment = host.environment := rfl

@[simp] theorem withConsole_children : (host.withConsole console).children = host.children := rfl

@[simp] theorem withConsole_started : (host.withConsole console).started = host.started := rfl

@[simp] theorem withConsole_withConsole :
    (host.withConsole console).withConsole other = host.withConsole other := rfl

@[simp] theorem withConsole_pathExists :
    (host.withConsole console).pathExists = host.pathExists := rfl

@[simp] theorem withConsole_isDirectory :
    (host.withConsole console).isDirectory = host.isDirectory := rfl

/-- A child process does the same whatever the console is. -/
theorem start_withConsole (invocation : Invocation) :
    (host.withConsole console).start invocation =
      ((host.start invocation).1, (host.start invocation).2.withConsole console) := by
  unfold start
  rw [withConsole_children]
  cases host.children with
  | nil => rfl
  | cons child rest => rfl

end Host

namespace Action

variable {α β : Type}

@[simp] theorem on_modify (edit : Host → Host) (host : Host) :
    (modify edit : Action Unit).on host = (.ok (), edit host) := rfl

/-- Whether an action changes nothing but the console, and answers without regard to it. -/
structure OnlyLogs (action : Action α) : Prop where
  after : ∀ host, ∃ console, (action.on host).2 = host.withConsole console
  answer : ∀ (host : Host) (console : Host.Console),
    (action.on (host.withConsole console)).1 = (action.on host).1

/-- Whether an action does nothing but print messages. -/
def Tells (action : Action Unit) : Prop :=
  ∀ host, ∃ console, action.on host = (.ok (), host.withConsole console)

theorem tells_pure : Tells (pure ()) := fun host => ⟨host.console, rfl⟩

theorem tells_log (level : Host.Level) (origin message : String) :
    Tells (log level origin message) := fun host =>
  ⟨host.console.log level origin message, rfl⟩

/-- Messages may be printed one after the other. -/
theorem Tells.bind {first rest : Action Unit} (h : first.Tells) (hrest : rest.Tells) :
    Tells (first >>= fun _ => rest) := by
  intro host
  obtain ⟨console, hfirst⟩ := h host
  obtain ⟨other, hother⟩ := hrest (host.withConsole console)
  refine ⟨other, ?_⟩
  rw [on_bind, hfirst]
  exact hother

theorem tells_forM {items : List β} {action : β → Action Unit}
    (h : ∀ item, (action item).Tells) : Tells (items.forM action) := by
  induction items with
  | nil => exact tells_pure
  | cons item rest ih => exact (h item).bind ih

theorem Tells.onlyLogs {action : Action Unit} (h : action.Tells) : action.OnlyLogs := by
  constructor
  · intro host
    obtain ⟨console, hon⟩ := h host
    exact ⟨console, congrArg Prod.snd hon⟩
  · intro host console
    obtain ⟨first, hfirst⟩ := h host
    obtain ⟨second, hsecond⟩ := h (host.withConsole console)
    rw [hfirst, hsecond]

theorem onlyLogs_pure (a : α) : OnlyLogs (pure a : Action α) where
  after host := ⟨host.console, rfl⟩
  answer _ _ := rfl

theorem onlyLogs_throw (failure : Failure) : OnlyLogs (throw failure : Action α) where
  after host := ⟨host.console, rfl⟩
  answer _ _ := rfl

theorem onlyLogs_report (error : AnalysisError) : OnlyLogs (report error : Action α) :=
  onlyLogs_throw _

/-- A question that is not about the console. -/
theorem onlyLogs_ask {question : Host → α}
    (h : ∀ host console, question (host.withConsole console) = question host) :
    OnlyLogs (ask question) where
  after host := ⟨host.console, rfl⟩
  answer host console := by
    rw [on_ask, on_ask, h]

theorem onlyLogs_ofExcept (answer : Except Failure α) : OnlyLogs (ofExcept answer) := by
  cases answer with
  | ok a => exact onlyLogs_pure a
  | error failure => exact onlyLogs_throw failure

/-- How an action ends that only logs. -/
theorem OnlyLogs.on_eq {action : Action α} (h : action.OnlyLogs) (host : Host) :
    ∃ console, action.on host = ((action.on host).1, host.withConsole console) := by
  obtain ⟨console, hafter⟩ := h.after host
  exact ⟨console, Prod.ext rfl hafter⟩

/-- Actions that only log, one after the other. -/
theorem OnlyLogs.bind {action : Action α} {rest : α → Action β} (h : action.OnlyLogs)
    (hrest : ∀ a, (rest a).OnlyLogs) : (action >>= rest).OnlyLogs := by
  constructor
  · intro host
    obtain ⟨console, hon⟩ := h.on_eq host
    rw [on_bind, hon]
    cases (action.on host).1 with
    | ok a =>
      obtain ⟨other, hother⟩ := (hrest a).after (host.withConsole console)
      exact ⟨other, hother⟩
    | error failure => exact ⟨console, rfl⟩
  · intro host console
    obtain ⟨first, hfirst⟩ := h.on_eq host
    obtain ⟨second, hsecond⟩ := h.on_eq (host.withConsole console)
    rw [on_bind, on_bind, hsecond, hfirst, h.answer host console]
    cases (action.on host).1 with
    | ok a =>
      -- both go on from the host, with one console or another
      exact ((hrest a).answer host second).trans ((hrest a).answer host first).symm
    | error failure => rfl

/-- The answers of actions that only log follow from each other on one and the same host. -/
theorem OnlyLogs.answer_bind {action : Action α} {rest : α → Action β} (h : action.OnlyLogs)
    (hrest : ∀ a, (rest a).OnlyLogs) (host : Host) :
    ((action >>= rest).on host).1 = (action.on host).1 >>= fun a => ((rest a).on host).1 := by
  obtain ⟨console, hon⟩ := h.on_eq host
  rw [on_bind, hon]
  cases (action.on host).1 with
  | ok a => exact (hrest a).answer host console
  | error failure => rfl

end Action

end BuildAnalysis
