import BuildAnalysis.Host.Basic

/-!
# Running actions

An action is a function from the host before it to its answer and the host after it. What each of
the basic actions does to a host is said once, and an action that is made from others is run step by
step.
-/

namespace BuildAnalysis.Action

variable {α β : Type}

/-- How an action ends on a host, and the host after it. -/
def on (action : Action α) (host : Host) : Except Failure α × Host :=
  action.run.run host

theorem on_bind (action : Action α) (rest : α → Action β) (host : Host) :
    (action >>= rest).on host =
      match action.on host with
      | (.ok a, after) => (rest a).on after
      | (.error failure, after) => (.error failure, after) := by
  unfold on ExceptT.run StateT.run
  simp only [bind, ExceptT.bind, ExceptT.mk, StateT.bind, ExceptT.bindCont]
  cases action host with
  | mk answer after =>
    cases answer with
    | ok a => rfl
    | error failure => rfl

/-- Actions one after the other succeed if both do, the second on the host that the first has left. -/
theorem on_bind_eq_ok {action : Action α} {rest : α → Action β} {host last : Host} {b : β} :
    (action >>= rest).on host = (.ok b, last) ↔
      ∃ a after, action.on host = (.ok a, after) ∧ (rest a).on after = (.ok b, last) := by
  rw [on_bind]
  cases action.on host with
  | mk answer after =>
    cases answer with
    | ok a => exact ⟨fun h => ⟨a, after, rfl, h⟩, fun ⟨_, _, h, h'⟩ => (by cases h; exact h')⟩
    | error failure => exact ⟨fun h => (by cases h), fun ⟨_, _, h, _⟩ => (by cases h)⟩

@[simp] theorem on_pure (a : α) (host : Host) : (pure a : Action α).on host = (.ok a, host) := rfl

@[simp] theorem on_throw (failure : Failure) (host : Host) :
    (throw failure : Action α).on host = (.error failure, host) := rfl

@[simp] theorem on_report (error : AnalysisError) (host : Host) :
    (report error : Action α).on host = (.error (.analysis error), host) := rfl

@[simp] theorem on_ask (question : Host → α) (host : Host) :
    (ask question).on host = (.ok (question host), host) := rfl

@[simp] theorem on_get (host : Host) : (get : Action Host).on host = (.ok host, host) := rfl

@[simp] theorem on_set (after host : Host) : (set after : Action Unit).on host = (.ok (), after) :=
  rfl

@[simp] theorem on_ofExcept (answer : Except Failure α) (host : Host) :
    (ofExcept answer).on host = (answer, host) := by
  cases answer with
  | ok a => rfl
  | error failure => rfl

@[simp] theorem on_log (level : Host.Level) (origin message : String) (host : Host) :
    (log level origin message).on host =
      (.ok (), { host with console := host.console.log level origin message }) := rfl

theorem on_map (f : α → β) (action : Action α) (host : Host) :
    (f <$> action).on host = ((action.on host).1.map f, (action.on host).2) := by
  rw [map_eq_pure_bind, on_bind]
  cases action.on host with
  | mk answer after =>
    cases answer with
    | ok a => rfl
    | error failure => rfl

/-- A failure is handled on the host that it leaves behind. -/
theorem on_tryCatch (action : Action α) (handle : Failure → Action α) (host : Host) :
    (tryCatch action handle).on host =
      match action.on host with
      | (.ok a, after) => (.ok a, after)
      | (.error failure, after) => (handle failure).on after := by
  unfold on ExceptT.run StateT.run
  simp only [tryCatch, tryCatchThe, MonadExceptOf.tryCatch, ExceptT.tryCatch, ExceptT.mk, bind,
    StateT.bind]
  cases action host with
  | mk answer after =>
    cases answer with
    | ok a => rfl
    | error failure => rfl

/-- A change that the system refuses is a failure; what was changed before stays changed. -/
theorem on_change (onRefusal : Host.SystemError → AnalysisError)
    (edit : Host → Option Host.SystemError × Host.FileTree) (host : Host) :
    (change onRefusal edit).on host =
      match edit host with
      | (none, files) => (.ok (), { host with files })
      | (some e, files) =>
        (.error (.ofSystem (fun e => .analysis (onRefusal e)) e), { host with files }) := by
  simp only [change, on_bind, on_get, on_set]
  cases edit host with
  | mk refusal files =>
    cases refusal with
    | none => rfl
    | some e => rfl

/-- The answer of a child process that ended. -/
def answerOf : Host.Outcome → Except Failure (List String)
  | .notStarted e => .error (.ofSystem .system e)
  | .exited code output =>
    let lines := Text.lines (String.ofList (Text.Utf8.decodeLenient output))
    if code == 0 then .ok lines else .error (.exited code lines)

/-- A child process is asked for once, in the directory that is given, and its end is the answer. -/
theorem on_execute (command : Host.Command) (directory : Option String)
    (environment : Option Host.Environment) (host : Host) :
    (execute command directory environment).on host =
      (answerOf (host.request ⟨command, host.absolute (directory.getD ""), environment⟩).1,
        (host.request ⟨command, host.absolute (directory.getD ""), environment⟩).2) := by
  simp only [execute, on_bind, on_get, on_set]
  cases host.request ⟨command, host.absolute (directory.getD ""), environment⟩ with
  | mk outcome after =>
    cases outcome with
    | notStarted e => rfl
    | exited code output =>
      simp only [answerOf]
      split
      · rfl
      · rfl

end BuildAnalysis.Action

namespace BuildAnalysis.Host

/-- One more process was started, after those that were started before. -/
theorem start_started (host : Host) (invocation : Invocation) :
    (host.start invocation).2.started = host.started ++ [invocation] := by
  rw [start]
  split
  · rfl
  · rfl

end BuildAnalysis.Host
