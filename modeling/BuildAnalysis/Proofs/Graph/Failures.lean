import BuildAnalysis.Proofs.Graph.Loading

/-!
# Failures of loading

A run may fail because of its command line, because of the user, because of a child process, or
because of what it finds on the host. Loading fails for the last reason only: how the process that
configures the project ends is told as an error of the project.

* `FailsInside.bind`: an answer that is made from others fails as they do.
* `BuildGraph.load_failsInside`: loading fails because of what it finds.
-/

namespace BuildAnalysis

/-- Whether a failure is caused by what is found on the host, and not by the command line, by the user
or by the end of a child process. -/
def Failure.IsInner : Failure → Prop
  | .exited _ _ | .interrupted | .usage _ => False
  | _ => True

/-- A request that the system refuses, or that is never made, fails for a reason on the host. -/
theorem Failure.ofSystem_isInner {onRefusal : Host.SystemError → Failure}
    (h : ∀ error, (onRefusal error).IsInner) (error : Host.SystemError) :
    (Failure.ofSystem onRefusal error).IsInner := by
  cases error with
  | invalidPath => trivial
  | tooDeep => trivial
  | _ => exact h _

variable {α β ε : Type}

/-- Whether an answer, if there is none, fails because of what is found on the host. -/
def FailsInside (answer : Except Failure α) : Prop :=
  ∀ failure, answer = .error failure → failure.IsInner

theorem failsInside_ok (a : α) : FailsInside (.ok a : Except Failure α) := by
  intro failure h
  cases h

theorem failsInside_error {failure : Failure} (h : failure.IsInner) :
    FailsInside (.error failure : Except Failure α) := by
  intro other hother
  cases hother
  exact h

theorem FailsInside.bind {answer : Except Failure α} {rest : α → Except Failure β}
    (h : FailsInside answer) (hrest : ∀ a, FailsInside (rest a)) : FailsInside (answer >>= rest) := by
  cases answer with
  | ok a => exact hrest a
  | error failure => exact failsInside_error (h failure rfl)

theorem FailsInside.map {answer : Except Failure α} (h : FailsInside answer) (f : α → β) :
    FailsInside (answer.map f) := by
  cases answer with
  | ok a => exact failsInside_ok (f a)
  | error failure => exact failsInside_error (h failure rfl)

/-- An answer whose failures are told in other words. -/
theorem failsInside_mapError {f : ε → Failure} (h : ∀ e, (f e).IsInner) (answer : Except ε α) :
    FailsInside (answer.mapError f) := by
  cases answer with
  | ok a => exact failsInside_ok a
  | error e => exact failsInside_error (h e)

theorem failsInside_analysis (answer : Except AnalysisError α) :
    FailsInside (answer.mapError .analysis) := by
  have hinner (error : AnalysisError) : (Failure.analysis error).IsInner := trivial
  exact failsInside_mapError hinner answer

theorem failsInside_fault (answer : Except Json.Fault α) : FailsInside (answer.mapError .fault) := by
  have hinner (fault : Json.Fault) : (Failure.fault fault).IsInner := trivial
  exact failsInside_mapError hinner answer

/-! ## Actions -/

namespace Action

/-- Whether an action, if it fails, does so because of what is found on the host. -/
def FailsInside (action : Action α) : Prop :=
  ∀ host, BuildAnalysis.FailsInside (action.on host).1

theorem failsInside_pure (a : α) : FailsInside (pure a : Action α) := fun _ => failsInside_ok a

theorem failsInside_report (error : AnalysisError) : FailsInside (report error : Action α) :=
  fun _ => failsInside_error trivial

theorem failsInside_ask (question : Host → α) : FailsInside (ask question) := fun host =>
  failsInside_ok (question host)

theorem failsInside_log (level : Host.Level) (origin message : String) :
    FailsInside (log level origin message) := fun _ => failsInside_ok ()

theorem failsInside_ofExcept {answer : Except Failure α} (h : BuildAnalysis.FailsInside answer) :
    FailsInside (ofExcept answer) := by
  intro host
  rw [on_ofExcept]
  exact h

/-- Actions one after the other fail as they do. -/
theorem FailsInside.bind {action : Action α} {rest : α → Action β} (h : action.FailsInside)
    (hrest : ∀ a, (rest a).FailsInside) : (action >>= rest).FailsInside := by
  intro host
  have hfirst := h host
  rw [on_bind]
  cases haction : action.on host with
  | mk answer after =>
    rw [haction] at hfirst
    cases answer with
    | ok a => exact hrest a after
    | error failure => exact failsInside_error (hfirst failure rfl)

/-- A change of the files that the system refuses is told as an error. -/
theorem failsInside_change (onRefusal : Host.SystemError → AnalysisError)
    (edit : Host → Option Host.SystemError × Host.FileTree) :
    FailsInside (change onRefusal edit) := by
  have hrefused (error : Host.SystemError) : (Failure.analysis (onRefusal error)).IsInner := trivial
  intro host
  rw [on_change]
  split
  · exact failsInside_ok ()
  · exact failsInside_error (Failure.ofSystem_isInner hrefused _)

end Action

/-! ## Versions and reply files -/

namespace Version

theorem numbers_failsInside (components : List (List Char)) : FailsInside (numbers components) := by
  induction components with
  | nil => exact failsInside_ok []
  | cons component rest ih =>
    rw [numbers]
    split
    · exact failsInside_ok []
    · split
      · exact failsInside_error trivial
      · exact ih.map _

theorem parse_failsInside (text : String) : FailsInside (parse text) := by
  have hnumbers := numbers_failsInside (Text.split '.' text.toList)
  unfold parse
  split
  · rename_i failure h
    exact failsInside_error (hnumbers failure h)
  · exact failsInside_error trivial
  · exact failsInside_ok _

theorem atLeast_failsInside (version minimum : String) :
    FailsInside (atLeast version minimum) := by
  refine (parse_failsInside version).bind fun _ => ?_
  exact (parse_failsInside minimum).bind fun _ => failsInside_ok _

end Version

namespace Reply

theorem load_failsInside (host : Host) (path : String) : FailsInside (load host path) := by
  have hunreadable (fault : Json.ReadFault) : (unreadable path fault).IsInner := by
    cases fault with
    | _ => trivial
  have hrefused (error : Host.SystemError) : (Failure.system error).IsInner := trivial
  unfold load
  split
  · exact failsInside_error trivial
  · split
    · exact failsInside_error trivial
    · split
      · exact failsInside_error (Failure.ofSystem_isInner hrefused _)
      · exact failsInside_mapError hunreadable _

theorem readIndex_failsInside (host : Host) (api : String) : FailsInside (readIndex host api) := by
  unfold readIndex
  simp only
  split
  · exact failsInside_error trivial
  · split
    · exact failsInside_error trivial
    · exact load_failsInside host _

end Reply

namespace BuildGraph

theorem checkVersion_failsInside (index : Json) : FailsInside (checkVersion index) := by
  refine (failsInside_analysis _).bind fun version => ?_
  refine (Version.atLeast_failsInside version minimumVersion).bind fun supported => ?_
  cases supported with
  | true => exact failsInside_ok ()
  | false => exact failsInside_error trivial

theorem checkIndex_failsInside (api : String) (host : Host) : FailsInside (checkIndex api host) :=
  (Reply.readIndex_failsInside host api).bind checkVersion_failsInside

theorem readReply_failsInside (host : Host) (file : ReplyFile) (path : String)
    (ask : Json → Except Json.Fault α) : FailsInside (readReply host file path ask) :=
  (Reply.load_failsInside host path).bind fun _ => failsInside_analysis _

theorem ofCache_failsInside (cache : Cache) : FailsInside (Toolchains.ofCache cache) := by
  refine (failsInside_fault _).bind fun _ => ?_
  refine (failsInside_fault _).bind fun _ => ?_
  exact failsInside_analysis _

theorem ofIndex_failsInside (host : Host) (directory : String) (index : Json) :
    FailsInside (ofIndex host directory index) := by
  refine (failsInside_fault _).bind fun responses => ?_
  refine (failsInside_fault _).bind fun files => ?_
  split
  · split
    · refine (readReply_failsInside host _ _ _).bind fun cache => ?_
      refine (readReply_failsInside host _ _ _).bind fun codemodel => ?_
      simp only
      split
      · refine (Reply.load_failsInside host _).bind fun data => ?_
        exact (failsInside_analysis _).bind fun _ => failsInside_ok _
      · exact (ofCache_failsInside cache).bind fun _ => failsInside_ok _
    · exact failsInside_error trivial
  · exact failsInside_error trivial

theorem ofReplies_failsInside (host : Host) (api : String) : FailsInside (ofReplies host api) := by
  refine (Reply.readIndex_failsInside host api).bind fun index => ?_
  refine (checkVersion_failsInside index).bind fun _ => ?_
  exact ofIndex_failsInside host _ index

/-! ## Loading -/

theorem preflight_failsInside (root : String) (cmake : Option String) (host : Host) :
    FailsInside (preflight root cmake host) := by
  unfold preflight
  split
  · exact failsInside_error trivial
  · split
    · exact failsInside_error trivial
    · split
      · exact failsInside_error trivial
      · split
        · exact failsInside_ok _
        · exact failsInside_error trivial

theorem permit_failsInside (loaded : Option BuildGraph) (root : String) (cmake : Option String)
    (host : Host) : FailsInside (permit loaded root cmake host) := by
  unfold permit
  split
  · exact failsInside_error trivial
  · refine (preflight_failsInside root cmake host).bind fun program => ?_
    exact (checkIndex_failsInside _ host).bind fun _ => failsInside_ok program

/-- The end of the process that configures the project is told as an error of the project. -/
theorem configured_failsInside (outcome : Host.Outcome) : FailsInside (configured outcome) := by
  cases outcome with
  | notStarted error =>
    cases error with
    | _ => exact failsInside_error trivial
  | exited code output =>
    unfold configured Action.answerOf
    simp only
    split
    · exact failsInside_ok ()
    · exact failsInside_error trivial

theorem writeQuery_failsInside (api : String) : (writeQuery api).FailsInside :=
  (Action.failsInside_change _ _).bind fun _ => Action.failsInside_change _ _

/-- Loading fails because of what is found on the host. -/
theorem load_failsInside (loaded : Option BuildGraph) (root : String) (cmake : Option String) :
    (load loaded root cmake).FailsInside := by
  intro host
  have hending := load_ending loaded root cmake host
  generalize (load loaded root cmake).on host = ended at hending ⊢
  cases hending with
  | @refused failure hpermit =>
    exact failsInside_error (permit_failsInside loaded root cmake host failure hpermit)
  | @notWritten program failure queried hpermit hwrite =>
    have hquery := writeQuery_failsInside (Path.join root apiDirectory) host
    rw [hwrite] at hquery
    exact failsInside_error (hquery failure rfl)
  | ran hpermit hwrite hstart =>
    exact (configured_failsInside _).bind fun _ => ofReplies_failsInside _ _

end BuildGraph

end BuildAnalysis
