import BuildAnalysis.Proofs.Answers
import BuildAnalysis.Proofs.Target.Feed

/-!
# Commands that look alike

Two runs may give commands that differ in a part that does not matter: in their sources, or in what is
known of their compilers. Commands look alike when all that is seen of them is the same.

* `Target.commands_alike`: the commands of a target look alike if its sources and its compilers do.
* `Feed.pull_alike`: feeds that look alike give pieces that look alike, and so do the feeds after
  them.
-/

namespace BuildAnalysis

variable {α β : Type}

/-- What is seen of a command: some of its source, its arguments, and some of its compiler. -/
def CompileCommand.seen (ofSource : String → α) (ofCompiler : Compiler → β)
    (command : CompileCommand) : α × String × β :=
  (ofSource command.source, command.args, ofCompiler command.compiler)

/-- What is seen of a piece: what is seen of its commands, whether the end was told, and the
failure. -/
def Pull.seen (f : CompileCommand → α) (pull : Pull) : List α × Bool × Option Failure :=
  (pull.commands.map f, pull.done, pull.failure)

/-! ## Stretches -/

/-- Whether two stretches look alike: their commands do, and they fail in the same way. -/
structure Stretch.Alike (f : CompileCommand → α) (stretch other : Stretch) : Prop where
  commands : other.commands.map f = stretch.commands.map f
  failure : other.failure = stretch.failure

namespace Stretch.Alike

variable {f : CompileCommand → α} {first first' second second' : Stretch}

theorem refl (stretch : Stretch) : stretch.Alike f stretch := ⟨rfl, rfl⟩

theorem append (h : first.Alike f first') (hrest : second.Alike f second') :
    (first.append second).Alike f (first'.append second') := by
  cases hfailure : first.failure with
  | some failure =>
    rw [append_of_failure hfailure, append_of_failure (h.failure.trans hfailure)]
    exact h
  | none =>
    rw [append_of_none hfailure, append_of_none (h.failure.trans hfailure)]
    refine ⟨?_, hrest.failure⟩
    rw [List.map_append, List.map_append, h.commands, hrest.commands]

theorem cons {command command' : CompileCommand} (h : f command' = f command)
    (hrest : second.Alike f second') : (second.cons command).Alike f (second'.cons command') := by
  refine ⟨?_, hrest.failure⟩
  rw [Stretch.cons, Stretch.cons, List.map_cons, List.map_cons, h, hrest.commands]

end Stretch.Alike

/-! ## Targets -/

namespace Target

variable {ofSource : String → α} {ofCompiler : Compiler → β} {target : Target} {root root' : Json}
  {compilers compilers' : Compilers} {options : CommandOptions}

theorem commandsAt_alike
    (hsource : ∀ index, (target.source root' index).map ofSource =
      (target.source root index).map ofSource)
    {compiler compiler' : Compiler} (hcompiler : ofCompiler compiler' = ofCompiler compiler)
    (args : String) (indexes : List Json) :
    (target.commandsAt root args compiler indexes).Alike (CompileCommand.seen ofSource ofCompiler)
      (target.commandsAt root' args compiler' indexes) := by
  induction indexes with
  | nil => exact .refl _
  | cons index rest ih =>
    rw [commandsAt, commandsAt]
    rcases map_eq_map (hsource (index.integer?.getD 0)) with
      ⟨fault, hfault, hfault'⟩ | ⟨source, source', hfound, hfound', hsame⟩
    · rw [hfault, hfault']
      exact .refl _
    · rw [hfound, hfound']
      refine .cons ?_ ih
      rw [CompileCommand.seen, CompileCommand.seen, hsame, hcompiler]

theorem groupCommands_alike
    (hsource : ∀ index, (target.source root' index).map ofSource =
      (target.source root index).map ofSource)
    (hcompilers : ∀ name, (compilers' name).map ofCompiler = (compilers name).map ofCompiler)
    (group : CompileGroup) :
    (target.groupCommands root compilers options group).Alike
      (CompileCommand.seen ofSource ofCompiler)
      (target.groupCommands root' compilers' options group) := by
  rw [groupCommands, groupCommands, CompileGroup.compiler?, CompileGroup.compiler?]
  cases group.language.key with
  | error fault => exact .refl _
  | ok key =>
    cases key with
    | string name =>
      have hname := hcompilers name
      simp only [bind, Except.bind, pure, Except.pure]
      cases hfound : compilers name with
      | none =>
        rw [hfound, Option.map_none, Option.map_eq_none_iff] at hname
        rw [hname]
        exact .refl _
      | some compiler =>
        rw [hfound, Option.map_some, Option.map_eq_some_iff] at hname
        obtain ⟨compiler', hother, hsame⟩ := hname
        rw [hother]
        simp only
        cases group.arguments options with
        | error fault => exact .refl _
        | ok args => exact commandsAt_alike hsource hsame args group.sourceIndexes
    | _ => exact .refl _

/-- The commands of a target look alike if its sources and its compilers do. -/
theorem commands_alike
    (hsource : ∀ index, (target.source root' index).map ofSource =
      (target.source root index).map ofSource)
    (hcompilers : ∀ name, (compilers' name).map ofCompiler = (compilers name).map ofCompiler) :
    (target.commands root compilers options).Alike (CompileCommand.seen ofSource ofCompiler)
      (target.commands root' compilers' options) := by
  rw [commands, commands]
  induction target.groups with
  | nil => exact .refl _
  | cons group rest ih => exact (groupCommands_alike hsource hcompilers group).append ih

end Target

/-! ## Feeds -/

namespace Feed

variable {σ : Type} {f : CompileCommand → α} {read read' : σ → Stretch} {files : List σ}
  {feed feed' : Feed σ}

/-- Whether two feeds look alike that have targets out of `files` before them. -/
structure Alike (f : CompileCommand → α) (files : List σ) (feed feed' : Feed σ) : Prop where
  ready : feed'.ready.map f = feed.ready.map f
  failure : feed'.failure = feed.failure
  pending : feed'.pending = feed.pending
  files : feed.pending ⊆ files

theorem alike_empty (f : CompileCommand → α) (files : List σ) : Alike f files {} {} :=
  ⟨rfl, rfl, rfl, List.nil_subset files⟩

theorem pullFrom_alike (hread : ∀ file ∈ files, (read file).Alike f (read' file))
    (limit : Option Nat) (ready : List CompileCommand) (failure : Option Failure)
    {pending : List σ} (hfiles : pending ⊆ files) :
    ∀ ready' : List CompileCommand, ready'.map f = ready.map f →
      (pullFrom read' limit ready' failure pending).1.seen f =
          (pullFrom read limit ready failure pending).1.seen f ∧
        Alike f files (pullFrom read limit ready failure pending).2
          (pullFrom read' limit ready' failure pending).2 := by
  have length_eq {ready ready' : List CompileCommand} (h : ready'.map f = ready.map f) :
      ready'.length = ready.length := by
    simpa using congrArg List.length h
  -- both feeds take the same branch each time, since as many commands are ready
  fun_induction pullFrom read limit ready failure pending with
  | case1 pending limit ready failure hlimit n =>
    intro ready' hready
    rw [pullFrom_of_le (by rw [length_eq hready]; exact hlimit)]
    refine ⟨?_, ?_, rfl, rfl, hfiles⟩
    · rw [Pull.seen, Pull.seen, List.map_take, List.map_take, hready]
    · rw [List.map_drop, List.map_drop, hready]
  | case2 pending limit ready hlimit failure =>
    intro ready' hready
    rw [pullFrom, length_eq hready, if_neg hlimit]
    exact ⟨by rw [Pull.seen, Pull.seen, hready], alike_empty f files⟩
  | case3 limit ready hlimit =>
    intro ready' hready
    rw [pullFrom, length_eq hready, if_neg hlimit]
    exact ⟨by rw [Pull.seen, Pull.seen, hready], alike_empty f files⟩
  | case4 limit ready hlimit target rest stretch pull feed hpull ih =>
    intro ready' hready
    obtain ⟨htarget, hrest⟩ := List.cons_subset.1 hfiles
    have hstretch : stretch.Alike f (read' target) := hread target htarget
    obtain ⟨hpiece, hfeed⟩ := ih hrest (read' target).commands hstretch.commands
    rw [hpull] at hpiece hfeed
    rw [pullFrom, length_eq hready, if_neg hlimit]
    simp only [hstretch.failure]
    refine ⟨?_, hfeed⟩
    simp only [Pull.seen, Prod.mk.injEq] at hpiece ⊢
    rw [List.map_append, List.map_append, hready, hpiece.1]
    exact ⟨rfl, hpiece.2⟩

/-- Feeds that look alike give pieces that look alike, and so do the feeds after them. -/
theorem Alike.pull (h : Alike f files feed feed')
    (hread : ∀ file ∈ files, (read file).Alike f (read' file)) (limit : Option Nat) :
    (feed'.pull read' limit).1.seen f = (feed.pull read limit).1.seen f ∧
      Alike f files (feed.pull read limit).2 (feed'.pull read' limit).2 := by
  rw [Feed.pull, Feed.pull, h.failure, h.pending]
  exact pullFrom_alike hread limit feed.ready feed.failure h.files feed'.ready h.ready

end Feed

end BuildAnalysis
