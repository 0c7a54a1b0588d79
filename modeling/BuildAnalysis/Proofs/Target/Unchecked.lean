import BuildAnalysis.Proofs.Target.Replies
import BuildAnalysis.Proofs.Target.Usable

/-!
# Targets with values of any kind

Whether a target is accepted and whether its commands can be made are different questions: the first
is settled by the indexes of its sources alone, the second by the kinds of its other values.

* `Target.isTakenUnchecked`: which targets are accepted, and what becomes of their commands.
* `Target.commands_untyped`: an accepted target with a define that is no text and with a group that
  breaks off.
-/

namespace BuildAnalysis

namespace Target

/-- What becomes of a target whose values are not checked. -/
structure IsTakenUnchecked (target : Target) : Prop where
  /-- A target is read from some reply exactly if its indexes count its sources. -/
  accepted : (∃ data, ofReply target.file data = .ok target) ↔ target.IndexesCount
  /-- If it is read, and its groups can all be used, each gives a command for each of its
  indexes. -/
  used : ∀ data, ofReply target.file data = .ok target → ∀ root compilers options,
    (∀ group ∈ target.groups, group.IsUsable target compilers) →
      target.commands (.string root) compilers options =
        ⟨target.groups.flatMap fun group =>
          group.commandsFor target root compilers options group.sourceIndexes, none⟩
  /-- If it is read, but one of its groups can not be used, the first such group breaks the commands
  off, for a value of the wrong kind. -/
  brokenOff : ∀ data, ofReply target.file data = .ok target → ∀ root compilers options,
    ¬ (∀ group ∈ target.groups, group.IsUsable target compilers) →
      ∃ before group after indexes fault, target.groups = before ++ group :: after ∧
        (∀ g ∈ before, g.IsUsable target compilers) ∧
        group.BreaksOff target compilers indexes fault ∧ fault.word = "TypeError" ∧
        target.commands (.string root) compilers options =
          ⟨(before.flatMap fun g =>
              g.commandsFor target root compilers options g.sourceIndexes) ++
            group.commandsFor target root compilers options indexes, some (.fault fault)⟩

variable {target : Target}

theorem badIndex?_of_ofReply {file : String} {data : Json} (h : ofReply file data = .ok target) :
    target.badIndex? = none :=
  badIndex?_eq_none.2 (ofReply_iff.1 h).2

/-- Only the indexes of a target are checked; whether its other values can be used shows when its
commands are made. -/
theorem isTakenUnchecked (target : Target) : target.IsTakenUnchecked where
  accepted := by
    constructor
    · rintro ⟨data, h⟩
      exact badIndex?_eq_none.1 (badIndex?_of_ofReply h)
    · intro h
      exact ⟨target.reply, ofReply_reply h⟩
  used data h root compilers options := commands_of_isUsable (badIndex?_of_ofReply h)
  brokenOff data h root compilers options hnot := by
    obtain ⟨before, group, after, hcut, hbefore, hgroup⟩ :=
      (forall_or_exists_first (·.IsUsable target compilers) target.groups).resolve_left hnot
    obtain ⟨indexes, fault, hbreaks⟩ :=
      (group.isUsable_or_breaksOff target compilers).resolve_left hgroup
    refine ⟨before, group, after, indexes, fault, hcut, hbefore, hbreaks, hbreaks.word, ?_⟩
    exact commands_of_breaksOff (badIndex?_of_ofReply h) hcut hbefore hbreaks

/-- A target with a define that is no text, and with a group whose language is no key. -/
def untyped : Json :=
  .object [("sources", .array [.entry "path" (.string "a.cpp")]),
    ("compileGroups", .array [
      .object [("language", .string "CXX"), ("defines", .array [.entry "define" .null]),
        ("sourceIndexes", .array [.integer 0])],
      .entry "language" (.array [])])]

/-- A compiler for C++ alone. -/
def cxxOnly : Compilers := fun name =>
  if name = "CXX" then some ⟨"cl", .null, []⟩ else none

theorem commands_untyped : ∃ target, ofReply "t.json" untyped = .ok target ∧
    target.commands (.string "/p") cxxOnly {} =
      ⟨[{ source := "/p/a.cpp", args := "\"/DNone\"", compiler := ⟨"cl", .null, []⟩ }],
        some (.fault (.noKey .array))⟩ := by
  refine ⟨described "t.json" untyped, ?_, ?_⟩
  · rfl
  · rfl

end Target

end BuildAnalysis
