import BuildAnalysis.Target.Commands

/-!
# Commands on demand

A feed gives the commands of one target after the other, as many at a time as are asked for. A
target is read when its first command is asked for, and not before. After its end or a failure a
feed gives nothing more.
-/

namespace BuildAnalysis

/-- Commands that are ready, the failure that follows them, and the targets not read yet. -/
structure Feed (σ : Type) where
  ready : List CompileCommand := []
  failure : Option Failure := none
  pending : List σ := []

/-- What a feed gave: commands, whether the feed told its end, and the failure that it ended
with. -/
structure Pull where
  commands : List CompileCommand
  done : Bool
  failure : Option Failure

namespace Feed

variable {σ : Type}

/-- The commands that a feed gives up to a limit, and the feed after them. Targets are read by
`read`. -/
def pullFrom (read : σ → Stretch) (limit : Option Nat) (ready : List CompileCommand)
    (failure : Option Failure) (pending : List σ) : Pull × Feed σ :=
  if limit.any (· ≤ ready.length) then
    let n := limit.getD 0
    (⟨ready.take n, false, none⟩, ⟨ready.drop n, failure, pending⟩)
  else
    match failure with
    | some f => (⟨ready, false, some f⟩, {})
    | none =>
      match pending with
      | [] => (⟨ready, true, none⟩, {})
      | target :: rest =>
        let stretch := read target
        let (pull, feed) :=
          pullFrom read (limit.map (· - ready.length)) stretch.commands stretch.failure rest
        ({ pull with commands := ready ++ pull.commands }, feed)

/-- The commands that a feed gives up to a limit, and the feed after them. -/
def pull (read : σ → Stretch) (limit : Option Nat) (feed : Feed σ) : Pull × Feed σ :=
  pullFrom read limit feed.ready feed.failure feed.pending

end Feed

end BuildAnalysis
