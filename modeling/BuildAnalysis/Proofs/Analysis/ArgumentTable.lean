import BuildAnalysis.Analysis.Arguments
import BuildAnalysis.Proofs.Graph.Failures
import BuildAnalysis.Proofs.Host.Logging
import Mathlib.Data.List.Nodup

/-!
# The arguments for all compilers

The arguments for a compiler are found without a change to the host but for messages. They are found
once for each compiler, and the table has them for the compilers of all commands when it is complete.

* `argumentTable_isFilled`: what a complete table has, and why a table is not complete.
* `argumentTable_failsInside`: a table that is not complete is missing because of what is found.
-/

namespace BuildAnalysis.Analysis

open BuildAnalysis.Action (OnlyLogs)

variable {ruleset : Option String} {workspace compiler common : String} {options : CommandOptions}
  {table filled : ArgumentTable} {command : CompileCommand} {host after : Host}

/-! ## The arguments for one compiler -/

theorem onlyLogs_findRuleset (ruleset directory : Option String) (workspace : String) :
    (findRuleset ruleset directory workspace).OnlyLogs := by
  unfold findRuleset
  split
  · rename_i name own _ _
    refine (Action.onlyLogs_ask fun _ _ => rfl).bind fun isOwn => ?_
    cases isOwn with
    | true => exact Action.onlyLogs_pure _
    | false =>
      simp only [Bool.false_eq_true, if_false]
      split
      · refine (Action.onlyLogs_ask fun _ _ => rfl).bind fun isOfficial => ?_
        cases isOfficial with
        | true => exact Action.onlyLogs_pure _
        | false => exact Action.onlyLogs_report _
      · exact (Action.tells_log _ _ _).onlyLogs.bind fun _ => Action.onlyLogs_report _
  · exact Action.onlyLogs_pure none

/-- The engine is looked for without regard to the console. -/
theorem onlyLogs_engine (compiler : String) : (Action.ask (engine · compiler)).OnlyLogs := by
  refine Action.onlyLogs_ask fun host console => ?_
  unfold engine
  rw [Host.withConsole_pathExists]

theorem onlyLogs_rulesetDirectory (compiler : String) :
    (Action.ask (rulesetDirectory? · compiler)).OnlyLogs := by
  refine Action.onlyLogs_ask fun host console => ?_
  unfold rulesetDirectory?
  rw [Host.withConsole_isDirectory]

/-- Finding the arguments for a compiler changes nothing but the console. -/
theorem onlyLogs_commonArguments (compiler : String) (ruleset : Option String) (workspace : String)
    (options : CommandOptions) : (commonArguments compiler ruleset workspace options).OnlyLogs := by
  refine (onlyLogs_engine compiler).bind fun found => ?_
  refine (Action.onlyLogs_ofExcept _).bind fun engine => ?_
  refine (onlyLogs_rulesetDirectory compiler).bind fun directory => ?_
  refine (onlyLogs_findRuleset ruleset directory workspace).bind fun ruleset => ?_
  split
  · exact (Action.tells_log _ _ _).onlyLogs.bind fun _ => Action.onlyLogs_pure _
  · exact Action.onlyLogs_pure _

theorem findRuleset_failsInside (ruleset directory : Option String) (workspace : String) :
    (findRuleset ruleset directory workspace).FailsInside := by
  unfold findRuleset
  split
  · refine (Action.failsInside_ask _).bind fun isOwn => ?_
    cases isOwn with
    | true => exact Action.failsInside_pure _
    | false =>
      simp only [Bool.false_eq_true, if_false]
      split
      · refine (Action.failsInside_ask _).bind fun isOfficial => ?_
        cases isOfficial with
        | true => exact Action.failsInside_pure _
        | false => exact Action.failsInside_report _
      · exact (Action.failsInside_log _ _ _).bind fun _ => Action.failsInside_report _
  · exact Action.failsInside_pure none

theorem commonArguments_failsInside (compiler : String) (ruleset : Option String)
    (workspace : String) (options : CommandOptions) :
    (commonArguments compiler ruleset workspace options).FailsInside := by
  refine (Action.failsInside_ask _).bind fun found => ?_
  refine (Action.failsInside_ofExcept (failsInside_analysis _)).bind fun engine => ?_
  refine (Action.failsInside_ask _).bind fun directory => ?_
  refine (findRuleset_failsInside ruleset directory workspace).bind fun ruleset => ?_
  split
  · exact (Action.failsInside_log _ _ _).bind fun _ => Action.failsInside_pure _
  · exact Action.failsInside_pure _

/-! ## The table -/

theorem addArguments_failsInside (table : ArgumentTable) (command : CompileCommand) :
    (addArguments ruleset workspace options table command).FailsInside := by
  unfold addArguments
  simp only
  split
  · exact Action.failsInside_pure _
  · exact (commonArguments_failsInside _ _ _ _).bind fun _ => Action.failsInside_pure _

theorem foldlM_addArguments_failsInside (commands : List CompileCommand) (table : ArgumentTable) :
    (commands.foldlM (addArguments ruleset workspace options) table).FailsInside := by
  induction commands generalizing table with
  | nil => exact Action.failsInside_pure table
  | cons command rest ih =>
    rw [List.foldlM_cons]
    exact (addArguments_failsInside table command).bind ih

/-- A table that is not complete is missing because of what is found on the host. -/
theorem argumentTable_failsInside (commands : List CompileCommand) (ruleset : Option String)
    (workspace : String) (options : CommandOptions) :
    (argumentTable commands ruleset workspace options).FailsInside :=
  foldlM_addArguments_failsInside commands []

theorem onlyLogs_addArguments (table : ArgumentTable) (command : CompileCommand) :
    (addArguments ruleset workspace options table command).OnlyLogs := by
  unfold addArguments
  simp only
  split
  · exact Action.onlyLogs_pure _
  · exact (onlyLogs_commonArguments _ _ _ _).bind fun _ => Action.onlyLogs_pure _

theorem onlyLogs_foldlM_addArguments (commands : List CompileCommand) (table : ArgumentTable) :
    (commands.foldlM (addArguments ruleset workspace options) table).OnlyLogs := by
  induction commands generalizing table with
  | nil => exact Action.onlyLogs_pure table
  | cons command rest ih =>
    rw [List.foldlM_cons]
    exact (onlyLogs_addArguments table command).bind ih

/-! ### What is in the table -/

/-- The arguments for a compiler as they are found on a host. -/
def foundOn (host : Host) (ruleset : Option String) (workspace : String) (options : CommandOptions)
    (compiler : String) : Except Failure String :=
  ((commonArguments compiler ruleset workspace options).on host).1

/-- Whether a table has one entry for each of some compilers, with the arguments that are found for
it, and no other entry. -/
structure IsTableFor (found : String → Except Failure String) (compilers : List String)
    (table : ArgumentTable) : Prop where
  nodup : (table.map (·.1)).Nodup
  mem_iff : ∀ compiler common, (compiler, common) ∈ table ↔
    compiler ∈ compilers ∧ found compiler = .ok common
  found : ∀ compiler ∈ compilers, ∃ common, found compiler = .ok common

/-- How a table is filled for compilers: it is complete, or the arguments of one of them are not
found, while those of all before it are. -/
inductive IsFilled (found : String → Except Failure String) (compilers : List String) :
    Except Failure ArgumentTable → Prop
  | complete {table : ArgumentTable} (h : IsTableFor found compilers table) :
    IsFilled found compilers (.ok table)
  | failed {before after : List String} {compiler : String} {failure : Failure}
    (hcompilers : compilers = before ++ compiler :: after)
    (hbefore : ∀ earlier ∈ before, ∃ common, found earlier = .ok common)
    (h : found compiler = .error failure) : IsFilled found compilers (.error failure)

/-- A table with the arguments for one more compiler. -/
def extend (found : String → Except Failure String) (table : ArgumentTable) (compiler : String) :
    Except Failure ArgumentTable :=
  if (table.get? compiler).isSome then .ok table
  else (found compiler).map fun common => table ++ [(compiler, common)]

theorem addArguments_answer (host : Host) (table : ArgumentTable) (command : CompileCommand) :
    ((addArguments ruleset workspace options table command).on host).1 =
      extend (foundOn host ruleset workspace options) table command.compiler.path := by
  unfold addArguments extend
  simp only
  split
  · rfl
  · rw [Action.on_bind, foundOn]
    cases (commonArguments command.compiler.path ruleset workspace options).on host with
    | mk answer after =>
      cases answer with
      | ok common => rfl
      | error failure => rfl

/-- The table is filled on the host as it is found: what is logged on the way does not matter. -/
theorem foldlM_addArguments_answer (host : Host) (commands : List CompileCommand)
    (table : ArgumentTable) :
    ((commands.foldlM (addArguments ruleset workspace options) table).on host).1 =
      (commands.map (·.compiler.path)).foldlM
        (extend (foundOn host ruleset workspace options)) table := by
  induction commands generalizing table with
  | nil => rfl
  | cons command rest ih =>
    rw [List.foldlM_cons, List.map_cons, List.foldlM_cons,
      (onlyLogs_addArguments table command).answer_bind (onlyLogs_foldlM_addArguments rest),
      addArguments_answer]
    exact bind_congr ih

/-- In a table with one entry for each compiler, what is found for one is its entry. -/
theorem get?_eq_some (h : (table.map (·.1)).Nodup) :
    table.get? compiler = some common ↔ (compiler, common) ∈ table := by
  rw [ArgumentTable.get?, Option.map_eq_some_iff]
  constructor
  · rintro ⟨entry, hfind, rfl⟩
    have hkey := List.find?_some hfind
    obtain rfl : entry.1 = compiler := by simpa using hkey
    exact List.mem_of_find?_eq_some hfind
  · intro hmem
    cases hfind : table.find? (·.1 == compiler) with
    | none => exact absurd (List.find?_eq_none.1 hfind _ hmem) (by simp)
    | some entry =>
      have hentry := List.mem_of_find?_eq_some hfind
      have hkey : entry.1 = compiler := by simpa using List.find?_some hfind
      exact ⟨entry, rfl, by rw [List.inj_on_of_nodup_map h hentry hmem hkey]⟩

variable {found : String → Except Failure String} {compilers : List String}

theorem isTableFor_nil : IsTableFor found [] [] where
  nodup := List.nodup_nil
  mem_iff _ _ := by simp
  found _ h := absurd h List.not_mem_nil

/-- One more compiler has its entry after it was added. -/
theorem IsTableFor.extend (h : IsTableFor found compilers table)
    (hfilled : extend found table compiler = .ok filled) :
    IsTableFor found (compilers ++ [compiler]) filled := by
  unfold Analysis.extend at hfilled
  split at hfilled
  · rename_i hsome
    cases hfilled
    obtain ⟨common, hcommon⟩ := Option.isSome_iff_exists.1 hsome
    have hmem := ((h.mem_iff _ _).1 ((get?_eq_some h.nodup).1 hcommon)).1
    have hiff (other : String) : other ∈ compilers ++ [compiler] ↔ other ∈ compilers := by
      rw [List.mem_append, List.mem_singleton]
      exact or_iff_left_of_imp fun heq => heq ▸ hmem
    exact ⟨h.nodup, fun other common => by rw [hiff, h.mem_iff],
      fun other hother => h.found other ((hiff other).1 hother)⟩
  · rename_i hnone
    obtain ⟨common, hcommon, rfl⟩ := map_eq_ok.1 hfilled
    -- no entry is that of the compiler, for it would be found
    have hnew : compiler ∉ table.map (·.1) := by
      intro hmem
      obtain ⟨⟨other, value⟩, hentry, rfl⟩ := List.mem_map.1 hmem
      rw [(get?_eq_some h.nodup).2 hentry] at hnone
      exact hnone rfl
    refine ⟨?_, fun other value => ?_, fun other hother => ?_⟩
    · rw [List.map_append, List.nodup_append_comm]
      exact List.nodup_cons.2 ⟨hnew, h.nodup⟩
    · rw [List.mem_append, h.mem_iff, List.mem_append, List.mem_singleton, List.mem_singleton,
        Prod.mk.injEq, or_and_right]
      refine or_congr_right ⟨?_, ?_⟩
      · rintro ⟨rfl, rfl⟩
        exact ⟨rfl, hcommon⟩
      · rintro ⟨rfl, hvalue⟩
        rw [hcommon] at hvalue
        cases hvalue
        exact ⟨rfl, rfl⟩
    · rcases List.mem_append.1 hother with hother | hother
      · exact h.found other hother
      · rw [List.mem_singleton.1 hother]
        exact ⟨common, hcommon⟩

/-- A compiler is not added to a table only if its arguments are not found. -/
theorem extend_eq_error {failure : Failure} (h : extend found table compiler = .error failure) :
    found compiler = .error failure := by
  unfold extend at h
  split at h
  · cases h
  · cases hfound : found compiler with
    | ok common =>
      rw [hfound] at h
      cases h
    | error other =>
      rw [hfound] at h
      cases h
      rfl

/-- A table that is filled for more compilers is complete, or fails with the first of them whose
arguments are not found. -/
theorem IsTableFor.foldlM_extend (h : IsTableFor found compilers table) (more : List String) :
    IsFilled found (compilers ++ more) (more.foldlM (Analysis.extend found) table) := by
  induction more generalizing compilers table with
  | nil =>
    rw [List.append_nil]
    exact .complete h
  | cons compiler rest ih =>
    rw [List.foldlM_cons]
    cases hextend : Analysis.extend found table compiler with
    | ok next =>
      have hrest := ih (h.extend hextend)
      rwa [List.append_assoc] at hrest
    | error failure => exact .failed rfl h.found (extend_eq_error hextend)

/-- The table for commands is filled for their compilers. -/
theorem argumentTable_isFilled (commands : List CompileCommand) (ruleset : Option String)
    (workspace : String) (options : CommandOptions) (host : Host) :
    IsFilled (foundOn host ruleset workspace options) (commands.map (·.compiler.path))
      ((argumentTable commands ruleset workspace options).on host).1 := by
  rw [argumentTable, foldlM_addArguments_answer]
  exact isTableFor_nil.foldlM_extend _

/-- A complete table has the arguments for the compiler of each command, as they are found on the
host. -/
theorem argumentTable_ok {commands : List CompileCommand}
    (h : (argumentTable commands ruleset workspace options).on host = (.ok table, after)) :
    (∃ console, after = host.withConsole console) ∧
      ∀ command ∈ commands, ∃ common, table.get? command.compiler.path = some common ∧
        ((commonArguments command.compiler.path ruleset workspace options).on host).1 =
          .ok common := by
  have hfilled := argumentTable_isFilled commands ruleset workspace options host
  obtain ⟨console, hafter⟩ := (onlyLogs_foldlM_addArguments commands []).after host
  rw [h] at hfilled
  generalize hanswer : (Except.ok table : Except Failure ArgumentTable) = answer at hfilled
  cases hfilled with
  | failed => cases hanswer
  | complete htable =>
    cases hanswer
    refine ⟨⟨console, (congrArg Prod.snd h).symm.trans hafter⟩, fun command hcommand => ?_⟩
    have hcompiler : command.compiler.path ∈ commands.map (·.compiler.path) :=
      List.mem_map_of_mem hcommand
    obtain ⟨common, hcommon⟩ := htable.found _ hcompiler
    exact ⟨common, (get?_eq_some htable.nodup).2 ((htable.mem_iff _ _).2 ⟨hcompiler, hcommon⟩),
      hcommon⟩

end BuildAnalysis.Analysis
