import BuildAnalysis.Proofs.Analysis.Preparation
import BuildAnalysis.Proofs.CommandLine.Reading

/-!
# Texts that can be handed to the system

The words of a command line are made of the characters of its parts. So the system can be asked for
the processes that analyze the sources of commands, unless the null character is in one of the texts
that their command lines are made of, or in the environment.

* `CommandLine.not_mem_split`: a character that is in no word of a line.
* `AreFromPassable.isPassable_analyses`: when the system can be asked for all processes.
-/

namespace BuildAnalysis

/-! ## The characters of command lines -/

namespace CommandLine

variable {scan : Scan} {c : Char} {cs : List Char}

theorem Scan.not_mem_withBackslashes (hb : c ≠ '\\') (h : c ∉ scan.word) (n : Nat) :
    c ∉ scan.withBackslashes n := by
  rw [withBackslashes, List.mem_append, not_or]
  exact ⟨fun hmem => hb (List.eq_of_mem_replicate hmem), h⟩

theorem Scan.not_mem_words (hb : c ≠ '\\') (h : c ∉ scan.word) : ∀ word ∈ scan.words, c ∉ word := by
  intro word hword
  rw [words] at hword
  split at hword
  · rw [List.mem_singleton.1 hword, List.mem_reverse]
    exact not_mem_withBackslashes hb h _
  · cases hword

/-- Reading a character puts that character at most into the word, and backslashes and quotes. -/
theorem Scan.not_mem_next (hb : c ≠ '\\') (hq : c ≠ '"') (h : c ∉ scan.word) {d : Char}
    (hd : c ≠ d) : c ∉ (scan.next d).word := by
  have hkept (n : Nat) : c ∉ scan.withBackslashes n := not_mem_withBackslashes hb h n
  rw [next]
  split
  · exact h
  · split
    · rw [quote]
      split
      · simp [hq, hkept]
      · exact hkept _
    · split
      · simp
      · simp [plain, hd, hkept]

/-- A character that is not in a text, and is no backslash and no quote, is in no word of it. -/
theorem not_mem_splitFrom (hb : c ≠ '\\') (hq : c ≠ '"') (hscan : c ∉ scan.word) (h : c ∉ cs) :
    ∀ word ∈ splitFrom scan cs, c ∉ word := by
  induction cs generalizing scan with
  | nil => exact Scan.not_mem_words hb hscan
  | cons d rest ih =>
    rw [List.mem_cons, not_or] at h
    intro word hword
    rw [splitFrom_cons, List.mem_append] at hword
    rcases hword with hended | hrest
    · split at hended
      · exact Scan.not_mem_words hb hscan word hended
      · cases hended
    · exact ih (Scan.not_mem_next hb hq hscan h.1) h.2 word hrest

theorem not_mem_split {line word : String} (hb : c ≠ '\\') (hq : c ≠ '"') (h : c ∉ line.toList)
    (hword : word ∈ split line) : c ∉ word.toList := by
  obtain ⟨cs, hcs, rfl⟩ := List.mem_map.1 hword
  rw [String.toList_ofList]
  exact not_mem_splitFrom hb hq (by simp) h cs hcs

theorem not_mem_quote {word : String} (hb : c ≠ '\\') (hq : c ≠ '"') (h : c ∉ word.toList) :
    c ∉ (quote word).toList := by
  rw [quote, String.toList_ofList, quoteChars]
  simp [hb, hq, h]

/-- A character that is in no part of a line, and is no space, is not in the line. -/
theorem not_mem_join {parts : List String} (hspace : c ≠ ' ')
    (h : ∀ part ∈ parts, c ∉ part.toList) : c ∉ (join parts).toList := by
  induction parts with
  | nil => exact List.not_mem_nil
  | cons part rest ih =>
    obtain ⟨hpart, hrest⟩ := List.forall_mem_cons.1 h
    have hrest := ih hrest
    rw [join_cons, spaced]
    split
    · exact hrest
    · split
      · exact hpart
      · simp [hpart, hrest, hspace]

end CommandLine

namespace Analysis

open Host (isPassable isPassable_iff)

/-! ## The processes for commands -/

variable {host : Host} {table : ArgumentTable} {results : String} {command : CompileCommand}
  {commands : List CompileCommand}

/-- Whether no null character is in the texts from which the processes for commands are made. -/
structure AreFromPassable (host : Host) (table : ArgumentTable) (results : String)
    (commands : List CompileCommand) : Prop where
  environment : ∀ entry ∈ host.environment, isPassable entry.1 = true ∧ isPassable entry.2 = true
  results : isPassable results = true
  common : ∀ entry ∈ table, isPassable entry.2 = true
  compiler : ∀ command ∈ commands, isPassable command.compiler.path = true
  args : ∀ command ∈ commands, isPassable command.args = true
  source : ∀ command ∈ commands, isPassable command.source = true

/-- The command line of a source can be handed over if its parts can. -/
theorem AreFromPassable.not_mem_lineOf (h : AreFromPassable host table results commands)
    (hcommand : command ∈ commands) (n : Nat) :
    '\x00' ∉ (lineOf table results command
      (ReportNames.numbered (Path.basename command.source) n)).toList := by
  have hcompiler := isPassable_iff.1 (h.compiler command hcommand)
  have hargs := isPassable_iff.1 (h.args command hcommand)
  have hsource := isPassable_iff.1 (h.source command hcommand)
  have hcommon : '\x00' ∉ ((table.get? command.compiler.path).getD "").toList := by
    unfold ArgumentTable.get?
    cases hentry : table.find? (·.1 == command.compiler.path) with
    | none => exact List.not_mem_nil
    | some entry => exact isPassable_iff.1 (h.common entry (List.mem_of_find?_eq_some hentry))
  have hpath := ReportNames.not_mem_path (by decide) (by decide) (by decide) (by decide)
    (isPassable_iff.1 h.results) hsource n
  have hlog : '\x00' ∉ ("/analyze:log" ++ ReportNames.path results
      (ReportNames.numbered (Path.basename command.source) n)).toList := by
    rw [String.toList_append, List.mem_append, not_or]
    exact ⟨by decide, hpath⟩
  have hquote {word : String} (hword : '\x00' ∉ word.toList) :=
    CommandLine.not_mem_quote (by decide) (by decide) hword
  refine CommandLine.not_mem_join (by decide) ?_
  simp only [List.forall_mem_cons, List.not_mem_nil, false_implies, implies_true, and_true]
  exact ⟨hquote hcompiler, hargs, hcommon, hquote hlog, hquote hsource⟩

/-- The environment of the analyzer can be handed over if that of the host can. -/
theorem isPassable_analyzerEnvironment {environment : Host.Environment}
    (h : ∀ entry ∈ environment, isPassable entry.1 = true ∧ isPassable entry.2 = true) :
    ∀ entry ∈ analyzerEnvironment environment,
      isPassable entry.1 = true ∧ isPassable entry.2 = true := by
  intro entry hentry
  rw [analyzerEnvironment, Host.Environment.set, List.mem_append] at hentry
  rcases hentry with hkept | hset
  · exact h entry (List.mem_filter.1 hkept).1
  · rw [List.mem_singleton.1 hset]
    decide

/-- The system can be asked for the process that analyzes a source. -/
theorem AreFromPassable.isPassable_analysisOf (h : AreFromPassable host table results commands)
    (hcommand : command ∈ commands) (n : Nat) :
    (analysisOf host table results command
      (ReportNames.numbered (Path.basename command.source) n)).isPassable = true := by
  have hline := h.not_mem_lineOf hcommand n
  have hsource := isPassable_iff.1 (h.source command hcommand)
  have hdirectory : isPassable (Path.dirname command.source) = true :=
    isPassable_iff.2 fun hmem => hsource ((Path.dirname_prefix command.source).subset hmem)
  have henvironment := isPassable_analyzerEnvironment h.environment
  rw [Host.Invocation.isPassable, List.all_eq_true]
  intro text htext
  simp only [analysisOf, Host.Invocation.texts, Host.Command.texts, Option.getD_some,
    List.mem_append, List.mem_cons] at htext
  rcases htext with hword | hplace | hvariable
  · exact isPassable_iff.2 (CommandLine.not_mem_split (by decide) (by decide) hline hword)
  · rw [hplace]
    exact host.isPassable_absolute hdirectory
  · obtain ⟨entry, hentry, htext⟩ := List.mem_flatMap.1 hvariable
    obtain ⟨hname, hvalue⟩ := henvironment entry hentry
    simp only [List.mem_cons, List.not_mem_nil, or_false] at htext
    rcases htext with rfl | rfl
    · exact hname
    · exact hvalue

/-- So it can be asked for all of these processes. -/
theorem AreFromPassable.isPassable_analyses (h : AreFromPassable host table results commands)
    (names : ReportNames) : ∀ child ∈ analyses host table results names commands,
      child.isPassable = true := by
  -- the induction is on the commands that are left, whose texts are among those of all
  suffices hleft : ∀ (left : List CompileCommand) (names : ReportNames), left ⊆ commands →
      ∀ child ∈ analyses host table results names left, child.isPassable = true from
    hleft commands names (List.Subset.refl commands)
  intro left
  induction left with
  | nil => exact fun _ _ _ hchild => absurd hchild List.not_mem_nil
  | cons command rest ih =>
    intro names hleft child hchild
    obtain ⟨hcommand, hrest⟩ := List.cons_subset.1 hleft
    rw [analyses_cons, List.mem_cons] at hchild
    rcases hchild with rfl | hchild
    · obtain ⟨n, -, hname, -⟩ := names.allocate_eq command.source
      rw [hname]
      exact h.isPassable_analysisOf hcommand n
    · exact ih _ hrest child hchild

end Analysis

end BuildAnalysis
