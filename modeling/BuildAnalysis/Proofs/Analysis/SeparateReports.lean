import BuildAnalysis.Proofs.Analysis.AnalyzerRuns
import BuildAnalysis.Proofs.CommandLine.QuotedWord

/-!
# No report takes the place of another

The names of the reports are different, and each is a single component of a path below the directory
of the results, so that the paths are different too. The processes of the analyzer are asked to write
to these paths, each to its own, provided that the command lines are read as they are meant. A quote
in the name of a source can spoil that: the names of `ab.c` and of `a""b.c` are different, but the
analyzer reads both as the first.

* `reports_separate`: the reports of sources are kept apart, and so are the files that the analyzer
  writes them to.
-/

namespace BuildAnalysis.Analysis

open Host (Invocation)
open CommandLine

/-! ## Where a process writes its report -/

/-- Whether a child process is an analyzer that is asked to write its report to a path: that option
stands before the source, which is the last word. -/
def WritesTo (child : Invocation) (path : String) : Prop :=
  ∃ front source, child.command = .words (front ++ ["/analyze:log" ++ path, source])

/-- A process writes its report to one path only. -/
theorem WritesTo.unique {child : Invocation} {path other : String} (h : WritesTo child path)
    (hother : WritesTo child other) : path = other := by
  obtain ⟨front, source, hcommand⟩ := h
  obtain ⟨front', source', hcommand'⟩ := hother
  rw [hcommand] at hcommand'
  have hwords := Host.Command.words.inj hcommand'
  have hlast := (List.append_inj' hwords rfl).2
  have hlog : "/analyze:log" ++ path = "/analyze:log" ++ other := List.head_eq_of_cons_eq hlast
  have hchars := congrArg String.toList hlog
  rw [String.toList_append, String.toList_append] at hchars
  exact String.toList_inj.1 (List.append_cancel_left hchars)

/-- Whether the command lines for commands are read as they are meant: no part that is quoted holds a
quote, and no part that is taken as it is leaves one open. -/
structure AreReadable (table : ArgumentTable) (directory : String)
    (commands : List CompileCommand) : Prop where
  directory : '"' ∉ directory.toList
  common : ∀ entry ∈ table, EndsOutside entry.2
  compiler : ∀ command ∈ commands, '"' ∉ command.compiler.path.toList
  args : ∀ command ∈ commands, EndsOutside command.args
  source : ∀ command ∈ commands, '"' ∉ command.source.toList

variable {table : ArgumentTable} {directory : String} {commands : List CompileCommand}

/-- The words of a command line that is read as it is meant end with the place of the report and the
source. -/
theorem split_lineOf (h : AreReadable table directory commands) {command : CompileCommand}
    (hcommand : command ∈ commands) {report : String}
    (hreport : '"' ∉ (ReportNames.path directory report).toList) :
    ∃ front, split (lineOf table directory command report) =
      front ++ ["/analyze:log" ++ ReportNames.path directory report, command.source] := by
  have hcompiler := h.compiler command hcommand
  have hsource := h.source command hcommand
  have hcommon : EndsOutside ((table.get? command.compiler.path).getD "") := by
    unfold ArgumentTable.get?
    cases hentry : table.find? (·.1 == command.compiler.path) with
    | none => exact endsOutside_of_not_mem (by decide)
    | some entry => exact h.common entry (List.mem_of_find?_eq_some hentry)
  have hlog : '"' ∉ ("/analyze:log" ++ ReportNames.path directory report).toList := by
    have hoption : '"' ∉ "/analyze:log".toList := by decide
    rw [String.toList_append, List.mem_append, not_or]
    exact ⟨hoption, hreport⟩
  refine ⟨command.compiler.path ::
    (split command.args ++ split ((table.get? command.compiler.path).getD "")), ?_⟩
  rw [lineOf, analyzerLine, split_join]
  · simp only [List.flatMap_cons, List.flatMap_nil, split_quote hcompiler, split_quote hlog,
      split_quote hsource, List.append_nil, List.append_assoc, List.cons_append, List.nil_append]
  · simp only [List.forall_mem_cons, List.not_mem_nil, false_implies, implies_true, and_true]
    exact ⟨endsOutside_quote hcompiler, h.args command hcommand, hcommon, endsOutside_quote hlog,
      endsOutside_quote hsource⟩

/-- Each process for the commands is asked to write to the path of the report of its source. -/
theorem writesTo_analyses (h : AreReadable table directory commands) (names : ReportNames)
    (host : Host) :
    List.Forall₂ WritesTo (analyses host table directory names commands)
      ((names.allocateAll (commands.map (·.source))).map (ReportNames.path directory)) := by
  -- the induction is on the commands that are left, which are among those that are readable
  suffices hleft : ∀ (left : List CompileCommand) (names : ReportNames),
      (∀ command ∈ left, command ∈ commands) →
      List.Forall₂ WritesTo (analyses host table directory names left)
        ((names.allocateAll (left.map (·.source))).map (ReportNames.path directory)) from
    hleft commands names fun _ hcommand => hcommand
  intro left
  induction left with
  | nil => exact fun _ _ => .nil
  | cons command rest ih =>
    intro names hleft
    have hcommand := hleft command List.mem_cons_self
    have hrest := ih (names.allocate command.source).2 fun other hother =>
      hleft other (List.mem_cons_of_mem _ hother)
    rw [analyses_cons, List.map_cons, ReportNames.allocateAll_cons, List.map_cons]
    refine List.Forall₂.cons ?_ hrest
    obtain ⟨n, -, hname, -⟩ := names.allocate_eq command.source
    have hpath := ReportNames.not_mem_path (by decide) (by decide) (by decide) (by decide)
      h.directory (h.source command hcommand) n
    rw [← hname] at hpath
    obtain ⟨front, hwords⟩ := split_lineOf h hcommand hpath
    exact ⟨front, command.source, congrArg Host.Command.words hwords⟩

/-! ## All reports -/

/-- Whether the reports of sources are kept apart in a directory. -/
structure AreSeparate (directory : String) (sources : List String) : Prop where
  /-- The search for a name ends, with at most one more candidate than names were given out. -/
  search : ∀ i source, sources[i]? = some source → ∃ n,
    ReportNames.EndsAt (((({} : ReportNames).allocateAll sources).take i).map Text.lower)
      (Path.basename source) (ReportNames.startAfter (sources.take i) source) n ∧
    n ≤ ReportNames.startAfter (sources.take i) source + i ∧
    (({} : ReportNames).allocateAll sources)[i]? =
      some (ReportNames.numbered (Path.basename source) n)
  /-- The names are different in lower case. -/
  names : ((({} : ReportNames).allocateAll sources).map Text.lower).Nodup
  /-- A path is that of a single component below the directory. -/
  component : ∀ report ∈ ({} : ReportNames).allocateAll sources, ∃ component,
    component = report ++ ".sarif" ∧ '/' ∉ component.toList ∧ Path.IsPlainName component ∧
      ReportNames.path directory report = Path.join directory component
  /-- The paths are different. -/
  paths : ((({} : ReportNames).allocateAll sources).map (ReportNames.path directory)).Nodup
  /-- The processes that analyze the sources write to paths that are different, in the order of the
  reports. -/
  children : ∀ (commands : List CompileCommand) (table : ArgumentTable) (host : Host),
    commands.map (·.source) = sources → AreReadable table directory commands →
    ∃ children paths, ((runAll commands table directory).on host).2.started =
        host.started ++ children ∧
      List.Forall₂ WritesTo children paths ∧ paths.Nodup ∧
      paths <+: (({} : ReportNames).allocateAll sources).map (ReportNames.path directory)

/-- The name of a source is found among those that were given out before it. -/
theorem search_ends {sources : List String} {i : Nat} {source : String}
    (h : sources[i]? = some source) :
    ∃ n, ReportNames.EndsAt (((({} : ReportNames).allocateAll sources).take i).map Text.lower)
        (Path.basename source) (ReportNames.startAfter (sources.take i) source) n ∧
      n ≤ ReportNames.startAfter (sources.take i) source + i ∧
      (({} : ReportNames).allocateAll sources)[i]? =
        some (ReportNames.numbered (Path.basename source) n) := by
  obtain ⟨hi, hsource⟩ := List.getElem?_eq_some_iff.1 h
  have hbefore : (sources.take i).length = i := by
    rw [List.length_take]
    omega
  have hcut : sources = (sources.take i ++ [source]) ++ sources.drop (i + 1) := by
    rw [← hsource, List.append_assoc, List.singleton_append, ← List.drop_eq_getElem_cons hi,
      List.take_append_drop]
  obtain ⟨n, hends, hle, hnames⟩ := ReportNames.allocateAll_endsAt (sources.take i) source
  have hall : ({} : ReportNames).allocateAll sources =
      ({} : ReportNames).allocateAll (sources.take i) ++
        ReportNames.numbered (Path.basename source) n ::
          (({} : ReportNames).afterAll (sources.take i ++ [source])).allocateAll
            (sources.drop (i + 1)) := by
    conv_lhs => rw [hcut]
    rw [ReportNames.allocateAll_append, hnames, List.append_assoc, List.singleton_append]
  have hlength : (({} : ReportNames).allocateAll (sources.take i)).length = i := by
    rw [ReportNames.length_allocateAll, hbefore]
  rw [hbefore] at hle
  refine ⟨n, ?_, hle, ?_⟩
  · rw [hall, List.take_left' hlength]
    exact hends
  · rw [hall, List.getElem?_append_right (by omega), hlength, Nat.sub_self]
    rfl

/-- The reports of sources are kept apart, whatever the sources are: each has a name of its own, and
its path is not that of another. As far as the command lines are read as they are meant, the analyzer
writes each report to its own path. -/
theorem reports_separate (directory : String) (sources : List String) :
    AreSeparate directory sources where
  search _ _ h := search_ends h
  names := ReportNames.nodup_lower_allocateAll sources
  component report hreport :=
    ⟨report ++ ".sarif", rfl, (ReportNames.fileName_component hreport).2,
      (ReportNames.fileName_component hreport).1, rfl⟩
  paths := ReportNames.nodup_paths directory sources
  children commands table host hsources hreadable := by
    obtain ⟨children, hstarted, hprefix⟩ := runFrom_started table directory {} 0 commands host
    have hwrites := writesTo_analyses hreadable {} host
    rw [hsources] at hwrites
    have htaken := List.forall₂_take children.length hwrites
    rw [← List.prefix_iff_eq_take.1 hprefix] at htaken
    exact ⟨children, _, hstarted, htaken,
      (ReportNames.nodup_paths directory sources).sublist (List.take_sublist _ _),
      List.take_prefix _ _⟩

/-- A host without files. -/
def bareHost : Host where
  files := .empty
  directory := "/"
  environment := []
  children := []
  console := .ofCommand ""

/-- Sources that share a name but for its case, and one whose own name has a number. -/
def sampleCommands : List CompileCommand :=
  ["/s/foo.c", "/t/FOO.C", "/t/foo.c-1"].map (⟨·, "/c", .ofPath "cl"⟩)

theorem reports_separate_sample :
    ∃ children, ((runAll sampleCommands [("cl", "")] "/out").on bareHost).2.started = children ∧
      List.Forall₂ WritesTo children
        ["/out/foo.c.sarif", "/out/FOO.C-1.sarif", "/out/foo.c-1-1.sarif"] := by
  have hargs : EndsOutside "/c" := endsOutside_of_not_mem (by decide)
  have hcommon : EndsOutside "" := endsOutside_of_not_mem (by decide)
  have hreadable : AreReadable [("cl", "")] "/out" sampleCommands :=
    { directory := by decide
      common := by simpa using hcommon
      compiler := by decide
      args := by
        intro command hcommand
        obtain ⟨source, -, rfl⟩ := List.mem_map.1 hcommand
        exact hargs
      source := by decide }
  obtain ⟨children, paths, hstarted, hwrites, -, hprefix⟩ :=
    (reports_separate "/out" (sampleCommands.map (·.source))).children sampleCommands
      [("cl", "")] bareHost rfl hreadable
  have hthree : ((runAll sampleCommands [("cl", "")] "/out").on bareHost).2.started.length = 3 := by
    decide +kernel
  have hall : (({} : ReportNames).allocateAll (sampleCommands.map (·.source))).map
      (ReportNames.path "/out") =
        ["/out/foo.c.sarif", "/out/FOO.C-1.sarif", "/out/foo.c-1-1.sarif"] := by decide +kernel
  refine ⟨children, hstarted, ?_⟩
  have hlength : paths.length = 3 := by
    rw [← hwrites.length_eq, ← hthree, hstarted]
    rfl
  rw [hall] at hprefix
  rw [← hprefix.eq_of_length (by rw [hlength]; rfl)]
  exact hwrites

/-- Two sources whose reports have different paths, but are written to one of them. -/
theorem reports_overlap_of_quotes :
    (({} : ReportNames).allocateAll ["/s/ab.c", "/s/a\"\"b.c"]).map (ReportNames.path "/out") =
      ["/out/ab.c.sarif", "/out/a\"\"b.c.sarif"] ∧
    ((runAll [⟨"/s/ab.c", "", .ofPath "cl"⟩, ⟨"/s/a\"\"b.c", "", .ofPath "cl"⟩] [("cl", "")]
      "/out").on bareHost).2.started.map (·.command) =
        [.words ["cl", "/analyze:log/out/ab.c.sarif", "/s/ab.c"],
          .words ["cl", "/analyze:log/out/ab.c.sarif", "/s/ab.c"]] :=
  ⟨by decide, by decide +kernel⟩

end BuildAnalysis.Analysis
