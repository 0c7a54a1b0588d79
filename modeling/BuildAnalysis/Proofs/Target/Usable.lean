import BuildAnalysis.Proofs.Target.Texts
import Mathlib.Data.List.Basic

/-!
# Groups that can be used

The values of a group are used when its commands are made, and not before. A group can not be used if
its language is no key. If the language has a compiler, the fragments of the group and the sources at
its indexes have to be texts. Include directories and defines that are no texts are written out. The
groups of a target give their commands up to the first group that can not be used, which breaks the
commands off.

* `Target.commands_of_isUsable`: the commands of a target whose groups can all be used.
* `Target.commands_of_breaksOff`: the commands of a target with a group that can not be used.
* `Target.commands_of_hasTexts`: the commands of a target of texts.
-/

namespace BuildAnalysis

/-! ## Groups that can be used -/

/-- Values are all of a kind, or there is a first one that is not. -/
theorem forall_or_exists_first {α : Type} (P : α → Prop) (as : List α) :
    (∀ a ∈ as, P a) ∨
      ∃ before a after, as = before ++ a :: after ∧ (∀ b ∈ before, P b) ∧ ¬ P a := by
  induction as with
  | nil => exact .inl fun a ha => absurd ha List.not_mem_nil
  | cons first rest ih =>
    by_cases hfirst : P first
    · rcases ih with hall | ⟨before, a, after, rfl, hbefore, ha⟩
      · exact .inl (List.forall_mem_cons.2 ⟨hfirst, hall⟩)
      · exact .inr ⟨first :: before, a, after, rfl, List.forall_mem_cons.2 ⟨hfirst, hbefore⟩, ha⟩
    · exact .inr ⟨[], first, rest, rfl, fun b hb => absurd hb List.not_mem_nil, hfirst⟩

/-- Whether a value can be a key. -/
def Json.IsKey (value : Json) : Prop :=
  value.key?.isSome = true

/-- The value that a target lists as the source with an index. -/
def Target.listedSource (target : Target) (index : Json) : Json :=
  (target.sources[(index.integer?.getD 0).toNat]?).getD .null

namespace CompileGroup

/-- The compiler of the language of a group. -/
def compiler (compilers : Compilers) (group : CompileGroup) : Option Compiler :=
  group.language.string?.bind compilers

/-- The fragments of a group that count as true. -/
def usedFragments (group : CompileGroup) : List Json :=
  group.fragments.filter (·.truthy)

/-- The parts of the arguments of a group. Include directories and defines that are no texts are
written out. -/
def parts (options : CommandOptions) (group : CompileGroup) : List String :=
  group.usedFragments.map (·.text) ++ group.includes.map (·.argument options) ++
    group.defines.map defineArgument

/-- Whether a group of a target can be used: its language is a key, and if that has a compiler its
fragments and its sources are texts. -/
structure IsUsable (target : Target) (compilers : Compilers) (group : CompileGroup) : Prop where
  language : group.language.IsKey
  fragments : (group.compiler compilers).isSome = true →
    ∀ fragment ∈ group.usedFragments, fragment.IsText
  sources : (group.compiler compilers).isSome = true →
    ∀ index ∈ group.sourceIndexes, (target.listedSource index).IsText

/-- How a group of a target breaks off: the indexes whose sources come before, and the fault. -/
inductive BreaksOff (target : Target) (compilers : Compilers) (group : CompileGroup) :
    List Json → Json.Fault → Prop
  /-- The language is no key. -/
  | language : ¬ group.language.IsKey →
      BreaksOff target compilers group [] (.noKey group.language.kind)
  /-- A fragment is no text. Fragments come before the sources, even if there are none of those. -/
  | fragment {before after : List Json} {fragment : Json} :
      (group.compiler compilers).isSome = true →
      group.usedFragments = before ++ fragment :: after → (∀ f ∈ before, f.IsText) →
      ¬ fragment.IsText →
      BreaksOff target compilers group [] (.noArgument before.length fragment.kind)
  /-- The source at an index is no text. -/
  | source {before after : List Json} {index : Json} :
      (group.compiler compilers).isSome = true → (∀ f ∈ group.usedFragments, f.IsText) →
      group.sourceIndexes = before ++ index :: after →
      (∀ i ∈ before, (target.listedSource i).IsText) → ¬ (target.listedSource index).IsText →
      BreaksOff target compilers group before (.noPath (target.listedSource index).kind)

/-- The commands of a group for some of its indexes. -/
def commandsFor (target : Target) (root : String) (compilers : Compilers) (options : CommandOptions)
    (indexes : List Json) (group : CompileGroup) : List CompileCommand :=
  (group.compiler compilers).elim [] fun compiler =>
    indexes.map fun index =>
      { source := target.sourceOf root index
        args := CommandLine.join (group.parts options)
        compiler }

variable {target : Target} {compilers : Compilers} {group : CompileGroup}

/-- Every group can be used, or it breaks off. -/
theorem isUsable_or_breaksOff (target : Target) (compilers : Compilers) (group : CompileGroup) :
    group.IsUsable target compilers ∨
      ∃ indexes fault, group.BreaksOff target compilers indexes fault := by
  by_cases hlanguage : group.language.IsKey
  · by_cases hcompiler : (group.compiler compilers).isSome = true
    · rcases forall_or_exists_first Json.IsText group.usedFragments with hfragments |
        ⟨before, fragment, after, hcut, hbefore, hfragment⟩
      · rcases forall_or_exists_first (fun index => (target.listedSource index).IsText)
            group.sourceIndexes with hsources | ⟨before, index, after, hcut, hbefore, hindex⟩
        · exact .inl ⟨hlanguage, fun _ => hfragments, fun _ => hsources⟩
        · exact .inr ⟨_, _, .source hcompiler hfragments hcut hbefore hindex⟩
      · exact .inr ⟨_, _, .fragment hcompiler hcut hbefore hfragment⟩
    · exact .inl ⟨hlanguage, fun h => absurd h hcompiler, fun h => absurd h hcompiler⟩
  · exact .inr ⟨_, _, .language hlanguage⟩

/-- A group breaks off for a value of the wrong kind. -/
theorem BreaksOff.word {indexes : List Json} {fault : Json.Fault}
    (h : group.BreaksOff target compilers indexes fault) : fault.word = "TypeError" := by
  cases h with
  | language => rfl
  | fragment => rfl
  | source => rfl

theorem compiler?_of_isKey (h : group.language.IsKey) :
    group.compiler? compilers = .ok (group.compiler compilers) := by
  rw [compiler?, compiler]
  cases hlanguage : group.language with
  | array items =>
    rw [hlanguage] at h
    cases h
  | object members =>
    rw [hlanguage] at h
    cases h
  | _ => rfl

theorem compiler?_of_not_isKey (h : ¬ group.language.IsKey) :
    group.compiler? compilers = .error (.noKey group.language.kind) := by
  rw [compiler?]
  cases hlanguage : group.language with
  | array items => rfl
  | object members => rfl
  | _ =>
    rw [hlanguage] at h
    exact absurd rfl h

/-- The language of a group that has a compiler is a key. -/
theorem isKey_of_isSome (h : (group.compiler compilers).isSome = true) : group.language.IsKey := by
  rw [compiler] at h
  cases hlanguage : group.language with
  | string s => rfl
  | _ =>
    rw [hlanguage] at h
    cases h

end CompileGroup

/-! ## Fragments and sources -/

theorem fragmentTexts_of_isText {fragments : List Json} (h : ∀ f ∈ fragments, f.IsText)
    (position : Nat) : fragmentTexts position fragments = .ok (fragments.map (·.text)) := by
  have htexts := fragmentTexts_map_string position (fragments.map (·.text))
  rwa [CompileGroup.map_text h] at htexts

/-- The first fragment that is no text is told by its position. -/
theorem fragmentTexts_of_not_isText {before : List Json} {fragment : Json}
    (hbefore : ∀ f ∈ before, f.IsText) (hfragment : ¬ fragment.IsText) (after : List Json)
    (position : Nat) :
    fragmentTexts position (before ++ fragment :: after) =
      .error (.noArgument (position + before.length) fragment.kind) := by
  induction before generalizing position with
  | nil =>
    cases fragment with
    | string s => exact absurd rfl hfragment
    | _ => rfl
  | cons first rest ih =>
    have hfirst : first = .string first.text := (hbefore first List.mem_cons_self).eq
    have hrest := ih (fun f hf => hbefore f (List.mem_cons_of_mem _ hf)) (position + 1)
    have hlength : position + 1 + rest.length = position + (first :: rest).length := by
      rw [List.length_cons]
      omega
    rw [List.cons_append, hfirst, fragmentTexts, hrest, hlength]
    rfl

namespace Target

variable {target : Target} {root : String} {index : Json}

theorem sourceOf_eq (target : Target) (root : String) (index : Json) :
    target.sourceOf root index =
      Path.normalize (Path.join root (target.listedSource index).text) := by
  rw [sourceOf, listedSource, List.getElem?_map]
  cases target.sources[(index.integer?.getD 0).toNat]? with
  | none => rfl
  | some source => rfl

/-- What is asked for at an index that counts a source. -/
theorem sourceAt_of_isIndex (h : isIndex target.sources.length index = true) :
    target.sourceAt (index.integer?.getD 0) = .ok (target.listedSource index) := by
  obtain ⟨n, hn, hlt⟩ := isIndex_iff.1 h
  have hget : target.sources[n]? = some target.sources[n] := List.getElem?_eq_getElem hlt
  have hnot : ¬ (n : Int) < 0 := by omega
  rw [sourceAt, listedSource, hn, Option.getD_some]
  simp only [if_neg hnot, Int.toNat_natCast, hget, Option.getD_some]

theorem source_of_isText (h : isIndex target.sources.length index = true)
    (htext : (target.listedSource index).IsText) (root : String) :
    target.source (.string root) (index.integer?.getD 0) = .ok (target.sourceOf root index) := by
  rw [source, sourceAt_of_isIndex h, sourceOf_eq, htext.eq]
  rfl

theorem source_of_not_isText (h : isIndex target.sources.length index = true)
    (htext : ¬ (target.listedSource index).IsText) (root : String) :
    target.source (.string root) (index.integer?.getD 0) =
      .error (.noPath (target.listedSource index).kind) := by
  rw [source, sourceAt_of_isIndex h]
  cases hsource : target.listedSource index with
  | string s =>
    rw [hsource] at htext
    exact absurd rfl htext
  | _ => rfl

/-! ## Commands -/

section

variable {args : String} {compiler : Compiler} {indexes before after : List Json}

/-- Indexes whose sources are texts give a command each. -/
theorem commandsAt_of_isText (hcount : ∀ i ∈ indexes, isIndex target.sources.length i = true)
    (htexts : ∀ i ∈ indexes, (target.listedSource i).IsText) :
    target.commandsAt (.string root) args compiler indexes =
      ⟨indexes.map fun i => { source := target.sourceOf root i, args, compiler }, none⟩ := by
  induction indexes with
  | nil => rfl
  | cons first rest ih =>
    have hfirst := source_of_isText (hcount first List.mem_cons_self)
      (htexts first List.mem_cons_self) root
    have hrest := ih (fun i hi => hcount i (List.mem_cons_of_mem _ hi))
      fun i hi => htexts i (List.mem_cons_of_mem _ hi)
    rw [commandsAt, hfirst, hrest]
    rfl

/-- The first index whose source is no text ends the commands. -/
theorem commandsAt_of_not_isText
    (hcount : ∀ i ∈ before ++ index :: after, isIndex target.sources.length i = true)
    (hbefore : ∀ i ∈ before, (target.listedSource i).IsText)
    (hindex : ¬ (target.listedSource index).IsText) :
    target.commandsAt (.string root) args compiler (before ++ index :: after) =
      ⟨before.map fun i => { source := target.sourceOf root i, args, compiler },
        some (.fault (.noPath (target.listedSource index).kind))⟩ := by
  induction before with
  | nil =>
    have hsource := source_of_not_isText (hcount index List.mem_cons_self) hindex root
    rw [List.nil_append, commandsAt, hsource]
    rfl
  | cons first rest ih =>
    have hfirst := source_of_isText (hcount first List.mem_cons_self)
      (hbefore first List.mem_cons_self) root
    have hrest := ih (fun i hi => hcount i (List.mem_cons_of_mem _ hi))
      fun i hi => hbefore i (List.mem_cons_of_mem _ hi)
    rw [List.cons_append, commandsAt, hfirst, hrest]
    rfl

end

end Target

namespace CompileGroup

variable {target : Target} {root : String} {compilers : Compilers} {options : CommandOptions}
  {group : CompileGroup}

theorem arguments_of_isText (h : ∀ f ∈ group.usedFragments, f.IsText) :
    group.arguments options = .ok (CommandLine.join (group.parts options)) := by
  have hfragments := fragmentTexts_of_isText h 0
  rw [usedFragments] at hfragments
  rw [arguments, hfragments]
  rfl

theorem arguments_of_not_isText {before after : List Json} {fragment : Json}
    (hcut : group.usedFragments = before ++ fragment :: after) (hbefore : ∀ f ∈ before, f.IsText)
    (hfragment : ¬ fragment.IsText) :
    group.arguments options = .error (.noArgument before.length fragment.kind) := by
  have hfragments := fragmentTexts_of_not_isText hbefore hfragment after 0
  rw [← hcut, usedFragments, Nat.zero_add] at hfragments
  rw [arguments, hfragments]
  rfl

/-- A group that can be used gives a command for each of its indexes. -/
theorem IsUsable.groupCommands (h : group.IsUsable target compilers)
    (hcount : ∀ i ∈ group.sourceIndexes, Target.isIndex target.sources.length i = true) :
    target.groupCommands (.string root) compilers options group =
      ⟨group.commandsFor target root compilers options group.sourceIndexes, none⟩ := by
  rw [Target.groupCommands, compiler?_of_isKey h.language, commandsFor]
  cases hcompiler : group.compiler compilers with
  | none => rfl
  | some compiler =>
    have hsome : (group.compiler compilers).isSome = true := by rw [hcompiler, Option.isSome_some]
    simp only [arguments_of_isText (h.fragments hsome)]
    exact Target.commandsAt_of_isText hcount (h.sources hsome)

/-- A group that breaks off gives the commands that come before. -/
theorem BreaksOff.groupCommands {indexes : List Json} {fault : Json.Fault}
    (h : group.BreaksOff target compilers indexes fault)
    (hcount : ∀ i ∈ group.sourceIndexes, Target.isIndex target.sources.length i = true) :
    target.groupCommands (.string root) compilers options group =
      ⟨group.commandsFor target root compilers options indexes, some (.fault fault)⟩ := by
  cases h with
  | language hlanguage =>
    have hnone : group.commandsFor target root compilers options [] = [] := by
      rw [commandsFor]
      cases group.compiler compilers with
      | none => rfl
      | some compiler => rfl
    rw [Target.groupCommands, compiler?_of_not_isKey hlanguage, hnone]
    rfl
  | fragment hsome hcut hbefore hfragment =>
    obtain ⟨compiler, hcompiler⟩ := Option.isSome_iff_exists.1 hsome
    rw [Target.groupCommands, compiler?_of_isKey (isKey_of_isSome hsome), commandsFor, hcompiler]
    simp only [arguments_of_not_isText hcut hbefore hfragment]
    rfl
  | source hsome hfragments hcut hbefore hindex =>
    obtain ⟨compiler, hcompiler⟩ := Option.isSome_iff_exists.1 hsome
    rw [Target.groupCommands, compiler?_of_isKey (isKey_of_isSome hsome), commandsFor, hcompiler]
    rw [hcut] at hcount
    simp only [arguments_of_isText hfragments, hcut]
    exact Target.commandsAt_of_not_isText hcount hbefore hindex

end CompileGroup

/-! ## Targets -/

namespace Target

variable {target : Target} {root : String} {compilers : Compilers} {options : CommandOptions}

/-- Groups that can be used give the commands for all of their indexes. -/
theorem groupCommands_of_isUsable (hcount : target.badIndex? = none) {groups : List CompileGroup}
    (hgroups : ∀ group ∈ groups, group ∈ target.groups)
    (h : ∀ group ∈ groups, group.IsUsable target compilers) :
    groups.map (target.groupCommands (.string root) compilers options) =
      groups.map fun group =>
        ⟨group.commandsFor target root compilers options group.sourceIndexes, none⟩ :=
  List.map_congr_left fun group hgroup =>
    (h group hgroup).groupCommands fun _ => isIndex_of_badIndex? hcount (hgroups group hgroup)

/-- A target that was accepted gives all of its commands, if its groups can all be used. -/
theorem commands_of_isUsable (hcount : target.badIndex? = none)
    (h : ∀ group ∈ target.groups, group.IsUsable target compilers) :
    target.commands (.string root) compilers options =
      ⟨target.groups.flatMap fun group =>
        group.commandsFor target root compilers options group.sourceIndexes, none⟩ := by
  rw [commands_eq_concat, groupCommands_of_isUsable hcount (fun _ => id) h, Stretch.concat_of_none,
    List.flatMap_map]
  intro stretch hstretch
  obtain ⟨group, -, rfl⟩ := List.mem_map.1 hstretch
  rfl

/-- Otherwise it gives the commands that come before, with the fault of the first group that breaks
off. -/
theorem commands_of_breaksOff (hcount : target.badIndex? = none) {before after : List CompileGroup}
    {group : CompileGroup} {indexes : List Json} {fault : Json.Fault}
    (hcut : target.groups = before ++ group :: after)
    (hbefore : ∀ g ∈ before, g.IsUsable target compilers)
    (h : group.BreaksOff target compilers indexes fault) :
    target.commands (.string root) compilers options =
      ⟨(before.flatMap fun g => g.commandsFor target root compilers options g.sourceIndexes) ++
        group.commandsFor target root compilers options indexes, some (.fault fault)⟩ := by
  have hmem : ∀ g ∈ before, g ∈ target.groups := by
    intro g hg
    rw [hcut]
    exact List.mem_append_left _ hg
  have hgroup : group ∈ target.groups := by
    rw [hcut]
    exact List.mem_append_right _ List.mem_cons_self
  have hfailure : target.groupCommands (.string root) compilers options group =
      ⟨group.commandsFor target root compilers options indexes, some (.fault fault)⟩ :=
    h.groupCommands fun _ => isIndex_of_badIndex? hcount hgroup
  rw [commands_eq_concat, hcut, List.map_append, List.map_cons,
    groupCommands_of_isUsable hcount hmem hbefore, hfailure, Stretch.concat_of_failure _ rfl,
    List.flatMap_map]
  intro stretch hstretch
  obtain ⟨g, -, rfl⟩ := List.mem_map.1 hstretch
  rfl

/-! ## Targets of texts -/

section

variable {toolchains : Toolchains} {group : CompileGroup}

theorem listedSource_mem {index : Json} (h : isIndex target.sources.length index = true) :
    target.listedSource index ∈ target.sources := by
  obtain ⟨n, hn, hlt⟩ := isIndex_iff.1 h
  rw [listedSource, hn, Option.getD_some, Int.toNat_natCast, List.getElem?_eq_getElem hlt,
    Option.getD_some]
  exact List.getElem_mem hlt

/-- Texts can be used. -/
theorem isUsable_of_hasTexts (htexts : target.HasTexts) (hgroup : group.HasTexts)
    (hcount : ∀ i ∈ group.sourceIndexes, isIndex target.sources.length i = true)
    (compilers : Compilers) : group.IsUsable target compilers where
  language := by
    rw [hgroup.language.eq]
    rfl
  fragments _ fragment hfragment := hgroup.fragments fragment (List.mem_filter.1 hfragment).1
  sources _ index hindex := htexts.sources _ (listedSource_mem (hcount index hindex))

/-- The commands that a group of texts has to give are those for all of its indexes. -/
theorem commandsFor_of_hasTexts (hgroup : group.HasTexts) (target : Target) (root : String)
    (toolchains : Toolchains) (options : CommandOptions) :
    group.commandsFor target root toolchains.compiler? options group.sourceIndexes =
      target.groupReference root toolchains options group := by
  have hcompiler : group.compiler toolchains.compiler? =
      toolchains.ofLanguage group.language.text := by
    rw [CompileGroup.compiler, hgroup.language.eq]
    exact toolchains.compiler?_eq _
  have hargs : CommandLine.join (group.parts options) =
      CommandLine.join (group.texts.parts options) := by
    have hparts := group.texts.arguments_toGroup options
    have husable : ∀ f ∈ group.usedFragments, f.IsText := fun f hf =>
      hgroup.fragments f (List.mem_filter.1 hf).1
    rw [CompileGroup.toGroup_texts hgroup, CompileGroup.arguments_of_isText husable] at hparts
    exact Except.ok.inj hparts
  rw [CompileGroup.commandsFor, groupReference, hcompiler, hargs]
  cases toolchains.ofLanguage group.language.text with
  | none => rw [Option.elim_none]
  | some compiler => rw [Option.elim_some]

/-- A target of texts that was accepted gives its commands, and does not fail. -/
theorem commands_of_hasTexts (h : target.badIndex? = none) (htexts : target.HasTexts) :
    target.commands (.string root) toolchains.compiler? options =
      ⟨target.reference root toolchains options, none⟩ := by
  have husable : ∀ group ∈ target.groups, group.IsUsable target toolchains.compiler? :=
    fun group hgroup => isUsable_of_hasTexts htexts (htexts.groups group hgroup)
      (fun _ => isIndex_of_badIndex? h hgroup) _
  rw [commands_of_isUsable h husable, reference]
  congr 1
  exact List.flatMap_congr fun group hgroup =>
    commandsFor_of_hasTexts (htexts.groups group hgroup) target root toolchains options

end

end Target

end BuildAnalysis
