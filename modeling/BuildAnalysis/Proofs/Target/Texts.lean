import BuildAnalysis.Proofs.Target.Arguments
import BuildAnalysis.Proofs.Target.Feed

/-!
# Targets of texts

The schema of the replies has texts for the languages, the sources and the options of a target. What
a target that keeps to it has to give is told apart from how its commands are made: for each group
whose language has a compiler, one command for each index that the group lists, with the source at
that index.

* `Target.reference`: the commands that a target of texts has to give.
* `CompileGroup.toGroup_texts`: a group of texts is told by its texts.
* `Target.isIndex_of_badIndex?`: the indexes of a target that was accepted count its sources.
-/

namespace BuildAnalysis

/-- The text of a value; empty if it is no string. -/
def Json.text (value : Json) : String :=
  value.string?.getD ""

/-- Whether a value is a string. -/
def Json.IsText (value : Json) : Prop :=
  value.string?.isSome = true

instance (value : Json) : Decidable value.IsText := inferInstanceAs (Decidable (_ = true))

theorem Json.IsText.eq {value : Json} (h : value.IsText) : value = .string value.text := by
  cases value with
  | string s => rfl
  | _ => cases h

namespace CompileGroup

/-- Whether the language and the options of a group are texts. -/
structure HasTexts (group : CompileGroup) : Prop where
  language : group.language.IsText
  fragments : ∀ fragment ∈ group.fragments, fragment.IsText
  includes : ∀ entry ∈ group.includes, entry.path.IsText
  defines : ∀ define ∈ group.defines, define.IsText

instance (group : CompileGroup) : Decidable group.HasTexts :=
  decidable_of_iff
    (group.language.IsText ∧ (∀ fragment ∈ group.fragments, fragment.IsText) ∧
      (∀ entry ∈ group.includes, entry.path.IsText) ∧ ∀ define ∈ group.defines, define.IsText)
    ⟨fun ⟨language, fragments, includes, defines⟩ => ⟨language, fragments, includes, defines⟩,
      fun h => ⟨h.language, h.fragments, h.includes, h.defines⟩⟩

/-- The texts of a group. -/
def texts (group : CompileGroup) : TextGroup where
  language := group.language
  fragments := group.fragments.map (·.text)
  includes := group.includes.map fun entry => (entry.path.text, entry.isSystem)
  defines := group.defines.map (·.text)
  sourceIndexes := group.sourceIndexes

theorem map_text {values : List Json} (h : ∀ value ∈ values, value.IsText) :
    (values.map (·.text)).map Json.string = values := by
  rw [List.map_map]
  exact (List.map_congr_left fun value hvalue => (h value hvalue).eq.symm).trans
    (List.map_id values)

/-- A group of texts is told by its texts. -/
theorem toGroup_texts {group : CompileGroup} (h : group.HasTexts) : group.texts.toGroup = group := by
  have hfragments : group.texts.toGroup.fragments = group.fragments := map_text h.fragments
  have hdefines : group.texts.toGroup.defines = group.defines := map_text h.defines
  have hincludes : group.texts.toGroup.includes = group.includes := by
    simp only [texts, TextGroup.toGroup, List.map_map]
    refine (List.map_congr_left fun entry hentry => ?_).trans (List.map_id group.includes)
    obtain ⟨path, isSystem⟩ := entry
    have hpath : path = .string path.text := (h.includes _ hentry).eq
    simp only [Function.comp_apply, id_eq]
    rw [← hpath]
  calc group.texts.toGroup
      = ⟨group.language, group.texts.toGroup.fragments, group.texts.toGroup.includes,
          group.texts.toGroup.defines, group.sourceIndexes⟩ := rfl
    _ = group := by rw [hfragments, hdefines, hincludes]

end CompileGroup

namespace Toolchains

/-- The compiler for the language with a name: that for C, that for C++, or none. -/
def ofLanguage (toolchains : Toolchains) : String → Option Compiler
  | "C" => toolchains.c
  | "CXX" => toolchains.cxx
  | _ => none

theorem compiler?_eq (toolchains : Toolchains) (name : String) :
    toolchains.compiler? name = toolchains.ofLanguage name := by
  unfold compiler? Language.ofName? ofLanguage
  by_cases hc : name = "C"
  · subst hc
    rfl
  · by_cases hcxx : name = "CXX"
    · subst hcxx
      rfl
    · simp [hc, hcxx]

end Toolchains

namespace Target

/-- Whether the sources and the groups of a target are texts. -/
structure HasTexts (target : Target) : Prop where
  sources : ∀ source ∈ target.sources, source.IsText
  groups : ∀ group ∈ target.groups, group.HasTexts

instance (target : Target) : Decidable target.HasTexts :=
  decidable_of_iff
    ((∀ source ∈ target.sources, source.IsText) ∧ ∀ group ∈ target.groups, group.HasTexts)
    ⟨fun ⟨sources, groups⟩ => ⟨sources, groups⟩, fun h => ⟨h.sources, h.groups⟩⟩

/-- The source that an index stands for, below a source directory. -/
def sourceOf (target : Target) (root : String) (index : Json) : String :=
  let source := (target.sources.map (·.text))[(index.integer?.getD 0).toNat]?.getD ""
  Path.normalize (Path.join root source)

/-- The commands that a group has to give: if its language has a compiler, one for each index. -/
def groupReference (target : Target) (root : String) (toolchains : Toolchains)
    (options : CommandOptions) (group : CompileGroup) : List CompileCommand :=
  match toolchains.ofLanguage group.language.text with
  | none => []
  | some compiler =>
    group.sourceIndexes.map fun index =>
      { source := target.sourceOf root index
        args := CommandLine.join (group.texts.parts options)
        compiler }

/-- The commands that a target has to give, group by group. -/
def reference (target : Target) (root : String) (toolchains : Toolchains)
    (options : CommandOptions) : List CompileCommand :=
  target.groups.flatMap (target.groupReference root toolchains options)

variable {target : Target} {root : String} {toolchains : Toolchains} {options : CommandOptions}

/-- An index that was accepted counts one of the sources. -/
theorem isIndex_iff {count : Nat} {index : Json} :
    isIndex count index = true ↔ ∃ n : Nat, index.integer? = some (n : Int) ∧ n < count := by
  rw [isIndex]
  cases index.integer? with
  | none => simp
  | some n =>
    simp only [Bool.and_eq_true, decide_eq_true_eq, Option.some.injEq]
    constructor
    · rintro ⟨hlow, hhigh⟩
      exact ⟨n.toNat, by omega, by omega⟩
    · rintro ⟨m, rfl, hm⟩
      omega

/-- The indexes of a target that was accepted were accepted. -/
theorem isIndex_of_badIndex? (h : target.badIndex? = none) {group : CompileGroup}
    (hgroup : group ∈ target.groups) {index : Json} (hindex : index ∈ group.sourceIndexes) :
    isIndex target.sources.length index = true := by
  rw [badIndex?, List.find?_eq_none] at h
  have hnot := h index (List.mem_flatMap.2 ⟨group, hgroup, hindex⟩)
  simpa using hnot

end Target

end BuildAnalysis
