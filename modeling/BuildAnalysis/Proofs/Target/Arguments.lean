import BuildAnalysis.Proofs.CommandLine.QuotedWord
import BuildAnalysis.Target.Commands

/-!
# The arguments of a group as words

A group whose values are texts always has arguments. Read as a command line they are the words of
its fragments, and then one word for each include directory and for each define.
-/

namespace BuildAnalysis

/-- A compile group whose fragments, include directories and defines are texts. Each include
directory is told with whether it is one of the system. -/
structure TextGroup where
  language : Json := .string ""
  fragments : List String := []
  includes : List (String × Bool) := []
  defines : List String := []
  sourceIndexes : List Json := []

namespace TextGroup

/-- A group of texts as a group. -/
def toGroup (group : TextGroup) : CompileGroup where
  language := group.language
  fragments := group.fragments.map .string
  includes := group.includes.map fun (path, isSystem) => ⟨.string path, isSystem⟩
  defines := group.defines.map .string
  sourceIndexes := group.sourceIndexes

/-- The option for an include directory of the system, or for another one. -/
def includeOption (options : CommandOptions) (isSystem : Bool) : String :=
  if options.ignoreSystemHeaders && isSystem then "/external:I" else "/I"

/-- The words for the include directories. -/
def includeWords (group : TextGroup) (options : CommandOptions) : List String :=
  group.includes.map fun (path, isSystem) => includeOption options isSystem ++ path

/-- The words for the defines. -/
def defineWords (group : TextGroup) : List String :=
  group.defines.map fun define => "/D" ++ define

/-- Whether no fragment leaves a quote open, and no include directory and no define holds one. -/
structure IsQuotable (group : TextGroup) : Prop where
  fragments : ∀ fragment ∈ group.fragments, CommandLine.EndsOutside fragment
  includes : ∀ entry ∈ group.includes, '"' ∉ entry.1.toList
  defines : ∀ define ∈ group.defines, '"' ∉ define.toList

end TextGroup

/-- Texts stay as they are when fragments are taken as texts. -/
theorem fragmentTexts_map_string (position : Nat) (fragments : List String) :
    fragmentTexts position (fragments.map .string) = .ok fragments := by
  induction fragments generalizing position with
  | nil => rfl
  | cons fragment rest ih => rw [List.map_cons, fragmentTexts, ih, Except.map]

/-- The texts among values that count as true are those that are not empty. -/
theorem filter_truthy_map_string (texts : List String) :
    (texts.map Json.string).filter (·.truthy) =
      (texts.filter (!·.isEmpty)).map Json.string := by
  rw [List.filter_map]
  rfl

namespace CommandLine

/-- Empty parts may be left out before the others are joined. -/
theorem join_filter_append (parts others : List String) :
    join (parts.filter (!·.isEmpty) ++ others) = join (parts ++ others) := by
  rw [join, join, List.filter_append, List.filter_append, List.filter_filter]
  simp

/-- Quoted words that are joined are read as those words. -/
theorem flatMap_split_quote {words : List String} (h : ∀ word ∈ words, '"' ∉ word.toList) :
    (words.map quote).flatMap split = words := by
  induction words with
  | nil => rfl
  | cons word rest ih =>
    rw [List.map_cons, List.flatMap_cons, split_quote (h word List.mem_cons_self),
      ih fun w hw => h w (List.mem_cons_of_mem _ hw)]
    rfl

theorem endsOutside_map_quote {words : List String} (h : ∀ word ∈ words, '"' ∉ word.toList) :
    ∀ part ∈ words.map quote, EndsOutside part := by
  intro part hpart
  obtain ⟨word, hword, rfl⟩ := List.mem_map.1 hpart
  exact endsOutside_quote (h word hword)

end CommandLine

namespace TextGroup

variable (group : TextGroup) (options : CommandOptions)

/-- The parts that the arguments of a group are joined from. -/
def parts : List String :=
  group.fragments ++
    (group.includeWords options ++ group.defineWords).map CommandLine.quote

/-- A group of texts always has arguments. -/
theorem arguments_toGroup :
    group.toGroup.arguments options = .ok (CommandLine.join (group.parts options)) := by
  have hincludes : group.toGroup.includes.map (·.argument options) =
      (group.includeWords options).map CommandLine.quote := by
    simp only [toGroup, includeWords, List.map_map]
    rfl
  have hdefines : group.toGroup.defines.map defineArgument =
      group.defineWords.map CommandLine.quote := by
    simp only [toGroup, defineWords, List.map_map]
    rfl
  have hfragments : fragmentTexts 0 (group.toGroup.fragments.filter (·.truthy)) =
      .ok (group.fragments.filter (!·.isEmpty)) := by
    rw [toGroup, filter_truthy_map_string, fragmentTexts_map_string]
  rw [CompileGroup.arguments, hfragments, hincludes, hdefines, parts, List.map_append,
    ← CommandLine.join_filter_append, ← List.append_assoc]
  rfl

variable {group}

/-- An option before a text without quotes holds no quote. -/
theorem not_mem_words (h : group.IsQuotable) :
    ∀ word ∈ group.includeWords options ++ group.defineWords, '"' ∉ word.toList := by
  intro word hword
  rcases List.mem_append.1 hword with hword | hword
  · obtain ⟨entry, hentry, rfl⟩ := List.mem_map.1 hword
    have hpath := h.includes entry hentry
    have hoption : '"' ∉ (includeOption options entry.2).toList := by
      rw [includeOption]
      split
      · decide
      · decide
    rw [String.toList_append]
    exact fun hm => (List.mem_append.1 hm).elim hoption hpath
  · obtain ⟨define, hdefine, rfl⟩ := List.mem_map.1 hword
    have hoption : '"' ∉ "/D".toList := by decide
    rw [String.toList_append]
    exact fun hm => (List.mem_append.1 hm).elim hoption (h.defines define hdefine)

/-- No part of the arguments leaves a quote open. -/
theorem endsOutside_parts (h : group.IsQuotable) :
    ∀ part ∈ group.parts options, CommandLine.EndsOutside part := by
  intro part hpart
  rcases List.mem_append.1 hpart with hpart | hpart
  · exact h.fragments part hpart
  · exact CommandLine.endsOutside_map_quote (not_mem_words options h) part hpart

/-- The words of the arguments: those of the fragments, then the include directories and the
defines. -/
theorem split_arguments (h : group.IsQuotable) :
    CommandLine.split (CommandLine.join (group.parts options)) =
      group.fragments.flatMap CommandLine.split ++ group.includeWords options ++
        group.defineWords := by
  rw [CommandLine.split_join (endsOutside_parts options h), parts, List.flatMap_append,
    CommandLine.flatMap_split_quote (not_mem_words options h), List.append_assoc]

end TextGroup

end BuildAnalysis
