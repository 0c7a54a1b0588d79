import BuildAnalysis.Proofs.Json.Listing
import BuildAnalysis.Proofs.Target.Texts

/-!
# The grammar of target replies

A target reply is an object that lists sources and groups, and a group is an object that lists
fragments, include directories, defines and indexes of sources. The grammar tells which replies are
accepted, and the target that they describe is told from the reply alone. All other replies are
refused as malformed.

* `CompileGroup.ofReply_eq_ok`: the groups that are accepted.
* `Target.ofReply_eq_ok`: the targets that are accepted.
* `Target.ofReply_isRead`: what becomes of a reply.
-/

namespace BuildAnalysis

/-! ## The grammar -/

namespace Json

/-- Whether a value is the index of one of `count` sources; the truth values count as one and zero. -/
def IsSourceIndex (index : Json) (count : Nat) : Prop :=
  (∃ n : Nat, index = .integer n ∧ n < count) ∨ ∃ b : Bool, index = .bool b ∧ b.toNat < count

/-- Whether a value is a group of a target with `count` sources. -/
structure IsGroup (group : Json) (count : Nat) : Prop where
  object : group.kind = .object
  fragments : group.Lists "compileCommandFragments" (·.Has "fragment")
  includes : group.Lists "includes" (·.Has "path")
  defines : group.Lists "defines" (·.Has "define")
  sourceIndexes : group.Lists "sourceIndexes" (·.IsSourceIndex count)

/-- Whether a value is a target reply. -/
structure IsTarget (data : Json) : Prop where
  object : data.kind = .object
  sources : data.Lists "sources" (·.Has "path")
  groups : data.Lists "compileGroups" (·.IsGroup (data.listed "sources").length)

end Json

/-- The include directory that a value describes. -/
def Include.described (entry : Json) : Include where
  path := entry.get "path"
  isSystem := ((entry.find "isSystem").getD (.bool false)).truthy

/-- The group that a value describes. -/
def CompileGroup.described (group : Json) : CompileGroup where
  language := (group.find "language").getD (.string "")
  fragments := (group.listed "compileCommandFragments").map (·.get "fragment")
  includes := (group.listed "includes").map Include.described
  defines := (group.listed "defines").map (·.get "define")
  sourceIndexes := group.listed "sourceIndexes"

/-- The target that a value describes. -/
def Target.described (file : String) (data : Json) : Target where
  file
  sources := (data.listed "sources").map (·.get "path")
  groups := (data.listed "compileGroups").map CompileGroup.described

/-! ## Groups -/

theorem Include.ofReply_eq_ok {entry : Json} {directory : Include} :
    Include.ofReply entry = .ok directory ↔
      entry.Has "path" ∧ directory = Include.described entry := by
  rw [Include.ofReply, bind_eq_ok]
  constructor
  · rintro ⟨path, hpath, hrest⟩
    obtain ⟨hhas, rfl⟩ := Json.member_eq_ok_iff_has.1 hpath
    obtain ⟨isSystem, hsystem, hdone⟩ := bind_eq_ok.1 hrest
    obtain ⟨-, rfl⟩ := Json.memberD_eq_ok.1 hsystem
    cases hdone
    exact ⟨hhas, rfl⟩
  · rintro ⟨hhas, rfl⟩
    exact ⟨_, Json.member_eq_ok_iff_has.2 ⟨hhas, rfl⟩,
      bind_eq_ok.2 ⟨_, Json.memberD_eq_ok.2 ⟨hhas.kind, rfl⟩, rfl⟩⟩

theorem Include.faultsExpected_ofReply (entry : Json) :
    Json.FaultsExpected (Include.ofReply entry) := by
  rw [Include.ofReply]
  refine (Json.faultsExpected_member entry _).bind fun path => ?_
  refine (Json.faultsExpected_memberD entry _ _).bind fun isSystem => ?_
  exact Json.faultsExpected_ok _

theorem Include.ofReplies_eq_ok {value : Json} {name : String} {includes : List Include} :
    (∃ items, value.memberItems name = .ok items ∧ items.mapM Include.ofReply = .ok includes) ↔
      value.kind = .object ∧ value.Lists name (·.Has "path") ∧
        includes = (value.listed name).map Include.described :=
  Json.mapM_memberItems_iff (fun _ _ => Include.ofReply_eq_ok) fun s => Json.not_has_string s "path"

theorem Target.isIndex_iff_isSourceIndex {count : Nat} {index : Json} :
    isIndex count index = true ↔ index.IsSourceIndex count := by
  have hnumber (m : Nat) : (∃ n : Nat, (m : Int) = n ∧ n < count) ↔ m < count :=
    ⟨fun ⟨n, hn, hlt⟩ => by omega, fun h => ⟨m, rfl, h⟩⟩
  rw [isIndex_iff, Json.IsSourceIndex]
  cases index with
  | integer n => simp [Json.integer?]
  | bool b =>
    cases b with
    | true => simpa [Json.integer?] using hnumber 1
    | false => simpa [Json.integer?] using hnumber 0
  | _ => simp [Json.integer?]

theorem Json.not_isSourceIndex_string (count : Nat) (s : String) :
    ¬ (Json.string s).IsSourceIndex count := by
  rintro (⟨n, h, -⟩ | ⟨b, h, -⟩)
  · cases h
  · cases h

theorem Json.not_isGroup_string (count : Nat) (s : String) : ¬ (Json.string s).IsGroup count :=
  fun h => (by cases h.object)

namespace CompileGroup

/-- A group is made from five questions to its entry. -/
theorem ofReply_iff {entry : Json} {group : CompileGroup} :
    ofReply entry = .ok group ↔
      entry.memberD "language" (.string "") = .ok group.language ∧
      (∃ items, entry.memberItems "compileCommandFragments" = .ok items ∧
        items.mapM (·.member "fragment") = .ok group.fragments) ∧
      (∃ items, entry.memberItems "includes" = .ok items ∧
        items.mapM Include.ofReply = .ok group.includes) ∧
      (∃ items, entry.memberItems "defines" = .ok items ∧
        items.mapM (·.member "define") = .ok group.defines) ∧
      entry.memberItems "sourceIndexes" = .ok group.sourceIndexes := by
  rw [ofReply]
  simp only [bind_eq_ok]
  constructor
  · rintro ⟨language, hlanguage, fragmentItems, hfragmentItems, fragments, hfragments, includeItems,
      hincludeItems, includes, hincludes, defineItems, hdefineItems, defines, hdefines, indexes,
      hindexes, hdone⟩
    cases hdone
    exact ⟨hlanguage, ⟨_, hfragmentItems, hfragments⟩, ⟨_, hincludeItems, hincludes⟩,
      ⟨_, hdefineItems, hdefines⟩, hindexes⟩
  · rintro ⟨hlanguage, ⟨_, hfragmentItems, hfragments⟩, ⟨_, hincludeItems, hincludes⟩,
      ⟨_, hdefineItems, hdefines⟩, hindexes⟩
    exact ⟨_, hlanguage, _, hfragmentItems, _, hfragments, _, hincludeItems, _, hincludes, _,
      hdefineItems, _, hdefines, _, hindexes, rfl⟩

/-- A group is accepted, with all of its indexes, exactly if it keeps to the grammar. -/
theorem ofReply_eq_ok {count : Nat} {entry : Json} {group : CompileGroup} :
    (ofReply entry = .ok group ∧ ∀ index ∈ group.sourceIndexes, index.IsSourceIndex count) ↔
      entry.IsGroup count ∧ group = described entry := by
  have hindexes : (entry.memberItems "sourceIndexes" = .ok group.sourceIndexes ∧
        ∀ index ∈ group.sourceIndexes, index.IsSourceIndex count) ↔
      entry.kind = .object ∧ entry.Lists "sourceIndexes" (·.IsSourceIndex count) ∧
        group.sourceIndexes = entry.listed "sourceIndexes" :=
    Json.memberItems_eq_ok (Json.not_isSourceIndex_string count)
  rw [ofReply_iff, Json.memberD_eq_ok, Json.members_eq_ok, Include.ofReplies_eq_ok,
    Json.members_eq_ok]
  constructor
  · rintro ⟨⟨⟨hobject, hlanguage⟩, ⟨-, hfragments, hfragmentsEq⟩, ⟨-, hincludes, hincludesEq⟩,
      ⟨-, hdefines, hdefinesEq⟩, hitems⟩, hall⟩
    obtain ⟨-, hsourceIndexes, hindexesEq⟩ := hindexes.1 ⟨hitems, hall⟩
    refine ⟨⟨hobject, hfragments, hincludes, hdefines, hsourceIndexes⟩, ?_⟩
    rw [described, hlanguage, ← hfragmentsEq, ← hincludesEq, ← hdefinesEq, ← hindexesEq]
  · rintro ⟨h, rfl⟩
    obtain ⟨hitems, hall⟩ := hindexes.2 ⟨h.object, h.sourceIndexes, rfl⟩
    exact ⟨⟨⟨h.object, rfl⟩, ⟨h.object, h.fragments, rfl⟩, ⟨h.object, h.includes, rfl⟩,
      ⟨h.object, h.defines, rfl⟩, hitems⟩, hall⟩

theorem faultsExpected_ofReply (entry : Json) : Json.FaultsExpected (ofReply entry) := by
  rw [ofReply]
  refine (Json.faultsExpected_memberD entry _ _).bind fun language => ?_
  refine (Json.faultsExpected_memberItems entry _).bind fun fragmentItems => ?_
  refine (Json.faultsExpected_mapM (Json.faultsExpected_member · _) fragmentItems).bind
    fun fragments => ?_
  refine (Json.faultsExpected_memberItems entry _).bind fun includeItems => ?_
  refine (Json.faultsExpected_mapM Include.faultsExpected_ofReply includeItems).bind
    fun includes => ?_
  refine (Json.faultsExpected_memberItems entry _).bind fun defineItems => ?_
  refine (Json.faultsExpected_mapM (Json.faultsExpected_member · _) defineItems).bind
    fun defines => ?_
  refine (Json.faultsExpected_memberItems entry _).bind fun indexes => ?_
  exact Json.faultsExpected_ok _

end CompileGroup

/-! ## Targets -/

namespace Target

/-- A target is made from two questions to its reply. -/
theorem ofReplyUnchecked_iff {file : String} {data : Json} {target : Target} :
    ofReplyUnchecked file data = .ok target ↔
      target.file = file ∧
      (∃ items, data.memberItems "sources" = .ok items ∧
        items.mapM (·.member "path") = .ok target.sources) ∧
      ∃ items, data.memberItems "compileGroups" = .ok items ∧
        items.mapM CompileGroup.ofReply = .ok target.groups := by
  rw [ofReplyUnchecked]
  simp only [bind_eq_ok]
  constructor
  · rintro ⟨sourceItems, hsourceItems, sources, hsources, groupItems, hgroupItems, groups, hgroups,
      hdone⟩
    cases hdone
    exact ⟨rfl, ⟨_, hsourceItems, hsources⟩, _, hgroupItems, hgroups⟩
  · rintro ⟨rfl, ⟨_, hsourceItems, hsources⟩, _, hgroupItems, hgroups⟩
    exact ⟨_, hsourceItems, _, hsources, _, hgroupItems, _, hgroups, rfl⟩

theorem faultsExpected_ofReplyUnchecked (file : String) (data : Json) :
    Json.FaultsExpected (ofReplyUnchecked file data) := by
  rw [ofReplyUnchecked]
  refine (Json.faultsExpected_memberItems data _).bind fun sourceItems => ?_
  refine (Json.faultsExpected_mapM (Json.faultsExpected_member · _) sourceItems).bind
    fun sources => ?_
  refine (Json.faultsExpected_memberItems data _).bind fun groupItems => ?_
  refine (Json.faultsExpected_mapM CompileGroup.faultsExpected_ofReply groupItems).bind
    fun groups => ?_
  exact Json.faultsExpected_ok _

theorem badIndex?_eq_none {target : Target} :
    target.badIndex? = none ↔ ∀ group ∈ target.groups, ∀ index ∈ group.sourceIndexes,
      index.IsSourceIndex target.sources.length := by
  rw [badIndex?, List.find?_eq_none]
  simp only [Bool.not_eq_true', Bool.not_eq_false, isIndex_iff_isSourceIndex, List.mem_flatMap]
  constructor
  · intro h group hgroup index hindex
    exact h index ⟨group, hgroup, hindex⟩
  · rintro h index ⟨group, hgroup, hindex⟩
    exact h group hgroup index hindex

/-- A target is accepted if its parts are, and if its indexes count its sources. -/
theorem ofReply_iff {file : String} {data : Json} {target : Target} :
    ofReply file data = .ok target ↔
      ofReplyUnchecked file data = .ok target ∧
        ∀ group ∈ target.groups, ∀ index ∈ group.sourceIndexes,
          index.IsSourceIndex target.sources.length := by
  rw [ofReply, ← badIndex?_eq_none]
  cases ofReplyUnchecked file data with
  | error fault => simp
  | ok other =>
    simp only [Except.ok.injEq]
    constructor
    · intro h
      split at h
      · cases h
      · rename_i hnone
        cases h
        exact ⟨rfl, hnone⟩
    · rintro ⟨rfl, hnone⟩
      rw [hnone]

/-- A target reply is accepted exactly if it keeps to the grammar. -/
theorem ofReply_eq_ok {file : String} {data : Json} {target : Target} :
    ofReply file data = .ok target ↔ data.IsTarget ∧ target = described file data := by
  have hgroups (count : Nat) : ((∃ items, data.memberItems "compileGroups" = .ok items ∧
          items.mapM CompileGroup.ofReply = .ok target.groups) ∧
        ∀ group ∈ target.groups, ∀ index ∈ group.sourceIndexes, index.IsSourceIndex count) ↔
      data.kind = .object ∧ data.Lists "compileGroups" (·.IsGroup count) ∧
        target.groups = (data.listed "compileGroups").map CompileGroup.described :=
    Json.mapM_memberItems_eq_ok (fun _ _ => CompileGroup.ofReply_eq_ok)
      (Json.not_isGroup_string count)
  rw [ofReply_iff, ofReplyUnchecked_iff, Json.members_eq_ok]
  constructor
  · rintro ⟨⟨hfile, ⟨hobject, hsources, hsourcesEq⟩, hitems⟩, hindexes⟩
    have hlength : target.sources.length = (data.listed "sources").length := by
      rw [hsourcesEq, List.length_map]
    rw [hlength] at hindexes
    obtain ⟨-, hgroups, hgroupsEq⟩ := (hgroups _).1 ⟨hitems, hindexes⟩
    refine ⟨⟨hobject, hsources, hgroups⟩, ?_⟩
    rw [described, ← hfile, ← hsourcesEq, ← hgroupsEq]
  · rintro ⟨h, rfl⟩
    obtain ⟨hitems, hindexes⟩ := (hgroups _).2 ⟨h.object, h.groups, rfl⟩
    have hlength : (described file data).sources.length = (data.listed "sources").length :=
      List.length_map _
    rw [hlength]
    exact ⟨⟨rfl, ⟨h.object, h.sources, rfl⟩, hitems⟩, hindexes⟩

/-- What becomes of a target reply. -/
structure IsRead (file : String) (data : Json) : Prop where
  /-- A reply is accepted exactly if it keeps to the grammar, as the target that it describes. -/
  accepted : ∀ target, ofReply file data = .ok target ↔
    data.IsTarget ∧ target = described file data
  /-- What is not accepted is refused as malformed: for a fault of a class that is looked out for, or
  for an index that counts no source. -/
  refused : ∀ error, ofReply file data = .error error →
    error.kind = .replyMalformed ∧
      ((∃ fault, error = .replyUnexpected (.target file) fault ∧ fault.IsExpected) ∨
        ∃ index, error = .sourceOutOfRange index file)

/-- A target reply is accepted exactly by its grammar. -/
theorem ofReply_isRead (file : String) (data : Json) : IsRead file data where
  accepted _ := ofReply_eq_ok
  refused error h := by
    rw [ofReply] at h
    split at h
    · rename_i fault hfault
      cases h
      exact ⟨rfl, .inl ⟨fault, rfl, faultsExpected_ofReplyUnchecked file data fault hfault⟩⟩
    · split at h
      · rename_i index hindex
        cases h
        exact ⟨rfl, .inr ⟨index, rfl⟩⟩
      · cases h

end Target

end BuildAnalysis
