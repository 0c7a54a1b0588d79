import BuildAnalysis.Proofs.Target.Grammar

/-!
# Replies for targets

Of all that a target reply holds only the indexes of the sources are checked. Languages, paths and
options may be values of any kind: for each target whose indexes count its sources there is a reply
that it is read from.

* `Target.ofReply_reply`: a target is read from the reply that is made for it.
-/

namespace BuildAnalysis

/-- An entry of a reply with a single member. -/
def Json.entry (name : String) (value : Json) : Json :=
  .object [(name, value)]

/-- The entry for an include directory. -/
def Include.reply (entry : Include) : Json :=
  .object [("path", entry.path), ("isSystem", .bool entry.isSystem)]

/-- The entry for a group. -/
def CompileGroup.reply (group : CompileGroup) : Json :=
  .object [("language", group.language),
    ("compileCommandFragments", .array (group.fragments.map (Json.entry "fragment"))),
    ("includes", .array (group.includes.map Include.reply)),
    ("defines", .array (group.defines.map (Json.entry "define"))),
    ("sourceIndexes", .array group.sourceIndexes)]

/-- The reply for a target. -/
def Target.reply (target : Target) : Json :=
  .object [("sources", .array (target.sources.map (Json.entry "path"))),
    ("compileGroups", .array (target.groups.map CompileGroup.reply))]

/-- Values are described by entries that are made for them. -/
theorem map_described {α : Type} {reply : α → Json} {described : Json → α}
    (h : ∀ a, described (reply a) = a) (as : List α) : (as.map reply).map described = as := by
  rw [List.map_map]
  exact (List.map_congr_left fun a _ => h a).trans (List.map_id as)

theorem Json.find_entry (name : String) (value : Json) :
    (Json.entry name value).find name = some value := by
  simp [Json.entry, Json.find, Json.find?]

theorem Json.get_entry (name : String) (value : Json) :
    (Json.entry name value).get name = value := by
  rw [Json.get, Json.find_entry, Option.getD_some]

theorem Json.lists_entries {value : Json} {name key : String} (values : List Json)
    (h : value.find name = some (.array (values.map (Json.entry key)))) :
    value.Lists name (·.Has key) := by
  refine Json.lists_of_find_eq_array h fun item hitem => ?_
  obtain ⟨member, -, rfl⟩ := List.mem_map.1 hitem
  exact ⟨member, Json.find_entry key member⟩

theorem Include.described_reply (entry : Include) : Include.described entry.reply = entry := rfl

namespace CompileGroup

theorem described_reply (group : CompileGroup) : described group.reply = group := by
  have hfragments : (group.reply.listed "compileCommandFragments").map (·.get "fragment") =
      group.fragments := map_described (Json.get_entry "fragment") group.fragments
  have hincludes : (group.reply.listed "includes").map Include.described = group.includes :=
    map_described Include.described_reply group.includes
  have hdefines : (group.reply.listed "defines").map (·.get "define") = group.defines :=
    map_described (Json.get_entry "define") group.defines
  rw [described, hfragments, hincludes, hdefines]
  rfl

theorem isGroup_reply {count : Nat} {group : CompileGroup}
    (h : ∀ index ∈ group.sourceIndexes, index.IsSourceIndex count) : group.reply.IsGroup count where
  object := rfl
  fragments := Json.lists_entries group.fragments rfl
  includes := by
    refine Json.lists_of_find_eq_array rfl fun item hitem => ?_
    obtain ⟨entry, -, rfl⟩ := List.mem_map.1 hitem
    exact ⟨entry.path, rfl⟩
  defines := Json.lists_entries group.defines rfl
  sourceIndexes := Json.lists_of_find_eq_array rfl h

end CompileGroup

namespace Target

theorem described_reply (target : Target) : described target.file target.reply = target := by
  have hsources : (target.reply.listed "sources").map (·.get "path") = target.sources :=
    map_described (Json.get_entry "path") target.sources
  have hgroups : (target.reply.listed "compileGroups").map CompileGroup.described = target.groups :=
    map_described CompileGroup.described_reply target.groups
  rw [described, hsources, hgroups]

/-- Whether the indexes of a target count its sources. -/
def IndexesCount (target : Target) : Prop :=
  ∀ group ∈ target.groups, ∀ index ∈ group.sourceIndexes,
    index.IsSourceIndex target.sources.length

theorem isTarget_reply {target : Target} (h : target.IndexesCount) : target.reply.IsTarget where
  object := rfl
  sources := Json.lists_entries target.sources rfl
  groups := by
    have hlength : (target.reply.listed "sources").length = target.sources.length :=
      List.length_map _
    refine Json.lists_of_find_eq_array rfl fun item hitem => ?_
    obtain ⟨group, hgroup, rfl⟩ := List.mem_map.1 hitem
    rw [hlength]
    exact CompileGroup.isGroup_reply (h group hgroup)

/-- A target whose indexes count its sources is read from its reply, whatever its other values
are. -/
theorem ofReply_reply {target : Target} (h : target.IndexesCount) :
    ofReply target.file target.reply = .ok target :=
  ofReply_eq_ok.2 ⟨isTarget_reply h, (described_reply target).symm⟩

end Target

end BuildAnalysis
