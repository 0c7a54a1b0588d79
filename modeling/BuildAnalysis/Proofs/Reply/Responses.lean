import BuildAnalysis.Proofs.Json.Questions
import BuildAnalysis.Reply.Index

/-!
# The responses of an index

Of the responses to the query of a client only those count that name a kind and a reply file. The
reply file of a kind is the one that the last of them names.

* `path?_files`: where the reply file of a kind is.
-/

namespace BuildAnalysis.Reply

variable {index : Json} {client kind directory : String}

/-- The items of an array; any other value has none here. -/
def arrayItems : Json → List Json
  | .array items => items
  | _ => []

/-- The items of the responses to the query of a client. -/
def responseItems (index : Json) (client : String) : List Json :=
  (responsesValue? index client).elim [] arrayItems

/-- The name of the reply file, if a response is one of a kind. -/
def fileNamed? (kind : String) (response : Json) : Option String :=
  match response.find "kind", response.find "jsonFile" with
  | some (.string k), some (.string file) => if k = kind then some file else none
  | _, _ => none

/-- The name of the reply file of a kind, which is the one in the last response of that kind. -/
def fileName? (index : Json) (client kind : String) : Option String :=
  ((responseItems index client).filterMap (fileNamed? kind)).getLast?

/-- A string is no response. -/
theorem filter_map_string {α : Type} (list : List α) (f : α → String) :
    (list.map fun a => Json.string (f a)).filter isResponse = [] := by
  rw [List.filter_eq_nil_iff]
  intro value hvalue
  obtain ⟨a, -, rfl⟩ := List.mem_map.1 hvalue
  exact Bool.false_ne_true

/-- A value that counts as false has no items. -/
theorem arrayItems_of_not_truthy {value : Json} (h : value.truthy = false) :
    arrayItems value = [] := by
  cases value with
  | array items =>
    cases items with
    | nil => rfl
    | cons item rest => cases h
  | null => rfl
  | bool b => rfl
  | integer n => rfl
  | float x => rfl
  | string s => rfl
  | object members => rfl

/-- Only the items of an array may be responses: the characters of a string and the names of an
object are strings. -/
theorem filter_items {value : Json} {items : List Json} (h : value.items = .ok items) :
    items.filter isResponse = (arrayItems value).filter isResponse := by
  cases value with
  | array list =>
    cases h
    rfl
  | string s =>
    cases h
    exact filter_map_string _ _
  | object members =>
    cases h
    exact filter_map_string _ _
  | null => cases h
  | bool b => cases h
  | integer n => cases h
  | float x => cases h

/-- The responses that count are among the items of an array. -/
theorem responses_eq_ok {list : List Json} (h : responses index client = .ok list) :
    list = (responseItems index client).filter isResponse := by
  rw [responses] at h
  rw [responseItems]
  cases hvalue : responsesValue? index client with
  | none =>
    rw [hvalue] at h
    cases h
    rfl
  | some value =>
    rw [hvalue] at h
    rw [Option.elim_some]
    simp only at h
    split at h
    · rename_i hfalse
      cases h
      rw [arrayItems_of_not_truthy (by simpa using hfalse), List.filter_nil]
    · obtain ⟨items, hitems, hlist⟩ := bind_eq_ok.1 h
      cases hlist
      exact filter_items hitems

/-- A value that is no response names no reply file. -/
theorem filterMap_fileNamed? (items : List Json) (kind : String) :
    (items.filter isResponse).filterMap (fileNamed? kind) = items.filterMap (fileNamed? kind) := by
  rw [List.filterMap_filter]
  refine List.filterMap_congr fun item _ => ?_
  split
  · rfl
  · rename_i h
    rw [isResponse, Bool.and_eq_true, not_and_or] at h
    rw [fileNamed?]
    rcases h with h | h
    · rw [Option.isSome_iff_ne_none, not_not] at h
      rw [h]
    · rw [Option.isSome_iff_ne_none, not_not] at h
      rw [h]
      split
      · rename_i hnone
        cases hnone
      · rfl

/-- What a response has to be for its kind and its file to be told. -/
theorem fileOf_eq_ok {response : Json} {file : Json × String}
    (h : fileOf directory response = .ok file) :
    ∃ name, response.find "kind" = some file.1 ∧ response.find "jsonFile" = some (.string name) ∧
      file.2 = Path.join directory name := by
  rw [fileOf] at h
  obtain ⟨kind, hkind, h⟩ := bind_eq_ok.1 h
  obtain ⟨jsonFile, hjsonFile, h⟩ := bind_eq_ok.1 h
  obtain ⟨name, hname, h⟩ := bind_eq_ok.1 h
  obtain ⟨key, hkey, h⟩ := bind_eq_ok.1 h
  cases h
  rw [Json.member_eq_ok] at hkind hjsonFile
  rw [Json.path_eq_ok] at hname
  subst hname
  exact ⟨name, by rw [hkind, (Json.key_eq_ok.1 hkey).2], hjsonFile, rfl⟩

/-- The files of a kind are those that the responses of that kind name, in their order. -/
theorem filter_files {list : List Json} {files : List (Json × String)}
    (h : Reply.files directory list = .ok files) (kind : String) :
    (files.filter fun file => Json.sameKey file.1 (.string kind)).map (·.2) =
      (list.filterMap (fileNamed? kind)).map (Path.join directory) := by
  rw [Reply.files, mapM_eq_ok] at h
  induction h with
  | nil => rfl
  | @cons response file list files hfile _ ih =>
    obtain ⟨name, hkind, hname, hpath⟩ := fileOf_eq_ok hfile
    rw [List.filter_cons, List.filterMap_cons]
    by_cases hsame : Json.sameKey file.1 (.string kind) = true
    -- the kind that a file is kept under is the one that its response tells
    · have hnamed : fileNamed? kind response = some name := by
        rw [fileNamed?, hkind, Json.sameKey_string.1 hsame, hname]
        exact if_pos rfl
      rw [if_pos hsame, hnamed, List.map_cons, List.map_cons, ih, hpath]
    · have hnamed : fileNamed? kind response = none := by
        rw [fileNamed?, hkind, hname]
        split
        · rename_i k f hk hf
          refine if_neg fun heq => hsame (Json.sameKey_string.2 ?_)
          rw [Option.some.inj hk, heq]
        · rfl
      rw [if_neg hsame, hnamed, ih]

/-- The reply file of a kind is in the directory of the replies, under the name that the last
response of that kind gives. -/
theorem path?_files {list : List Json} {files : List (Json × String)}
    (hlist : responses index client = .ok list) (hfiles : Reply.files directory list = .ok files)
    (kind : String) :
    path? files kind = (fileName? index client kind).map (Path.join directory) := by
  have hlast : (files.reverse.find? fun file => Json.sameKey file.1 (.string kind)) =
      (files.filter fun file => Json.sameKey file.1 (.string kind)).getLast? := by
    rw [← List.head?_filter, List.filter_reverse, List.head?_reverse]
  rw [path?, hlast, ← List.getLast?_map, filter_files hfiles, responses_eq_ok hlist,
    filterMap_fileNamed?, List.getLast?_map, fileName?]

/-! ## Responses that can be used -/

/-- Whether a response names a kind that can be used as a key and a reply file by its name. -/
structure NamesFile (response : Json) : Prop where
  kind : ∃ kind, response.find "kind" = some kind ∧ kind.key?.isSome = true
  file : ∃ file, response.find "jsonFile" = some (.string file)

theorem exists_fileOf_eq_ok {response : Json} :
    (∃ file, fileOf directory response = .ok file) ↔ NamesFile response := by
  constructor
  · rintro ⟨file, h⟩
    obtain ⟨name, hkind, hname, -⟩ := fileOf_eq_ok h
    rw [fileOf] at h
    obtain ⟨kind, hmember, h⟩ := bind_eq_ok.1 h
    obtain ⟨_, -, h⟩ := bind_eq_ok.1 h
    obtain ⟨_, -, h⟩ := bind_eq_ok.1 h
    obtain ⟨key, hkey, -⟩ := bind_eq_ok.1 h
    exact ⟨⟨kind, Json.member_eq_ok.1 hmember, (Json.key_eq_ok.1 hkey).1⟩, name, hname⟩
  · rintro ⟨⟨kind, hkind, hkey⟩, name, hname⟩
    refine ⟨(kind, Path.join directory name), ?_⟩
    rw [fileOf, bind_eq_ok]
    refine ⟨kind, Json.member_eq_ok.2 hkind, ?_⟩
    refine bind_eq_ok.2 ⟨.string name, Json.member_eq_ok.2 hname, ?_⟩
    refine bind_eq_ok.2 ⟨name, rfl, ?_⟩
    exact bind_eq_ok.2 ⟨kind, Json.key_eq_ok.2 ⟨hkey, rfl⟩, rfl⟩

/-- The reply files of responses can be told exactly if each of them names one. -/
theorem exists_files_eq_ok {list : List Json} :
    (∃ files, Reply.files directory list = .ok files) ↔ ∀ response ∈ list, NamesFile response := by
  rw [Reply.files, exists_mapM_eq_ok]
  simp only [exists_fileOf_eq_ok]

/-- The responses can be told exactly if there is none, or a value with items. -/
theorem exists_responses_eq_ok :
    (∃ list, responses index client = .ok list) ↔
      ∀ value, responsesValue? index client = some value → value.truthy = true →
        ∃ items, value.items = .ok items := by
  rw [responses]
  cases responsesValue? index client with
  | none => exact ⟨fun _ _ h => (nomatch h), fun _ => ⟨[], rfl⟩⟩
  | some value =>
    simp only [Option.some.injEq, forall_eq']
    cases value.truthy with
    | false => exact ⟨fun _ h => (nomatch h), fun _ => ⟨[], rfl⟩⟩
    | true =>
      constructor
      · rintro ⟨list, hlist⟩ -
        obtain ⟨items, hitems, -⟩ := bind_eq_ok.1 hlist
        exact ⟨items, hitems⟩
      · intro h
        obtain ⟨items, hitems⟩ := h rfl
        exact ⟨items.filter isResponse, bind_eq_ok.2 ⟨items, hitems, rfl⟩⟩

/-- The responses in a list are all of its items that are responses. -/
theorem responses_of_array {list : List Json}
    (h : responsesValue? index client = some (.array list)) :
    responses index client = .ok (list.filter isResponse) := by
  obtain ⟨found, hfound⟩ := exists_responses_eq_ok.2 fun value hvalue _ => by
    rw [h, Option.some.injEq] at hvalue
    exact ⟨list, by rw [← hvalue]; rfl⟩
  have hitems : responseItems index client = list := by
    rw [responseItems, h]
    rfl
  rw [hfound, responses_eq_ok hfound, hitems]

/-! ## The last response of a kind -/

/-- The name of the reply file in the last response of a kind. -/
def lastFile? (kind : String) (list : List Json) : Option String :=
  (list.filterMap (fileNamed? kind)).getLast?

theorem fileName?_of_array {list : List Json}
    (h : responsesValue? index client = some (.array list)) (kind : String) :
    fileName? index client kind = lastFile? kind list := by
  rw [fileName?, responseItems, h]
  rfl

end BuildAnalysis.Reply
