import BuildAnalysis.Proofs.Json.Equality
import BuildAnalysis.Proofs.Json.Listing
import BuildAnalysis.Proofs.Toolchain.Resolved

/-!
# The toolchains reply

An item of the toolchains reply counts if it is for a language that is analyzed and its compiler can
analyze. The items are checked one after the other: those of other languages need only be objects,
those of the two languages need a compiler that is an object if they have one, and a compiler that can
analyze needs a path and include directories that can be listed. The last item that counts for a
language tells its compiler.

* `addReply_eq_ok`: what becomes of an item.
* `foldlM_addReply_eq_ok`: what becomes of all of them.
* `ofReply_isOutcome`: how the reply is resolved.
-/

namespace BuildAnalysis

/-! ## Items -/

namespace Json

/-- Whether an item of the toolchains reply is for a language. -/
def IsFor (item : Json) (language : Language) : Prop :=
  item.find "language" = some (.string language.name)

/-- Whether a compiler is told to be one that can analyze. -/
def IsAnalyzer (compiler : Json) : Prop :=
  compiler.find "id" = some (.string Compiler.analyzerId)

instance (item : Json) (language : Language) : Decidable (item.IsFor language) :=
  inferInstanceAs (Decidable (_ = _))

instance (compiler : Json) : Decidable compiler.IsAnalyzer :=
  inferInstanceAs (Decidable (_ = _))

/-- The compiler of an item of the toolchains reply; one that is absent has no members. -/
def toolchainCompiler (item : Json) : Json :=
  (item.find "compiler").getD (.object [])

/-- The compiler that an item tells for a language, if it can analyze. -/
def analyzerFor? (language : Language) (item : Json) : Option Json :=
  if item.IsFor language ∧ item.toolchainCompiler.IsAnalyzer then some item.toolchainCompiler
  else none

/-- The ways in which an item of the toolchains reply is malformed. -/
inductive IsMalformedToolchain (item : Json) : Prop
  /-- It is no object. -/
  | item (h : item.kind ≠ .object)
  /-- It is for a language that is analyzed, and its compiler is no object. -/
  | compiler {language : Language} (hlanguage : item.IsFor language)
    (h : item.toolchainCompiler.kind ≠ .object)
  /-- Its compiler counts, but has no path that is a text and not empty. -/
  | path {language : Language} {compiler : Json}
    (hcompiler : item.analyzerFor? language = some compiler)
    (h : ∀ path, compiler.find "path" = some (.string path) → path = "")
  /-- Its compiler counts, but its include directories can not be listed. -/
  | includes {language : Language} {compiler value : Json}
    (hcompiler : item.analyzerFor? language = some compiler)
    (hvalue : compiler.find "includeDirectories" = some value)
    (h : value.kind ∈ [Kind.null, .bool, .integer, .float])

/-- The ways in which the toolchains reply is malformed. -/
inductive IsMalformedToolchains (data : Json) : Prop
  /-- It is no object. -/
  | data (h : data.kind ≠ .object)
  /-- Its toolchains are there, but are no array and not empty. -/
  | toolchains {value : Json} (hvalue : data.find "toolchains" = some value)
    (harray : value.kind ≠ .array) (hstring : value ≠ .string "") (hobject : value ≠ .object [])
  /-- One of its items is malformed. -/
  | item {item : Json} (hitem : item ∈ data.listed "toolchains") (h : item.IsMalformedToolchain)

/-- The compilers that a reply tells for a language and that can analyze, in their order. -/
def analyzersFor (data : Json) (language : Language) : List Json :=
  (data.listed "toolchains").filterMap (analyzerFor? language)

/-- Whether an item is well-formed, but is of another language or has another compiler. -/
structure IsForeignToolchain (item : Json) : Prop where
  wellFormed : ¬ item.IsMalformedToolchain
  foreign : ∀ language, item.analyzerFor? language = none

variable {item compiler value : Json} {language : Language}

theorem analyzerFor?_eq_some : item.analyzerFor? language = some compiler ↔
    item.IsFor language ∧ compiler.IsAnalyzer ∧ compiler = item.toolchainCompiler := by
  rw [analyzerFor?, Option.ite_none_right_eq_some, Option.some.injEq]
  constructor
  · rintro ⟨⟨hlanguage, hid⟩, rfl⟩
    exact ⟨hlanguage, hid, rfl⟩
  · rintro ⟨hlanguage, hid, rfl⟩
    exact ⟨⟨hlanguage, hid⟩, rfl⟩

/-- An item is for a language exactly if its language has the name of that one. -/
theorem isFor_iff : ((item.find "language").bind string?).bind Language.ofName? = some language ↔
    item.IsFor language := by
  rw [IsFor]
  cases item.find "language" with
  | none => simp
  | some value =>
    cases value with
    | string s =>
      simp only [Option.bind_some, string?, Option.some.injEq, Json.string.injEq]
      rw [Language.ofName?]
      split
      · rename_i hc
        obtain rfl : s = "C" := by simpa using hc
        cases language <;> decide
      · rename_i hc
        split
        · rename_i hcxx
          obtain rfl : s = "CXX" := by simpa using hcxx
          cases language <;> decide
        · rename_i hcxx
          cases language <;> simp_all [Language.name]
    | _ => simp [string?]

/-- No item is for two languages. -/
theorem IsFor.unique {other : Language} (h : item.IsFor language) (h' : item.IsFor other) :
    language = other := by
  rw [IsFor, h, Option.some.injEq, Json.string.injEq] at h'
  cases language with
  | c =>
    cases other with
    | c => rfl
    | cxx => exact absurd h' (by decide)
  | cxx =>
    cases other with
    | c => exact absurd h' (by decide)
    | cxx => rfl

/-- The items of a value can be asked for exactly if it is no null, truth value or number. -/
theorem kind_mem_iff :
    value.kind ∈ [Kind.null, .bool, .integer, .float] ↔ ∀ items, value.items ≠ .ok items := by
  cases value with
  | array list => simp [kind, Json.items]
  | string s => simp [kind, Json.items]
  | object members => simp [kind, Json.items]
  | null => simp [kind, Json.items]
  | bool b => simp [kind, Json.items]
  | integer n => simp [kind, Json.items]
  | float x => simp [kind, Json.items]

end Json

/-! ## Refusals -/

variable {α β : Type}

/-- Whether an answer, if there is none, is refused because of a malformed reply. -/
def RefusesMalformed (answer : Except AnalysisError α) : Prop :=
  ∀ error, answer = .error error → error.kind = .replyMalformed

theorem refusesMalformed_ok (a : α) : RefusesMalformed (.ok a) := by
  intro error h
  cases h

theorem refusesMalformed_error {error : AnalysisError} (h : error.kind = .replyMalformed) :
    RefusesMalformed (.error error : Except AnalysisError α) := by
  intro other hother
  cases hother
  exact h

theorem refusesMalformed_check (file : ReplyFile) (answer : Except Json.Fault α) :
    RefusesMalformed (file.check answer) := by
  intro error h
  cases answer with
  | ok a => cases h
  | error fault =>
    cases h
    rfl

theorem RefusesMalformed.bind {answer : Except AnalysisError α}
    {rest : α → Except AnalysisError β} (h : RefusesMalformed answer)
    (hrest : ∀ a, RefusesMalformed (rest a)) : RefusesMalformed (answer >>= rest) := by
  cases answer with
  | ok a => exact hrest a
  | error e =>
    intro error herror
    cases herror
    exact h e rfl

theorem check_eq_ok {file : ReplyFile} {answer : Except Json.Fault α} {a : α} :
    file.check answer = .ok a ↔ answer = .ok a :=
  mapError_eq_ok

/-! ## Compilers -/

namespace Compiler

variable {language : Language} {reply : Json} {found : Option Compiler}

/-- The compiler that an entry of the toolchains reply describes. -/
def described (reply : Json) : Compiler where
  path := ((reply.find "path").bind Json.string?).getD ""
  version := (reply.find "version").getD (.string "")
  includes := ((reply.find "includeDirectories").getD (.array [])).items.toOption.getD []

/-- Whether an entry describes a compiler: it has a path, and include directories that can be
listed if there are any. -/
structure IsDescribed (reply : Json) : Prop where
  path : ∃ path, reply.find "path" = some (.string path) ∧ path ≠ ""
  includes : ∀ value, reply.find "includeDirectories" = some value →
    ∃ items, value.items = .ok items

/-- The path of a compiler that can analyze, which has to be there. -/
def requiredPath (language : Language) (reply : Json) : Except AnalysisError String := do
  match ← ReplyFile.check .toolchains (reply.member "path") with
  | .string path => if path = "" then throw (.compilerPathMissing language.name) else return path
  | _ => throw (.compilerPathMissing language.name)

/-- The compiler that an entry describes which is told to be able to analyze. -/
def ofAnalyzer (language : Language) (reply : Json) : Except AnalysisError Compiler := do
  let path ← requiredPath language reply
  let version ← ReplyFile.check .toolchains (reply.memberD "version" (.string ""))
  let includes ← ReplyFile.check .toolchains (reply.memberD "includeDirectories" (.array []))
  return { path, version, includes := ← ReplyFile.check .toolchains includes.items }

/-- Only compilers that can analyze are looked into. -/
theorem ofReply?_eq (language : Language) (reply : Json) :
    ofReply? language reply = do
      let id ← ReplyFile.check .toolchains (reply.member? "id")
      if id = some (.string analyzerId) then return some (← ofAnalyzer language reply)
      else return none := by
  rw [ofReply?]
  refine bind_congr fun id => ?_
  split
  · rename_i id
    by_cases hid : id = analyzerId
    · subst hid
      rw [if_neg (by simp), if_pos rfl, ofAnalyzer, requiredPath, bind_assoc, bind_assoc]
      refine bind_congr fun path => ?_
      split
      · rfl
      · rename_i path hpath
        have hpath : path ≠ "" := hpath
        simp only [if_neg hpath, pure_bind, bind_assoc]
      · rename_i hpath
        cases path with
        | string path => exact absurd rfl (hpath path)
        | _ => rfl
    · rw [if_pos (by simpa using hid), if_neg (by simpa using hid)]
  · rename_i hid
    rw [if_neg fun h => hid _ h]

theorem ofAnalyzer_refusesMalformed (language : Language) (reply : Json) :
    RefusesMalformed (ofAnalyzer language reply) := by
  have hpath : RefusesMalformed (requiredPath language reply) := by
    refine (refusesMalformed_check _ _).bind fun value => ?_
    split
    · split
      · exact refusesMalformed_error rfl
      · exact refusesMalformed_ok _
    · exact refusesMalformed_error rfl
  refine hpath.bind fun path => ?_
  refine (refusesMalformed_check _ _).bind fun version => ?_
  refine (refusesMalformed_check _ _).bind fun includes => ?_
  exact (refusesMalformed_check _ _).bind fun items => refusesMalformed_ok _

/-- An entry that can not be read is refused as malformed. -/
theorem ofReply?_refusesMalformed (language : Language) (reply : Json) :
    RefusesMalformed (ofReply? language reply) := by
  rw [ofReply?_eq]
  refine (refusesMalformed_check _ _).bind fun id => ?_
  split
  · exact (ofAnalyzer_refusesMalformed language reply).bind fun compiler => refusesMalformed_ok _
  · exact refusesMalformed_ok none

theorem requiredPath_eq_ok {path : String} : requiredPath language reply = .ok path ↔
    reply.find "path" = some (.string path) ∧ path ≠ "" := by
  rw [requiredPath, bind_eq_ok]
  simp only [check_eq_ok, Json.member_eq_ok]
  constructor
  · rintro ⟨value, hvalue, h⟩
    split at h
    · split at h
      · cases h
      · rename_i hpath
        cases h
        exact ⟨hvalue, hpath⟩
    · cases h
  · rintro ⟨hvalue, hpath⟩
    exact ⟨_, hvalue, if_neg hpath⟩

/-- A compiler that can analyze is accepted exactly if its entry describes it. -/
theorem ofAnalyzer_eq_ok (hreply : reply.kind = .object) {compiler : Compiler} :
    ofAnalyzer language reply = .ok compiler ↔ IsDescribed reply ∧ compiler = described reply := by
  have hincludes : (∀ value, reply.find "includeDirectories" = some value →
      ∃ items, value.items = .ok items) ↔
      ∃ items, ((reply.find "includeDirectories").getD (.array [])).items = .ok items := by
    cases reply.find "includeDirectories" with
    | none => simp [Json.items]
    | some value => simp
  rw [ofAnalyzer]
  simp only [bind_eq_ok, requiredPath_eq_ok, check_eq_ok, Json.memberD_eq_ok, hreply, true_and,
    exists_eq_left']
  constructor
  · rintro ⟨path, ⟨hpath, hne⟩, items, hitems, hdone⟩
    cases hdone
    refine ⟨⟨⟨path, hpath, hne⟩, hincludes.2 ⟨items, hitems⟩⟩, ?_⟩
    rw [described, hpath, hitems]
    rfl
  · rintro ⟨⟨⟨path, hpath, hne⟩, h⟩, rfl⟩
    obtain ⟨items, hitems⟩ := hincludes.1 h
    refine ⟨path, ⟨hpath, hne⟩, items, hitems, ?_⟩
    rw [described, hpath, hitems]
    rfl

/-- The entry of a compiler is accepted exactly if it is an object and, if it can analyze, describes
one. -/
theorem ofReply?_eq_ok : ofReply? language reply = .ok found ↔
    reply.kind = .object ∧ (reply.IsAnalyzer → IsDescribed reply) ∧
      found = if reply.IsAnalyzer then some (described reply) else none := by
  rw [ofReply?_eq, bind_eq_ok]
  simp only [check_eq_ok, Json.member?_eq_ok]
  by_cases hid : reply.IsAnalyzer
  · have hfind : reply.find "id" = some (.string analyzerId) := hid
    simp only [hfind, hid, if_true, forall_const]
    constructor
    · rintro ⟨_, ⟨hobject, rfl⟩, h⟩
      obtain ⟨compiler, hcompiler, hfound⟩ := bind_eq_ok.1 h
      cases hfound
      obtain ⟨hdescribed, rfl⟩ := (ofAnalyzer_eq_ok hobject).1 hcompiler
      exact ⟨hobject, hdescribed, rfl⟩
    · rintro ⟨hobject, hdescribed, rfl⟩
      refine ⟨_, ⟨hobject, rfl⟩, ?_⟩
      exact bind_eq_ok.2 ⟨_, (ofAnalyzer_eq_ok hobject).2 ⟨hdescribed, rfl⟩, rfl⟩
  · have hfind : ¬ reply.find "id" = some (.string analyzerId) := hid
    simp only [hid, if_false, false_implies, true_and]
    constructor
    · rintro ⟨_, ⟨hobject, rfl⟩, h⟩
      rw [if_neg hfind] at h
      cases h
      exact ⟨hobject, rfl⟩
    · rintro ⟨hobject, rfl⟩
      exact ⟨_, ⟨hobject, rfl⟩, if_neg hfind⟩

end Compiler

/-! ## Toolchains -/

namespace Toolchains

variable {toolchains after : Toolchains} {item data : Json} {items : List Json}

theorem ext_get? (h : ∀ language, toolchains.get? language = after.get? language) :
    toolchains = after := by
  have hc := h .c
  have hcxx := h .cxx
  cases toolchains
  cases after
  simp only [get?] at hc hcxx
  rw [hc, hcxx]

theorem exists_get? (compilers : Language → Option Compiler) :
    ∃ toolchains : Toolchains, ∀ language, toolchains.get? language = compilers language := by
  refine ⟨⟨compilers .c, compilers .cxx⟩, fun language => ?_⟩
  cases language with
  | c => rfl
  | cxx => rfl

theorem addReply_refusesMalformed (toolchains : Toolchains) (item : Json) :
    RefusesMalformed (toolchains.addReply item) := by
  rw [addReply]
  refine (refusesMalformed_check _ _).bind fun name => ?_
  refine (refusesMalformed_check _ _).bind fun reply => ?_
  split
  · exact refusesMalformed_ok toolchains
  · refine (Compiler.ofReply?_refusesMalformed _ reply).bind fun found => ?_
    split
    · exact refusesMalformed_ok toolchains
    · exact refusesMalformed_ok _

/-- An item for a language is well-formed if its compiler is an object and, if it can analyze,
describes one. -/
theorem not_isMalformedToolchain_iff {language : Language} (hobject : item.kind = .object)
    (hlanguage : item.IsFor language) :
    ¬ item.IsMalformedToolchain ↔ item.toolchainCompiler.kind = .object ∧
      (item.toolchainCompiler.IsAnalyzer → Compiler.IsDescribed item.toolchainCompiler) := by
  constructor
  · intro h
    have hcompiler (hid : item.toolchainCompiler.IsAnalyzer) :
        item.analyzerFor? language = some item.toolchainCompiler :=
      Json.analyzerFor?_eq_some.2 ⟨hlanguage, hid, rfl⟩
    refine ⟨?_, fun hid => ⟨?_, fun value hvalue => ?_⟩⟩
    · by_contra hkind
      exact h (.compiler hlanguage hkind)
    · by_contra hnone
      refine h (.path (hcompiler hid) fun path hpath => ?_)
      by_contra hne
      exact hnone ⟨path, hpath, hne⟩
    · by_contra hnone
      refine h (.includes (hcompiler hid) hvalue (Json.kind_mem_iff.2 fun items hitems => ?_))
      exact hnone ⟨items, hitems⟩
  · rintro ⟨hkind, hdescribed⟩ hmalformed
    cases hmalformed with
    | item h => exact h hobject
    | compiler _ h => exact h hkind
    | path hcompiler h =>
      obtain ⟨-, hid, rfl⟩ := Json.analyzerFor?_eq_some.1 hcompiler
      obtain ⟨path, hpath, hne⟩ := (hdescribed hid).path
      exact hne (h path hpath)
    | includes hcompiler hvalue h =>
      obtain ⟨-, hid, rfl⟩ := Json.analyzerFor?_eq_some.1 hcompiler
      obtain ⟨items, hitems⟩ := (hdescribed hid).includes _ hvalue
      exact Json.kind_mem_iff.1 h items hitems

/-- An item for another language need only be an object. -/
theorem not_isMalformedToolchain_of_not (hobject : item.kind = .object)
    (h : ∀ language, ¬ item.IsFor language) : ¬ item.IsMalformedToolchain := by
  intro hmalformed
  cases hmalformed with
  | item hitem => exact hitem hobject
  | compiler hlanguage _ => exact h _ hlanguage
  | path hcompiler _ => exact h _ (Json.analyzerFor?_eq_some.1 hcompiler).1
  | includes hcompiler _ _ => exact h _ (Json.analyzerFor?_eq_some.1 hcompiler).1

/-- Of an item for a language only that language may take the compiler. -/
theorem forall_get?_iff {language : Language} (hlanguage : item.IsFor language) :
    (∀ other, after.get? other =
        ((item.analyzerFor? other).map Compiler.described).or (toolchains.get? other)) ↔
      after = if item.toolchainCompiler.IsAnalyzer then
        toolchains.set language (.described item.toolchainCompiler) else toolchains := by
  have hset (other : Language) :
      ((item.analyzerFor? other).map Compiler.described).or (toolchains.get? other) =
        Toolchains.get? (if item.toolchainCompiler.IsAnalyzer then
          toolchains.set language (.described item.toolchainCompiler) else toolchains) other := by
    rw [Json.analyzerFor?]
    by_cases hid : item.toolchainCompiler.IsAnalyzer
    · rw [if_pos hid, get?_set]
      by_cases hother : other = language
      · subst hother
        rw [if_pos ⟨hlanguage, hid⟩, if_pos rfl]
        rfl
      · rw [if_neg fun h => hother (h.1.unique hlanguage), if_neg hother]
        rfl
    · rw [if_neg hid, if_neg fun h => hid h.2]
      rfl
  simp only [hset]
  exact ⟨ext_get?, fun h _ => h ▸ rfl⟩

/-- An item whose compiler counts sets the compiler of its language, and every other one changes
nothing. -/
theorem addReply_eq_ok : toolchains.addReply item = .ok after ↔
    ¬ item.IsMalformedToolchain ∧ ∀ language, after.get? language =
      ((item.analyzerFor? language).map Compiler.described).or (toolchains.get? language) := by
  rw [addReply, bind_eq_ok]
  simp only [bind_eq_ok, check_eq_ok, Json.member?_eq_ok, Json.memberD_eq_ok]
  by_cases hobject : item.kind = .object
  · simp only [hobject, true_and, exists_eq_left']
    cases hlanguage : ((item.find "language").bind Json.string?).bind Language.ofName? with
    | none =>
      -- the item is for another language
      have hfor (language : Language) : ¬ item.IsFor language := by
        rw [← Json.isFor_iff, hlanguage]
        simp
      have hnone (language : Language) : item.analyzerFor? language = none :=
        if_neg fun h => hfor language h.1
      simp only [hnone, Option.map_none, Option.none_or]
      constructor
      · intro h
        cases h
        exact ⟨not_isMalformedToolchain_of_not hobject hfor, fun _ => rfl⟩
      · rintro ⟨-, h⟩
        rw [ext_get? h]
        rfl
    | some language =>
      have hfor := Json.isFor_iff.1 hlanguage
      have htaken (after : Toolchains) : (∀ other, after.get? other =
            ((item.analyzerFor? other).map Compiler.described).or (toolchains.get? other)) ↔
          after = if item.toolchainCompiler.IsAnalyzer then
            toolchains.set language (.described item.toolchainCompiler) else toolchains :=
        forall_get?_iff hfor
      rw [not_isMalformedToolchain_iff hobject hfor, htaken, bind_eq_ok]
      have hcompiler : (item.find "compiler").getD (.object []) = item.toolchainCompiler := rfl
      simp only [Compiler.ofReply?_eq_ok, hcompiler]
      by_cases hid : item.toolchainCompiler.IsAnalyzer
      · simp only [hid, if_true, forall_const]
        constructor
        · rintro ⟨_, ⟨hkind, hdescribed, rfl⟩, h⟩
          cases h
          exact ⟨⟨hkind, hdescribed⟩, rfl⟩
        · rintro ⟨⟨hkind, hdescribed⟩, rfl⟩
          exact ⟨_, ⟨hkind, hdescribed, rfl⟩, rfl⟩
      · simp only [hid, if_false, false_implies, true_and, and_true]
        constructor
        · rintro ⟨_, ⟨hkind, rfl⟩, h⟩
          cases h
          exact ⟨hkind, rfl⟩
        · rintro ⟨hkind, rfl⟩
          exact ⟨_, ⟨hkind, rfl⟩, rfl⟩
  · have hmalformed : item.IsMalformedToolchain := .item hobject
    simp [hobject, hmalformed]

/-! ## The reply -/

theorem foldlM_addReply_refusesMalformed (items : List Json) (toolchains : Toolchains) :
    RefusesMalformed (items.foldlM addReply toolchains) := by
  induction items generalizing toolchains with
  | nil => exact refusesMalformed_ok toolchains
  | cons item rest ih =>
    rw [List.foldlM_cons]
    exact (addReply_refusesMalformed toolchains item).bind ih

/-- Items are accepted exactly if each of them is well-formed, and the last one that counts for a
language tells its compiler. -/
theorem foldlM_addReply_eq_ok : items.foldlM addReply toolchains = .ok after ↔
    (∀ item ∈ items, ¬ item.IsMalformedToolchain) ∧ ∀ language, after.get? language =
      ((items.filterMap (Json.analyzerFor? language)).getLast?.map Compiler.described).or
        (toolchains.get? language) := by
  induction items generalizing toolchains with
  | nil =>
    simp only [List.not_mem_nil, false_implies, implies_true, true_and, List.filterMap_nil,
      List.getLast?_nil, Option.map_none, Option.none_or]
    constructor
    · intro h
      cases h
      exact fun _ => rfl
    · intro h
      rw [ext_get? h]
      rfl
  | cons item rest ih =>
    -- what the item sets counts for a language if no later item does
    have hlast (next : Toolchains) (hnext : ∀ language, next.get? language =
          ((item.analyzerFor? language).map Compiler.described).or (toolchains.get? language))
        (language : Language) :
        ((rest.filterMap (Json.analyzerFor? language)).getLast?.map Compiler.described).or
            (next.get? language) =
          (((item :: rest).filterMap (Json.analyzerFor? language)).getLast?.map
            Compiler.described).or (toolchains.get? language) := by
      rw [hnext, List.filterMap_cons]
      cases item.analyzerFor? language with
      | none => rfl
      | some compiler =>
        rw [List.getLast?_cons]
        cases (rest.filterMap (Json.analyzerFor? language)).getLast? with
        | none => rfl
        | some last => rfl
    rw [List.foldlM_cons, bind_eq_ok, List.forall_mem_cons]
    simp only [ih, addReply_eq_ok]
    constructor
    · rintro ⟨next, ⟨hitem, hnext⟩, hrest, hafter⟩
      refine ⟨⟨hitem, hrest⟩, fun language => ?_⟩
      rw [hafter, hlast next hnext]
    · rintro ⟨⟨hitem, hrest⟩, hafter⟩
      obtain ⟨next, hnext⟩ := exists_get? fun language =>
        ((item.analyzerFor? language).map Compiler.described).or (toolchains.get? language)
      refine ⟨next, ⟨hitem, hnext⟩, hrest, fun language => ?_⟩
      rw [hafter, hlast next hnext]

/-- Items that are well-formed but foreign change nothing. -/
theorem foldlM_addReply_of_foreign {foreign : List Json}
    (h : ∀ item ∈ foreign, item.IsForeignToolchain) (toolchains : Toolchains) :
    foreign.foldlM addReply toolchains = .ok toolchains := by
  rw [foldlM_addReply_eq_ok]
  refine ⟨fun item hitem => (h item hitem).wellFormed, fun language => ?_⟩
  have hnone : foreign.filterMap (Json.analyzerFor? language) = [] :=
    List.filterMap_eq_nil_iff.2 fun item hitem => (h item hitem).foreign language
  rw [hnone]
  rfl

/-- A reply is well-formed exactly if it lists items that are. -/
theorem not_isMalformedToolchains_iff : ¬ data.IsMalformedToolchains ↔
    data.kind = .object ∧ data.Lists "toolchains" (¬ ·.IsMalformedToolchain) := by
  constructor
  · intro h
    refine ⟨?_, fun value hvalue => ?_⟩
    · by_contra hkind
      exact h (.data hkind)
    · by_contra hnot
      rw [not_or, not_or] at hnot
      obtain ⟨hstring, hobject, harray⟩ := hnot
      by_cases hkind : value.kind = .array
      · cases value with
        | array items =>
          have hlisted : data.listed "toolchains" = items := by
            rw [Json.listed, hvalue]
          refine harray ⟨items, rfl, fun item hitem hmalformed => ?_⟩
          exact h (.item (hlisted ▸ hitem) hmalformed)
        | _ => cases hkind
      · exact h (.toolchains hvalue hkind hstring hobject)
  · rintro ⟨hobject, hlists⟩ hmalformed
    cases hmalformed with
    | data h => exact h hobject
    | toolchains hvalue harray hstring hempty =>
      rcases hlists _ hvalue with h | h | ⟨items, rfl, -⟩
      · exact hstring h
      · exact hempty h
      · exact harray rfl
    | item hitem h =>
      rw [Json.listed] at hitem
      split at hitem
      · rename_i items hvalue
        rcases hlists _ hvalue with h' | h' | ⟨others, h', hall⟩
        · cases h'
        · cases h'
        · cases h'
          exact hall _ hitem h
      · cases hitem

/-- The compilers that the items of a reply tell, of which there may be none. -/
def ofItems (data : Json) : Except AnalysisError Toolchains := do
  let value ← ReplyFile.check .toolchains (data.memberD "toolchains" (.array []))
  let items ← ReplyFile.check .toolchains value.items
  items.foldlM addReply {}

theorem ofReply_eq (data : Json) : ofReply data = ofItems data >>= required := by
  rw [ofReply, ofItems, bind_assoc]
  simp only [bind_assoc]

theorem ofItems_refusesMalformed (data : Json) : RefusesMalformed (ofItems data) := by
  refine (refusesMalformed_check _ _).bind fun value => ?_
  refine (refusesMalformed_check _ _).bind fun items => ?_
  exact foldlM_addReply_refusesMalformed items {}

/-- The items of a reply are read exactly if it is well-formed, and the last one that counts for a
language tells the compiler of it. -/
theorem ofItems_eq_ok : ofItems data = .ok toolchains ↔
    ¬ data.IsMalformedToolchains ∧ ∀ language,
      toolchains.get? language = (data.analyzersFor language).getLast?.map Compiler.described := by
  have hstring (s : String) : ¬ ¬ (Json.string s).IsMalformedToolchain :=
    fun h => h (.item (by simp [Json.kind]))
  have hget (language : Language) : Toolchains.get? {} language = none := by
    cases language with
    | c => rfl
    | cxx => rfl
  have hitems : ofItems data = .ok toolchains ↔ ∃ items, data.memberItems "toolchains" = .ok items ∧
      items.foldlM addReply {} = .ok toolchains := by
    rw [ofItems, Json.memberItems]
    simp only [bind_eq_ok, check_eq_ok]
    constructor
    · rintro ⟨value, hvalue, items, hitems, h⟩
      exact ⟨items, ⟨value, hvalue, hitems⟩, h⟩
    · rintro ⟨items, ⟨value, hvalue, hitems⟩, h⟩
      exact ⟨value, hvalue, items, hitems, h⟩
  rw [hitems, not_isMalformedToolchains_iff]
  simp only [foldlM_addReply_eq_ok, hget, Option.or_none]
  constructor
  · rintro ⟨items, hmember, hall, h⟩
    obtain ⟨hobject, hlists, rfl⟩ := (Json.memberItems_eq_ok hstring).1 ⟨hmember, hall⟩
    exact ⟨⟨hobject, hlists⟩, h⟩
  · rintro ⟨⟨hobject, hlists⟩, h⟩
    obtain ⟨hmember, hall⟩ := (Json.memberItems_eq_ok hstring).2 ⟨hobject, hlists, rfl⟩
    exact ⟨_, hmember, hall, h⟩

/-- The items of an array are taken as they stand. -/
theorem ofItems_of_array (h : data.find "toolchains" = some (.array items)) :
    ofItems data = items.foldlM addReply {} := by
  cases data with
  | object members =>
    have hmember : (Json.object members).memberD "toolchains" (.array []) = .ok (.array items) :=
      Json.memberD_eq_ok.2 ⟨rfl, by rw [h]; rfl⟩
    rw [ofItems, hmember]
    rfl
  | _ => cases h

/-- Items that are well-formed but foreign change nothing, wherever they stand. -/
theorem ofReply_of_foreign {before foreign after : List Json} {other : Json}
    (hforeign : ∀ item ∈ foreign, item.IsForeignToolchain)
    (hdata : data.find "toolchains" = some (.array (before ++ after)))
    (hother : other.find "toolchains" = some (.array (before ++ foreign ++ after))) :
    ofReply other = ofReply data := by
  rw [ofReply_eq, ofReply_eq, ofItems_of_array hdata, ofItems_of_array hother]
  simp only [List.foldlM_append, bind_assoc, foldlM_addReply_of_foreign hforeign]
  rfl

/-- The ways in which the toolchains reply may be resolved. -/
structure IsOutcome (data : Json) (outcome : Except AnalysisError Toolchains) : Prop where
  /-- There are compilers, or the reply is refused in one of two ways. -/
  answered : (∃ toolchains, outcome = .ok toolchains) ∨ ∃ error, outcome = .error error ∧
    (error.kind = .replyMalformed ∨ error.kind = .toolchainUnresolved)
  /-- It is refused as malformed exactly if it is. -/
  malformed : (∃ error, outcome = .error error ∧ error.kind = .replyMalformed) ↔
    data.IsMalformedToolchains
  /-- Otherwise it is refused exactly if no compiler counts. -/
  unresolved : (∃ error, outcome = .error error ∧ error.kind = .toolchainUnresolved) ↔
    ¬ data.IsMalformedToolchains ∧ ∀ language, data.analyzersFor language = []
  /-- Otherwise the last compiler that counts for a language is the one of it. -/
  resolved : ∀ toolchains, outcome = .ok toolchains ↔
    ¬ data.IsMalformedToolchains ∧ (∃ language, data.analyzersFor language ≠ []) ∧
      ∀ language, toolchains.get? language =
        (data.analyzersFor language).getLast?.map Compiler.described

/-- Compilers that are required are refused exactly if none counts. -/
theorem required_isOutcome {found : Toolchains} (h : ofItems data = .ok found) :
    IsOutcome data (required found) := by
  obtain ⟨hwellFormed, hget⟩ := ofItems_eq_ok.1 h
  have hnone (language : Language) :
      found.get? language = none ↔ data.analyzersFor language = [] := by
    rw [hget, Option.map_eq_none_iff, List.getLast?_eq_none_iff]
  rw [required]
  by_cases hempty : found.isEmpty = true
  · have hall : ∀ language, data.analyzersFor language = [] :=
      fun language => (hnone language).1 (isEmpty_iff.1 hempty language)
    rw [if_pos hempty]
    refine ⟨.inr ⟨_, rfl, .inr rfl⟩, ?_, ?_, fun toolchains => ?_⟩
    · simp [hwellFormed, AnalysisError.kind]
    · simp [hwellFormed, hall, AnalysisError.kind]
    · simp [hall]
  · have hsome : ∃ language, data.analyzersFor language ≠ [] := by
      rw [isEmpty_iff, not_forall] at hempty
      obtain ⟨language, hlanguage⟩ := hempty
      exact ⟨language, fun h => hlanguage ((hnone language).2 h)⟩
    rw [if_neg hempty]
    refine ⟨.inl ⟨_, rfl⟩, ?_, ?_, fun toolchains => ?_⟩
    · simp [hwellFormed]
    · simpa [hwellFormed] using hsome
    · rw [Except.ok.injEq]
      refine ⟨fun h => h ▸ ⟨hwellFormed, hsome, hget⟩, ?_⟩
      rintro ⟨-, -, h⟩
      exact ext_get? fun language => (hget language).trans (h language).symm

/-- How the toolchains reply is resolved. -/
structure IsResolved (data : Json) : Prop extends IsOutcome data (ofReply data) where
  /-- Foreign items that are put anywhere between the others change nothing. -/
  foreign : ∀ before foreign after (other : Json), (∀ item ∈ foreign, item.IsForeignToolchain) →
    data.find "toolchains" = some (.array (before ++ after)) →
    other.find "toolchains" = some (.array (before ++ foreign ++ after)) →
    ofReply other = ofReply data

/-- A reply that is malformed is refused as such, whatever its other items are; one in which no
compiler counts is refused for that; and any other tells the last compiler that counts for each
language. -/
theorem ofReply_isResolved (data : Json) : IsResolved data where
  foreign _ _ _ _ := ofReply_of_foreign
  toIsOutcome := by
    cases hitems : ofItems data with
    | ok found =>
      rw [ofReply_eq, hitems]
      exact required_isOutcome hitems
    | error e =>
      have hkind := ofItems_refusesMalformed data e hitems
      have hmalformed : data.IsMalformedToolchains := by
        by_contra h
        obtain ⟨found, hfound⟩ := exists_get? fun language =>
          (data.analyzersFor language).getLast?.map Compiler.described
        rw [ofItems_eq_ok.2 ⟨h, hfound⟩] at hitems
        cases hitems
      have hreply : ofReply data = .error e := by
        rw [ofReply_eq, hitems]
        rfl
      rw [hreply]
      refine ⟨.inr ⟨e, rfl, .inl hkind⟩, ?_, ?_, fun toolchains => ?_⟩
      · simp [hmalformed, hkind]
      · simp [hmalformed, hkind]
      · simp [hmalformed]

end Toolchains

end BuildAnalysis
