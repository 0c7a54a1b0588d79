import BuildAnalysis.Proofs.Toolchain.Resolved

/-!
# Compilers that the cache names

Where there is no toolchains reply the cache variables of the two languages name the compilers. When
they name those that a toolchains reply would tell, both give compilers at the same paths, or none.

* `ofCache_eq`: the compilers that the cache names.
* `NamesSamePaths.compilers`: what a toolchains reply and the cache give that name the same compilers.
-/

namespace BuildAnalysis.Toolchains

variable {toolchains : Toolchains} {cache : Cache} {language : Language} {path : String}
  {data : Json}

/-- The path that the cache variable of a language names, if it is that of a compiler that can
analyze. -/
def cachedPath? (cache : Cache) (language : Language) : Option String :=
  match cache.get? (cacheVariable language) with
  | some (.string path) => if Compiler.isAnalyzer path then some path else none
  | _ => none

theorem cachedPath?_eq_some : cachedPath? cache language = some path ↔
    cache.get? (cacheVariable language) = some (.string path) ∧
      Compiler.isAnalyzer path = true := by
  rw [cachedPath?]
  split
  · rename_i text hvalue
    rw [hvalue]
    by_cases htext : Compiler.isAnalyzer text = true
    · rw [if_pos htext]
      simp only [Option.some.injEq, Json.string.injEq]
      exact ⟨fun h => ⟨h, h ▸ htext⟩, fun h => h.1⟩
    · rw [if_neg htext]
      simp only [reduceCtorEq, Option.some.injEq, Json.string.injEq, false_iff, not_and]
      rintro rfl
      exact htext
  · rename_i hvalue
    simp only [reduceCtorEq, false_iff, not_and]
    intro h
    exact absurd h (hvalue path)

/-- Whether the cache variables of the two languages that count as true are texts. -/
def HasTexts (cache : Cache) : Prop :=
  ∀ language value, cache.get? (cacheVariable language) = some value → value.truthy = true →
    ∃ text, value = .string text

theorem cachedCompiler?_eq (h : HasTexts cache) (language : Language) :
    cachedCompiler? cache language = .ok ((cachedPath? cache language).map .ofPath) := by
  rw [cachedCompiler?, cachedPath?]
  cases hvalue : cache.get? (cacheVariable language) with
  | none => rfl
  | some value =>
    by_cases htrue : value.truthy = true
    · obtain ⟨text, rfl⟩ := h language value hvalue htrue
      simp only [htrue, Bool.not_true, Bool.false_eq_true, if_false]
      split
      · rfl
      · rfl
    · -- among the values that count as false the empty text alone is one, and it is no path
      simp only [htrue, Bool.not_false, if_true]
      cases value with
      | string text =>
        have hempty : text = "" := by simpa [Json.truthy] using htrue
        subst hempty
        rfl
      | _ => rfl

/-- The compilers at the paths that the cache variables name. -/
def cached (cache : Cache) : Toolchains where
  c := (cachedPath? cache .c).map .ofPath
  cxx := (cachedPath? cache .cxx).map .ofPath

theorem get?_cached (cache : Cache) (language : Language) :
    (cached cache).get? language = (cachedPath? cache language).map .ofPath := by
  cases language with
  | c => rfl
  | cxx => rfl

theorem ofCache_eq (h : HasTexts cache) :
    ofCache cache = (cached cache).required.mapError .analysis := by
  rw [ofCache, cachedCompiler?_eq h, cachedCompiler?_eq h]
  rfl

/-- Whether a toolchains reply and the cache name the same compilers. The reply has to be one that is
accepted, unless there is no compiler in it; and it tells a compiler for a language exactly if the
cache variable of that language is the path of it, and the path is that of a compiler that can
analyze. -/
structure NamesSamePaths (data : Json) (cache : Cache) : Prop where
  accepted : ∀ e, ofReply data = .error e → e = .compilerMissing
  texts : HasTexts cache
  agree : ∀ language path,
    (∃ toolchains compiler, ofReply data = .ok toolchains ∧
      toolchains.get? language = some compiler ∧ compiler.path = path) ↔
    cache.get? (cacheVariable language) = some (.string path) ∧ Compiler.isAnalyzer path = true

/-- The reply and the cache both tell no compiler, or they tell compilers at the same paths. -/
theorem NamesSamePaths.compilers (h : NamesSamePaths data cache) :
    (ofReply data = .error .compilerMissing ∧
        ofCache cache = .error (.analysis .compilerMissing)) ∨
      ∃ toolchains, ofReply data = .ok toolchains ∧ ofCache cache = .ok (cached cache) ∧
        ∀ language, ((cached cache).get? language).map (·.path) =
          (toolchains.get? language).map (·.path) := by
  have hagree (language : Language) (path : String) := (h.agree language path).trans
    cachedPath?_eq_some.symm
  rw [ofCache_eq h.texts, required]
  cases hreply : ofReply data with
  | error e =>
    -- the reply tells no compiler, and so the cache names none
    have hempty : (cached cache).isEmpty = true := isEmpty_iff.2 fun language => by
      rw [get?_cached, Option.map_eq_none_iff, Option.eq_none_iff_forall_ne_some]
      intro path hpath
      obtain ⟨toolchains, compiler, hok, -, -⟩ := (hagree language path).2 hpath
      rw [hreply] at hok
      cases hok
    rw [h.accepted e hreply, hempty]
    exact .inl ⟨rfl, rfl⟩
  | ok toolchains =>
    have hpaths (language : Language) : (toolchains.get? language).map (·.path) =
        cachedPath? cache language := by
      refine Option.ext fun path => ?_
      rw [Option.map_eq_some_iff, ← hagree]
      constructor
      · rintro ⟨compiler, hcompiler, hpath⟩
        exact ⟨toolchains, compiler, hreply, hcompiler, hpath⟩
      · rintro ⟨found, compiler, hok, hcompiler, hpath⟩
        rw [hreply, Except.ok.injEq] at hok
        exact ⟨compiler, hok ▸ hcompiler, hpath⟩
    -- the compiler that the reply has to tell is one that the cache names
    have hsome : (cached cache).isEmpty = false := by
      obtain ⟨language, compiler, hcompiler⟩ := (ofReply_resolved hreply).exists_compiler
      rw [Bool.eq_false_iff, Ne, isEmpty_iff]
      intro hnone
      have hpath := hpaths language
      rw [hcompiler, Option.map_some] at hpath
      have hfound := hnone language
      rw [get?_cached, ← hpath] at hfound
      cases hfound
    rw [hsome]
    refine .inr ⟨toolchains, rfl, rfl, fun language => ?_⟩
    rw [hpaths, get?_cached, Option.map_map]
    exact Option.map_id'

end BuildAnalysis.Toolchains
