import BuildAnalysis.Proofs.Json.Questions
import BuildAnalysis.Toolchain.Resolution

/-!
# Resolved compilers

However the compilers of a project are found, there is at least one of them, and each has a path.

* `ofReply_resolved`, `ofCache_resolved`: the compilers that are found.
-/

namespace BuildAnalysis.Toolchains

variable {toolchains after : Toolchains}

/-- Whether every compiler that there is has a path. -/
def HavePaths (toolchains : Toolchains) : Prop :=
  ∀ language compiler, toolchains.get? language = some compiler → compiler.path ≠ ""

/-- Whether there is a compiler, and every compiler has a path. -/
structure Resolved (toolchains : Toolchains) : Prop where
  exists_compiler : ∃ language compiler, toolchains.get? language = some compiler
  path_ne : toolchains.HavePaths

theorem havePaths_empty : HavePaths {} := by
  intro language compiler h
  cases language with
  | c => cases h
  | cxx => cases h

theorem get?_set (toolchains : Toolchains) (language other : Language) (compiler : Compiler) :
    (toolchains.set language compiler).get? other =
      if other = language then some compiler else toolchains.get? other := by
  cases language with
  | c =>
    cases other with
    | c => rfl
    | cxx => rfl
  | cxx =>
    cases other with
    | c => rfl
    | cxx => rfl

/-- There is no compiler if no language has one. -/
theorem isEmpty_iff : toolchains.isEmpty = true ↔ ∀ language, toolchains.get? language = none := by
  rw [isEmpty, Bool.and_eq_true, Option.isNone_iff_eq_none, Option.isNone_iff_eq_none]
  constructor
  · rintro ⟨hc, hcxx⟩ language
    cases language with
    | c => exact hc
    | cxx => exact hcxx
  · intro h
    exact ⟨h .c, h .cxx⟩

theorem HavePaths.set (h : toolchains.HavePaths) {language : Language} {compiler : Compiler}
    (hpath : compiler.path ≠ "") : (toolchains.set language compiler).HavePaths := by
  intro other found hfound
  rw [get?_set] at hfound
  split at hfound
  · cases hfound
    exact hpath
  · exact h other found hfound

/-- Compilers that are required are there. -/
theorem required_eq_ok :
    toolchains.required = .ok after ↔ toolchains = after ∧ toolchains.isEmpty = false := by
  rw [required]
  cases toolchains.isEmpty with
  | true => simp
  | false => simp

theorem resolved_of_required (h : toolchains.required = .ok after)
    (hpaths : toolchains.HavePaths) : after.Resolved := by
  obtain ⟨rfl, hempty⟩ := required_eq_ok.1 h
  refine ⟨?_, hpaths⟩
  cases hc : toolchains.c with
  | some compiler => exact ⟨.c, compiler, hc⟩
  | none =>
    cases hcxx : toolchains.cxx with
    | some compiler => exact ⟨.cxx, compiler, hcxx⟩
    | none => simp [isEmpty, hc, hcxx] at hempty

/-! ## The toolchains reply -/

/-- A compiler that a reply describes has a path. -/
theorem path_of_reply {language : Language} {reply : Json} {compiler : Compiler}
    (h : Compiler.ofReply? language reply = .ok (some compiler)) : compiler.path ≠ "" := by
  rw [Compiler.ofReply?] at h
  obtain ⟨id, -, h⟩ := bind_eq_ok.1 h
  split at h
  · split at h
    · cases h
    · obtain ⟨value, -, h⟩ := bind_eq_ok.1 h
      simp only at h
      split at h
      · cases h
      · rename_i path hpath
        obtain ⟨found, hfound, h⟩ := bind_eq_ok.1 h
        cases hfound
        obtain ⟨version, -, h⟩ := bind_eq_ok.1 h
        obtain ⟨includes, -, h⟩ := bind_eq_ok.1 h
        obtain ⟨items, -, h⟩ := bind_eq_ok.1 h
        cases h
        -- the case of an empty path stands before this one
        rintro rfl
        exact hpath rfl
      · cases h
  · cases h

theorem HavePaths.addReply {item : Json} (h : toolchains.HavePaths)
    (hadd : toolchains.addReply item = .ok after) : after.HavePaths := by
  rw [Toolchains.addReply] at hadd
  obtain ⟨name, -, hadd⟩ := bind_eq_ok.1 hadd
  obtain ⟨reply, -, hadd⟩ := bind_eq_ok.1 hadd
  split at hadd
  · cases hadd
    exact h
  · obtain ⟨found, hfound, hadd⟩ := bind_eq_ok.1 hadd
    cases found with
    | none =>
      cases hadd
      exact h
    | some compiler =>
      cases hadd
      exact h.set (path_of_reply hfound)

theorem HavePaths.foldlM_addReply {items : List Json} (h : toolchains.HavePaths)
    (hfold : items.foldlM Toolchains.addReply toolchains = .ok after) : after.HavePaths := by
  induction items generalizing toolchains with
  | nil =>
    cases hfold
    exact h
  | cons item rest ih =>
    rw [List.foldlM_cons] at hfold
    obtain ⟨next, hnext, hrest⟩ := bind_eq_ok.1 hfold
    exact ih (h.addReply hnext) hrest

theorem ofReply_resolved {data : Json} (h : ofReply data = .ok toolchains) :
    toolchains.Resolved := by
  rw [ofReply] at h
  obtain ⟨value, -, h⟩ := bind_eq_ok.1 h
  obtain ⟨items, -, h⟩ := bind_eq_ok.1 h
  obtain ⟨found, hfound, hrequired⟩ := bind_eq_ok.1 h
  exact resolved_of_required hrequired (havePaths_empty.foldlM_addReply hfound)

/-! ## The cache -/

/-- A compiler that the cache names has that name as its path. -/
theorem path_of_cache {cache : Cache} {language : Language} {compiler : Compiler}
    (h : cachedCompiler? cache language = .ok (some compiler)) : compiler.path ≠ "" := by
  rw [cachedCompiler?] at h
  split at h
  · cases h
  · split at h
    · cases h
    · rename_i htrue
      split at h
      · split at h
        · cases h
          rintro rfl
          exact htrue rfl
        · cases h
      · cases h

theorem ofCache_resolved {cache : Cache} (h : ofCache cache = .ok toolchains) :
    toolchains.Resolved := by
  rw [ofCache] at h
  obtain ⟨c, hc, h⟩ := bind_eq_ok.1 h
  obtain ⟨cxx, hcxx, hrequired⟩ := bind_eq_ok.1 h
  refine resolved_of_required (mapError_eq_ok.1 hrequired) fun language compiler hcompiler => ?_
  cases language with
  | c =>
    subst hcompiler
    exact path_of_cache (mapError_eq_ok.1 hc)
  | cxx =>
    subst hcompiler
    exact path_of_cache (mapError_eq_ok.1 hcxx)

end BuildAnalysis.Toolchains
