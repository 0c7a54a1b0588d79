import BuildAnalysis.Proofs.Path.Relative

/-!
# Resolved paths

A path that is given and not empty is resolved to a normal one, which stays as it is wherever it is
resolved again.

* `resolve?_eq_none_iff`: which paths are taken as not given.
* `isResolved_of_resolve?`: what a path is resolved to.
* `resolve?_of_isAbsolute`: what the workspace does not matter to.
-/

namespace BuildAnalysis.Path

variable {p resolved workspace : String} {given : Option String}

/-- Whether a path is normal and is resolved to itself in every workspace. -/
structure IsResolved (p : String) : Prop where
  isNormal : IsNormal p
  fixed : ∀ workspace, resolve? (some p) workspace = some p

theorem resolve?_of_ne (hne : p ≠ "") (workspace : String) :
    resolve? (some p) workspace = some (Path.absolute workspace p) := by
  have hempty : ¬ p.isEmpty = true := by simpa using hne
  rw [resolve?, if_neg hempty]
  rfl

/-- A path is taken as not given exactly if it is empty. -/
theorem resolve?_eq_none_iff : resolve? (some p) workspace = none ↔ p = "" := by
  constructor
  · intro h
    by_contra hne
    rw [resolve?_of_ne hne] at h
    cases h
  · rintro rfl
    rfl

/-- A normal path is the same from every directory. -/
theorem IsNormal.absolute_eq (h : IsNormal p) (directory : String) :
    Path.absolute directory p = p := by
  rw [Path.absolute, join_of_isAbsolute directory h.isAbsolute, h.normalize_eq]

theorem IsNormal.isResolved (h : IsNormal p) : IsResolved p := by
  have hne : p ≠ "" := by
    rintro rfl
    cases h.isAbsolute
  refine ⟨h, fun workspace => ?_⟩
  rw [resolve?_of_ne hne, h.absolute_eq]

/-- What is resolved in a workspace that begins at the root needs not be resolved again. -/
theorem isResolved_of_resolve? (hworkspace : isAbsolute workspace = true)
    (h : resolve? given workspace = some resolved) : IsResolved resolved := by
  cases given with
  | none => cases h
  | some p =>
    have hne : p ≠ "" := by
      rintro rfl
      cases h
    rw [resolve?_of_ne hne, Option.some.injEq] at h
    subst h
    exact (isNormal_absolute hworkspace p).isResolved

/-- The workspace does not matter to a path that begins at the root. -/
theorem resolve?_of_isAbsolute (h : isAbsolute p = true) (workspace other : String) :
    resolve? (some p) workspace = resolve? (some p) other := by
  have hne : p ≠ "" := by
    rintro rfl
    cases h
  rw [resolve?_of_ne hne, resolve?_of_ne hne, Path.absolute, Path.absolute,
    join_of_isAbsolute workspace h, join_of_isAbsolute other h]

end BuildAnalysis.Path
