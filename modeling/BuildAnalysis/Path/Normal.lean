import BuildAnalysis.Path.Basic

/-!
# Normal paths

A normal path begins with one slash or with two, and its other names are plain: none is empty, none
is `.` and none is `..`.
-/

namespace BuildAnalysis.Path

/-- A name that leads one directory down. -/
def IsPlainName (name : String) : Prop :=
  name ≠ "" ∧ name ≠ "." ∧ name ≠ ".."

instance (name : String) : Decidable (IsPlainName name) :=
  inferInstanceAs (Decidable (_ ∧ _))

/-- A path from the root that no step of normalizing changes. -/
def IsNormal (p : String) : Prop :=
  ∃ slashes ∈ ["/", "//"], ∃ plain : List String,
    (∀ name ∈ plain, IsPlainName name ∧ '/' ∉ name.toList) ∧ p = slashes ++ ofNames plain

theorem isNormal_root : IsNormal "/" :=
  ⟨"/", by simp, [], by simp, rfl⟩

end BuildAnalysis.Path
