import BuildAnalysis.Proofs.Graph.Replies
import BuildAnalysis.Proofs.Version.Writing

/-!
# The version gate

Replies count if the version that their index tells is not less than the oldest one that writes them.
That is a matter of its numbers: how they are written does not matter, and with greater numbers a
version that is accepted stays so.

* `checkVersion_of_isWritten`: which indexes are refused.
* `isGauged`: how a version is read and compared with another one.
-/

namespace BuildAnalysis.BuildGraph

open Version (IsWritten)

variable {version minimum : Version} {text least : String}

theorem isWritten_minimumVersion : IsWritten [3, 13, 7] minimumVersion :=
  ⟨[['3'], ['1', '3'], ['7']], [],
    .cons ⟨['3'], [], by decide⟩ (.cons ⟨['1', '3'], [], by decide⟩
      (.cons ⟨['7'], [], by decide⟩ .nil)), rfl, .inl rfl⟩

/-- An index is refused exactly if its version is less than the oldest one. -/
theorem checkVersion_of_isWritten {index : Json} (hne : version ≠ [])
    (hwritten : IsWritten version text) (hindex : Reply.TellsVersion index text) :
    checkVersion index =
      if [3, 13, 7] ≤ version then .ok ()
      else .error (.analysis (.unsupportedVersion text minimumVersion)) := by
  have hleast : Version.atLeast text minimumVersion = .ok (decide ([3, 13, 7] ≤ version)) :=
    Version.atLeast_of_isWritten hne (List.cons_ne_nil _ _) hwritten isWritten_minimumVersion
  have hgate : checkVersion index =
      (do if ← Version.atLeast text minimumVersion then return
          throw (.analysis (.unsupportedVersion text minimumVersion))) := by
    rw [checkVersion, Reply.version_eq_ok.2 hindex, mapError_ok]
    rfl
  rw [hgate, hleast]
  by_cases hold : [3, 13, 7] ≤ version
  · rw [decide_eq_true hold, if_pos hold]
    rfl
  · rw [decide_eq_false hold, if_neg hold]
    rfl

/-- How a text that writes a version is read, and compared with one that writes another version: the
numbers are those that were written, and the first version is accepted if it is not less. It does not
matter how the versions are written; a version that is accepted stays so when its numbers grow, or when
those of the other one shrink; and so it is for the index of replies. -/
structure IsGauged (version minimum : Version) (text least : String) : Prop where
  parse : Version.parse text = .ok version
  atLeast : Version.atLeast text least = .ok (decide (minimum ≤ version))
  spelling : ∀ other otherLeast, IsWritten version other → IsWritten minimum otherLeast →
    Version.atLeast other otherLeast = Version.atLeast text least
  newer : ∀ newer other, List.Forall₂ (· ≤ ·) version newer → IsWritten newer other →
    Version.atLeast text least = .ok true → Version.atLeast other least = .ok true
  older : ∀ older other, List.Forall₂ (· ≤ ·) older minimum → IsWritten older other →
    Version.atLeast text least = .ok true → Version.atLeast text other = .ok true
  gate : ∀ index, Reply.TellsVersion index text → checkVersion index =
    if [3, 13, 7] ≤ version then .ok ()
    else .error (.analysis (.unsupportedVersion text minimumVersion))

/-- Versions are read back from every way to write them, and compared by their numbers. -/
theorem isGauged (hversion : version ≠ []) (hminimum : minimum ≠ [])
    (htext : IsWritten version text) (hleast : IsWritten minimum least) :
    IsGauged version minimum text least := by
  have hatLeast := Version.atLeast_of_isWritten hversion hminimum htext hleast
  have hle (h : Version.atLeast text least = .ok true) : minimum ≤ version := by
    rw [hatLeast, Except.ok.injEq] at h
    exact of_decide_eq_true h
  exact
    { parse := Version.parse_of_isWritten hversion htext
      atLeast := hatLeast
      spelling := fun other otherLeast hother hotherLeast => by
        rw [hatLeast, Version.atLeast_of_isWritten hversion hminimum hother hotherLeast]
      newer := fun newer other hnewer hother h => by
        have hne : newer ≠ [] := by
          rintro rfl
          exact hversion (List.forall₂_nil_right_iff.1 hnewer)
        rw [Version.atLeast_of_isWritten hne hminimum hother hleast,
          decide_eq_true ((hle h).trans (Version.le_of_forall₂ hnewer))]
      older := fun older other holder hother h => by
        have hne : older ≠ [] := by
          rintro rfl
          exact hminimum (List.forall₂_nil_left_iff.1 holder)
        rw [Version.atLeast_of_isWritten hversion hne htext hother,
          decide_eq_true ((Version.le_of_forall₂ holder).trans (hle h))]
      gate := fun index hindex => checkVersion_of_isWritten hversion htext hindex }

theorem isGauged_sample :
    IsWritten [3, 20, 7] "03.020-rc1.7g2.+local.1" ∧ IsWritten [3, 13] "3.13." ∧
      IsGauged [3, 20, 7] [3, 13] "03.020-rc1.7g2.+local.1" "3.13." := by
  have htext : IsWritten [3, 20, 7] "03.020-rc1.7g2.+local.1" :=
    ⟨["03".toList, "020-rc1".toList, "7g2".toList], ".+local.1".toList,
      .cons ⟨"03".toList, [], by decide⟩ (.cons ⟨"020".toList, "-rc1".toList, by decide⟩
        (.cons ⟨"7".toList, "g2".toList, by decide⟩ .nil)), by decide,
      .inr ⟨"+local.1".toList, by decide, by decide⟩⟩
  have hleast : IsWritten [3, 13] "3.13." :=
    ⟨["3".toList, "13".toList], ['.'],
      .cons ⟨"3".toList, [], by decide⟩ (.cons ⟨"13".toList, [], by decide⟩ .nil), by decide,
      .inr ⟨[], by decide, by decide⟩⟩
  exact ⟨htext, hleast, isGauged (List.cons_ne_nil _ _) (List.cons_ne_nil _ _) htext hleast⟩

end BuildAnalysis.BuildGraph
