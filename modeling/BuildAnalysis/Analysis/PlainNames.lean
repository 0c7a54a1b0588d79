import BuildAnalysis.Analysis.ReportNames

/-!
# Names of the reports without memory

The plain way to name the reports knows only which names are used: each source gets its first name
that is free, counted from the one without a number.
-/

namespace BuildAnalysis.Analysis.ReportNames

/-- Whether `n` is the first number with which a name is free. -/
def IsFirstFree (used : List String) (name : String) (n : Nat) : Prop :=
  Text.lower (numbered name n) ∉ used ∧ ∀ m < n, Text.lower (numbered name m) ∈ used

/-- Whether sources get reports in the plain way, when the names in `used`, in lower case, are
taken. -/
def PlainlyNamed (used : List String) : List String → List String → Prop
  | [], [] => True
  | source :: sources, report :: reports =>
    (∃ n, report = numbered (Path.basename source) n ∧
        IsFirstFree used (Path.basename source) n) ∧
      PlainlyNamed (Text.lower report :: used) sources reports
  | _, _ => False

theorem IsFirstFree.unique {used : List String} {name : String} {m n : Nat}
    (hm : IsFirstFree used name m) (hn : IsFirstFree used name n) : m = n := by
  rcases Nat.lt_trichotomy m n with h | h | h
  · exact absurd (hn.2 m h) hm.1
  · exact h
  · exact absurd (hm.2 n h) hn.1

end BuildAnalysis.Analysis.ReportNames
