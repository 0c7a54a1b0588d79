import BuildAnalysis.Host.Basic
import BuildAnalysis.Proofs.Host.Walking
import BuildAnalysis.Proofs.Path.Relative

/-!
# Where paths lead

No name of the file system leads anywhere but one directory down or up, so that a path that leads
somewhere leads to the place of its normal form.

* `place_of_isNormal`: the place of a normal path.
* `place_of_locate`: a path leads to the place of its normal form, from the current directory.
-/

namespace BuildAnalysis

namespace Host

open BuildAnalysis.Path (IsPlainName names normalNames normalize isAbsolute push)

variable {p path directory name : String} {place next last : Place}

theorem absolute_eq (host : Host) (path : String) :
    host.absolute path = Path.absolute host.directory path := rfl

/-- The place of a normal path lists its names. -/
theorem place_of_isNormal (h : Path.IsNormal p) : Place.ofPath p = normalNames p := by
  obtain ⟨slashes, hslashes, plain, hplain, rfl⟩ := h
  have hnames : (names (Path.ofNames plain)).filter (· != "") = plain := by
    by_cases hne : plain = []
    · subst hne
      rfl
    · rw [Path.names_ofNames hne fun name hname => (hplain name hname).2]
      exact List.filter_eq_self.2 fun name hname => bne_iff_ne.2 (hplain name hname).1.1
  rw [(Path.isBuilt_append hslashes hplain).normalNames, Place.ofPath]
  obtain ⟨n, hslashed⟩ := Path.exists_names_append hslashes (Path.ofNames plain)
  rw [hslashed, List.filter_append, hnames, List.filter_eq_nil_iff.2 (by simp), List.nil_append]

/-- The place of the normal form of a path from the root lists the names that remain. -/
theorem place_normalize (h : isAbsolute p = true) : Place.ofPath (normalize p) = normalNames p := by
  rw [place_of_isNormal (Path.isNormal_normalize h), (Path.isBuilt_normalize h).normalNames]

/-- A name leads to where it does in a path from the root. -/
theorem descend_eq_push (hplace : ∀ name ∈ place, IsPlainName name)
    (h : FileTree.descend place name = some next) :
    next.reverse = push true place.reverse name ∧ ∀ name ∈ next, IsPlainName name := by
  rw [FileTree.descend] at h
  split at h
  · rename_i hskip
    cases h
    refine ⟨?_, hplace⟩
    unfold push
    rw [if_pos hskip]
  · rename_i hskip
    split at h
    · rename_i hup
      obtain rfl : name = ".." := by simpa using hup
      cases h
      refine ⟨?_, fun name hname => hplace name (List.dropLast_subset place hname)⟩
      rcases List.eq_nil_or_concat place with rfl | ⟨above, last, rfl⟩
      · rfl
      · have hlast : IsPlainName last := hplace last (by simp)
        rw [List.concat_eq_append, List.dropLast_concat, List.reverse_append,
          List.reverse_singleton, List.singleton_append, Path.push_up_plain _ _ hlast]
    · rename_i hup
      split at h
      · cases h
      · cases h
        have hname : IsPlainName name := by
          obtain ⟨hempty, hdot⟩ := not_or.1 (by simpa using hskip)
          exact ⟨hempty, hdot, by simpa using hup⟩
        rw [Path.push_plain _ _ hname, List.reverse_append, List.reverse_singleton]
        refine ⟨rfl, fun other hother => ?_⟩
        rcases List.mem_append.1 hother with hother | hother
        · exact hplace other hother
        · rwa [List.mem_singleton.1 hother]

/-- Names lead to the place that they keep when they are pushed. -/
theorem FileTree.Reaches.eq_foldl_push {tree : FileTree} {ns : List String}
    (h : FileTree.Reaches tree place ns last) (hplace : ∀ name ∈ place, IsPlainName name) :
    last.reverse = ns.foldl (push true) place.reverse := by
  induction h with
  | nil => rfl
  | cons _ hname _ ih =>
    obtain ⟨hpush, hplain⟩ := descend_eq_push hplace hname
    rw [ih hplain, hpush, List.foldl_cons]

/-- The names of a path from the root lead to those that remain of it. -/
theorem FileTree.Reaches.eq_normalNames {tree : FileTree}
    (h : FileTree.Reaches tree [] (names p) last) (hp : isAbsolute p = true) :
    last = normalNames p := by
  rw [← List.reverse_inj, h.eq_foldl_push (List.forall_mem_nil _), ← Path.foldl_push_absolute hp]
  rfl

/-- A path that leads somewhere leads to the place of its normal form. -/
theorem place_of_locate {tree : FileTree} (hdirectory : Path.IsNormal directory)
    (h : tree.locate (Place.ofPath directory) path = .ok place) :
    place = Place.ofPath (Path.absolute directory path) := by
  obtain ⟨-, hreach, -⟩ := FileTree.locate_eq_ok.1 h
  have habsolute := hdirectory.isAbsolute
  rw [Path.absolute, place_normalize (Path.isAbsolute_join_of_base habsolute path)]
  cases hpath : isAbsolute path with
  | true =>
    rw [FileTree.start, if_pos hpath] at hreach
    rw [Path.join_of_isAbsolute directory hpath, hreach.eq_normalNames hpath]
  | false =>
    have hplain := Path.isPlainName_of_mem_normalNames habsolute
    have hstack : ∀ name ∈ (normalNames directory).reverse, IsPlainName name := fun name hname =>
      hplain name (List.mem_reverse.1 hname)
    rw [FileTree.start, hpath, if_neg (by decide), place_of_isNormal hdirectory] at hreach
    rw [← List.reverse_inj, Path.normalNames_join habsolute hpath, hreach.eq_foldl_push hplain,
      Path.foldl_push_names hstack hpath, List.reverse_append, List.rdrop_eq_reverse_drop_reverse,
      List.reverse_reverse]

end Host

end BuildAnalysis
