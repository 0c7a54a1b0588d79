import BuildAnalysis.Proofs.Graph.Effects
import BuildAnalysis.Proofs.Graph.Loaded
import BuildAnalysis.Proofs.Host.Places

/-!
# The paths of the child process

The program that configures the project is started in the build directory, with its own path and that
of the build directory as they were given. Paths from the root mean the same there. Relative paths
were checked in the current directory, and in the build directory they may mean something else.

* `load_child`: what the child process is given, and when that is what was checked.
* `load_child_relative`: a relative build directory that the child process does not find.
-/

namespace BuildAnalysis.BuildGraph

open Host (Place FileTree)

variable {loaded : Option BuildGraph} {buildRoot program : String} {cmake : Option String}
  {host : Host} {child : Host.Invocation}

/-- What a child process is given that configures a project: the program that was found, and the build
directory, in which it is started. Both were looked for in the current directory. Followed from the
directory of the child process, the build directory is the same if it begins at the root, or goes down
as many names as it goes up, or does not leave the root; and the program, if its path has a slash, is
the same if it begins at the root, or goes up so far that the two directories do not differ any more.
A path without a slash, which a search path with an empty name leads to, is not followed by the child
process: it is a name that is looked for on the search path again. -/
structure IsRunOn (host : Host) (buildRoot program : String) (child : Host.Invocation) : Prop where
  command : child.command = .words [program, buildRoot]
  directory : child.directory = host.absolute buildRoot
  checkedRoot : host.files.locate host.place buildRoot =
    .ok (Place.ofPath (host.absolute buildRoot))
  checkedProgram : host.files.locate host.place program = .ok (Place.ofPath (host.absolute program))
  sameRoot : Path.absolute child.directory buildRoot = host.absolute buildRoot ↔
    Path.isAbsolute buildRoot = true ∨
      (Path.plainNames buildRoot).length = Path.ups buildRoot ∨
      ((Path.plainNames buildRoot).length ≤ Path.ups buildRoot ∧
        (Path.normalNames host.directory).length ≤ Path.ups buildRoot)
  sameProgram : '/' ∈ program.toList →
    (Path.absolute child.directory program = host.absolute program ↔
      Path.isAbsolute program = true ∨ (Path.root child.directory = Path.root host.directory ∧
        (Path.normalNames child.directory).rdrop (Path.ups program) =
          (Path.normalNames host.directory).rdrop (Path.ups program)))

/-- A path that leads somewhere leads to the place of the path that begins at the root. -/
theorem locate_eq_of_ok {path : String} {place : Place} (hdirectory : Path.IsNormal host.directory)
    (h : host.files.locate host.place path = .ok place) :
    host.files.locate host.place path = .ok (Place.ofPath (host.absolute path)) := by
  rw [h, Host.absolute_eq, Host.place_of_locate hdirectory h]

theorem configuration_isRunOn (hdirectory : Path.IsNormal host.directory)
    (hpermitted : Permitted loaded buildRoot cmake host program) :
    IsRunOn host buildRoot program (configuration program buildRoot host) := by
  have hchild : (configuration program buildRoot host).directory = host.absolute buildRoot := by
    simp only [configuration]
  have hnormal := Path.isNormal_absolute hdirectory.isAbsolute buildRoot
  obtain ⟨base, hroot, -⟩ := hpermitted.located
  obtain ⟨place, hprogram⟩ := Host.exists_locate_of_which hpermitted.which
  exact
    { command := rfl
      directory := hchild
      checkedRoot := locate_eq_of_ok hdirectory hroot
      checkedProgram := locate_eq_of_ok hdirectory hprogram
      sameRoot := by
        rw [hchild, Host.absolute_eq]
        exact Path.absolute_absolute_eq_iff hdirectory.isAbsolute
      sameProgram := by
        intro _
        rw [hchild, Host.absolute_eq, Host.absolute_eq]
        exact Path.absolute_eq_iff hnormal.isAbsolute hdirectory.isAbsolute }

/-- The child process that loading starts is given the program and the build directory that were
checked, and it is told when they are still the same in its own directory. -/
theorem load_child (hdirectory : Path.IsNormal host.directory)
    (h : ((load loaded buildRoot cmake).on host).2.started = host.started ++ [child]) :
    ∃ program, host.which (programName cmake) = some program ∧
      IsRunOn host buildRoot program child := by
  have hstarted : ((load loaded buildRoot cmake).on host).2.started ≠ host.started := by
    rw [h]
    simp
  obtain ⟨hrefused, hbegun⟩ := load_effect loaded buildRoot cmake host
  by_cases hpermitted : ∃ program, Permitted loaded buildRoot cmake host program
  · obtain ⟨program, hpermitted⟩ := hpermitted
    obtain ⟨base, files, -, hfails, hruns⟩ := hbegun program hpermitted
    cases hwrite : ((writeQuery (Path.join buildRoot apiDirectory)).on host).1 with
    | error failure =>
      rw [hfails failure hwrite] at hstarted
      exact absurd rfl hstarted
    | ok u =>
      obtain ⟨-, hchild⟩ := hruns hwrite
      rw [h, List.append_cancel_left_eq, List.singleton_inj] at hchild
      rw [hchild]
      exact ⟨program, hpermitted.which, configuration_isRunOn hdirectory hpermitted⟩
  · obtain ⟨failure, hload⟩ := hrefused fun program hp => hpermitted ⟨program, hp⟩
    rw [hload] at hstarted
    exact absurd rfl hstarted

/-- The child process of the sample, when the build directory is given by a relative path. -/
theorem exists_child_sample : ∃ child : Host.Invocation,
    ((load none "b" none).on sampleHost).2.started = sampleHost.started ++ [child] ∧
      child.command = .words ["/bin/cmake", "b"] ∧ child.directory = "/b" := by
  have hpermit : (permit none "b" none sampleHost).toOption = some "/bin/cmake" := by decide +kernel
  have hwrite : ((writeQuery (Path.join "b" apiDirectory)).on sampleHost).1.toOption = some () := by
    decide +kernel
  have hpermitted := permit_eq_ok.1 (toOption_eq_some.1 hpermit)
  obtain ⟨base, files, -, -, hruns⟩ := (load_effect none "b" none sampleHost).2 _ hpermitted
  exact ⟨_, (hruns (toOption_eq_some.1 hwrite)).2, rfl, by decide⟩

theorem load_child_sample : Path.IsNormal sampleHost.directory ∧ ∃ child : Host.Invocation,
    ((load none "b" none).on sampleHost).2.started = sampleHost.started ++ [child] ∧
      ∃ program, sampleHost.which (programName none) = some program ∧
        IsRunOn sampleHost "b" program child := by
  obtain ⟨child, hstarted, -, -⟩ := exists_child_sample
  exact ⟨Path.isNormal_root, child, hstarted, load_child Path.isNormal_root hstarted⟩

/-- A relative build directory is checked, and the child process is started in it; but there the path
that the child process is given means a directory below it. -/
theorem load_child_relative : ∃ child : Host.Invocation,
    ((load none "b" none).on sampleHost).2.started = sampleHost.started ++ [child] ∧
      child.command = .words ["/bin/cmake", "b"] ∧ child.directory = "/b" ∧
      sampleHost.absolute "b" = "/b" ∧ Path.absolute child.directory "b" = "/b/b" := by
  obtain ⟨child, hstarted, hcommand, hdirectory⟩ := exists_child_sample
  refine ⟨child, hstarted, hcommand, hdirectory, by decide, ?_⟩
  rw [hdirectory]
  decide

end BuildAnalysis.BuildGraph
