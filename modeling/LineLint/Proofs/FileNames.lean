import LineLint.Proofs.Runs

/-!
# What the name of a file tells

A file below the root of a project is reported by its path from there with all links resolved, and
any other file by the path that it was reached by. Main statement: `Project.tells_files`, in a tree
without loops of links the name tells which file it is, and the name of a file below the root is
read back as that name.
-/

namespace LineLint

variable {t : FileTree} {p : Project} {path other : Path} {location : Location}
  {names : List String} {id : String}

namespace Project

/-! ## Names inside and outside -/

theorem fileId_of_inside (hresolve : t.resolve [] path = .ok (p.root ++ names)) :
    p.fileId t path = .ok (Path.mk .relative names).toString := by
  have hrelative : (Path.absolute (p.root ++ names)).relativeTo? p.rootPath =
      some ⟨.relative, names⟩ := by
    simp [Path.relativeTo?, Path.absolute, rootPath]
  rw [fileId, hresolve]
  simp only
  rw [hrelative, Option.getD_some]

theorem fileId_of_outside (hresolve : t.resolve [] path = .ok location)
    (hout : ¬p.root <+: location) : p.fileId t path = .ok path.toString := by
  have hrelative : (Path.absolute location).relativeTo? p.rootPath = none := by
    simp [Path.relativeTo?, Path.absolute, rootPath, hout]
  rw [fileId, hresolve]
  simp only
  rw [hrelative, Option.getD_none]

/-- A name that stands for an absolute path is that path, seen from anywhere. -/
theorem join_of_isAbsolute (hplain : path.IsPlain) (habsolute : path.isAbsolute = true) :
    p.rootPath.join (.parse path.toString) = path := by
  rw [Path.parse_toString hplain, Path.join, if_pos habsolute]

theorem join_of_relative (hreal : Location.IsReal names) :
    p.rootPath.join (.parse (Path.mk .relative names).toString) = .absolute (p.root ++ names) := by
  rw [Path.parse_toString (p := ⟨.relative, names⟩) hreal.plainNames]
  rfl

/-- A target of a run, once it is seen from the root. -/
structure IsTarget (path : Path) : Prop where
  plain : path.IsPlain
  absolute : path.isAbsolute = true

/-- How the name under which a file is reported tells which file it is. -/
structure TellsFiles (p : Project) (t : FileTree) : Prop where
  /-- Every absolute path has a name, which stands for the same location, seen from the root. -/
  joined : ∀ path, IsTarget path → ∃ id, p.fileId t path = .ok id ∧
    t.resolve [] (p.rootPath.join (.parse id)) = t.resolve [] path
  /-- That is a location unless the path is none. -/
  resolved : ∀ path, IsTarget path → (∀ name ∈ path.parts, Char.ofNat 0 ∉ name.toList) →
    ∃ location, t.resolve [] path = .ok location
  /-- Paths of one name are resolved to one location and lead to one place. -/
  same : ∀ path other id, IsTarget path → IsTarget other →
    p.fileId t path = .ok id → p.fileId t other = .ok id →
      t.resolve [] path = t.resolve [] other ∧
      ∀ place place', t.locate [] path = .ok place → t.locate [] other = .ok place' → place = place'
  /-- What is resolved to a location below the root has a relative name, whose components are names
  of entries and no double dots, and which is its own name. -/
  inside : ∀ path names, IsTarget path → t.resolve [] path = .ok (p.root ++ names) →
    ∃ id, p.fileId t path = .ok id ∧ Path.parse id = ⟨.relative, names⟩ ∧ ".." ∉ names ∧
      p.fileId t (p.rootPath.join (.parse id)) = .ok id

theorem isReal_below (h : t.Sound) (hpath : IsTarget path)
    (hresolve : t.resolve [] path = .ok (p.root ++ names)) : Location.IsReal names := by
  have hreal := FileTree.isReal_of_resolve h Location.isReal_nil hpath.plain hresolve
  intro name hname
  exact hreal name (List.mem_append_right _ hname)

section

variable (h : t.Sound) (hloop : t.LoopFree)

include h hloop

/-- What a path is resolved to is resolved to itself. -/
theorem resolve_again (hpath : IsTarget path) (hresolve : t.resolve [] path = .ok location) :
    t.resolve [] (.absolute location) = .ok location := by
  have hnull : ∀ name ∈ path.parts, Char.ofNat 0 ∉ name.toList := by
    intro name hname hnull
    cases hresolve.symm.trans (hloop.resolve_of_null h hname hnull)
  obtain ⟨n, there, hresolves⟩ := hloop.exists_resolves h hnull (FileTree.start [] path)
  cases hresolve.symm.trans (FileTree.resolve_of_resolves hresolves)
  have hdirect := hresolves.isDirect (FileTree.isDirect_start FileTree.isDirect_nil path)
  exact hdirect.resolve_eq
    (FileTree.isReal_of_resolve h Location.isReal_nil hpath.plain hresolve) []

/-- Seen from the root, the name of a file stands for the location that its path stands for. -/
theorem resolve_join_fileId (hpath : IsTarget path) : ∃ id, p.fileId t path = .ok id ∧
    t.resolve [] (p.rootPath.join (.parse id)) = t.resolve [] path := by
  have hstays := join_of_isAbsolute (p := p) hpath.plain hpath.absolute
  by_cases hnull : ∃ name ∈ path.parts, Char.ofNat 0 ∈ name.toList
  · -- what is no path keeps its own text as its name
    obtain ⟨name, hname, hnull⟩ := hnull
    refine ⟨path.toString, ?_, by rw [hstays]⟩
    rw [fileId, hloop.resolve_of_null h hname hnull]
  · obtain ⟨location, hresolve⟩ := hloop.exists_resolve h (p := path) (by simpa using hnull) []
    by_cases hunder : p.root <+: location
    · obtain ⟨names, rfl⟩ := hunder
      refine ⟨_, fileId_of_inside hresolve, ?_⟩
      rw [join_of_relative (isReal_below h hpath hresolve), resolve_again h hloop hpath hresolve,
        hresolve]
    · exact ⟨_, fileId_of_outside hresolve hunder, by rw [hstays]⟩

/-- The name of a file below the root is its own name. -/
theorem fileId_join_of_inside (hpath : IsTarget path)
    (hresolve : t.resolve [] path = .ok (p.root ++ names)) :
    p.fileId t (p.rootPath.join (.parse (Path.mk .relative names).toString)) =
      .ok (Path.mk .relative names).toString := by
  rw [join_of_relative (isReal_below h hpath hresolve)]
  exact fileId_of_inside (resolve_again h hloop hpath hresolve)

end

theorem place_of_resolve (h : t.Sound) (hpath : IsTarget path) (hother : IsTarget other)
    (hsame : t.resolve [] path = t.resolve [] other) {place place' : Place}
    (hplace : t.locate [] path = .ok place) (hplace' : t.locate [] other = .ok place') :
    place = place' := by
  rw [FileTree.resolve_of_locate h hpath.plain hplace,
    FileTree.resolve_of_locate h hother.plain hplace', Except.ok.injEq] at hsame
  exact FileTree.place_of_location hplace hplace' hsame

/-- In a tree without loops of links names tell which files they are, wherever the root is. -/
theorem tells_files {root : Path} (h : t.Sound) (hloop : t.LoopFree)
    (hnull : ∀ name ∈ root.parts, Char.ofNat 0 ∉ name.toList) (cwd : Location)
    (settings : Settings) :
    ∃ p, Project.open? t cwd settings root = .ok p ∧ p.TellsFiles t := by
  obtain ⟨place, hplace⟩ := hloop.exists_resolve h hnull cwd
  refine ⟨⟨settings, place⟩, open?_eq_ok_iff.2 ⟨hplace, rfl⟩, ?_, ?_, ?_, ?_⟩
  · intro path hpath
    exact resolve_join_fileId h hloop hpath
  · intro path _ hnames
    exact hloop.exists_resolve h hnames []
  · intro path other id hpath hother hid hid'
    obtain ⟨_, hfirst, hjoin⟩ := resolve_join_fileId (p := ⟨settings, place⟩) h hloop hpath
    obtain ⟨_, hsecond, hjoin'⟩ := resolve_join_fileId (p := ⟨settings, place⟩) h hloop hother
    cases hfirst.symm.trans hid
    cases hsecond.symm.trans hid'
    have hsame : t.resolve [] path = t.resolve [] other := hjoin.symm.trans hjoin'
    exact ⟨hsame, fun _ _ => place_of_resolve h hpath hother hsame⟩
  · intro path names hpath hresolve
    have hreal := isReal_below h hpath hresolve
    refine ⟨_, fileId_of_inside hresolve, ?_, ?_, fileId_join_of_inside h hloop hpath hresolve⟩
    · exact Path.parse_toString (p := ⟨.relative, names⟩) hreal.plainNames
    · intro hup
      exact (hreal _ hup).ne_up rfl

/-- A project with a link that leads out of it, to a link that leads back into it. -/
def crossedTree : FileTree :=
  ⟨[(#["lib"], .directory), (#["lib", "back"], .link "../proj/src"), (#["proj"], .directory),
    (#["proj", "out"], .link "/lib/back"), (#["proj", "src"], .directory),
    (#["proj", "src", "a.ts"], .file [0x61])]⟩

theorem replaced_back : crossedTree.Replaced ["lib", "back"] 0 := by
  have htarget : Path.parse "../proj/src" = ⟨.relative, ["..", "proj", "src"]⟩ := by decide +kernel
  have hproj : crossedTree.entry? ["proj"] = some .directory := by decide
  have hsrc : crossedTree.entry? ["proj", "src"] = some .directory := by decide
  refine ⟨["lib"], "back", "../proj/src", ["proj", "src"], rfl, by decide, ?_⟩
  rw [htarget]
  refine .up (.enter (by decide) (by decide) (fun target => ?_)
    (.enter (by decide) (by decide) (fun target => ?_) .done))
  · exact fun hlink => by cases hproj.symm.trans hlink
  · exact fun hlink => by cases hsrc.symm.trans hlink

theorem replaced_out : crossedTree.Replaced ["proj", "out"] 1 := by
  have htarget : Path.parse "/lib/back" = .absolute ["lib", "back"] := by decide +kernel
  have hlib : crossedTree.entry? ["lib"] = some .directory := by decide
  obtain ⟨above, name, target, there, hat, hlink, hback⟩ := replaced_back
  change ["lib"] ++ ["back"] = above ++ [name] at hat
  obtain ⟨rfl, hname⟩ := List.append_inj' hat rfl
  cases hname
  refine ⟨["proj"], "out", "/lib/back", there, rfl, by decide, ?_⟩
  rw [htarget]
  refine .enter (by decide) (by decide) (fun target => ?_)
    (.follow (by decide) (by decide) hlink hback .done)
  exact fun hlink => by cases hlib.symm.trans hlink

theorem loopFree_crossedTree : crossedTree.LoopFree := by
  have hrows : ∀ row ∈ crossedTree.toList, row.2.target? = none ∨
      row.1 = ["lib", "back"] ∨ row.1 = ["proj", "out"] := by decide
  refine (FileTree.loopFree_iff (by decide)).2 fun place target hlink => ?_
  have hne : place ≠ [] := by
    rintro rfl
    cases hlink
  rcases hrows _ (FileTree.mem_of_entry?_eq hne hlink) with hnone | hback | hout
  · cases hnone
  · cases hback
    exact ⟨0, replaced_back⟩
  · cases hout
    exact ⟨1, replaced_out⟩

theorem tells_files_crossed :
    crossedTree.Sound ∧ crossedTree.LoopFree ∧
      ∃ p, Project.open? crossedTree [] {} (.absolute ["proj"]) = .ok p ∧
        p.TellsFiles crossedTree :=
  ⟨by decide, loopFree_crossedTree,
    tells_files (by decide) loopFree_crossedTree (by decide) [] {}⟩

end Project

end LineLint
