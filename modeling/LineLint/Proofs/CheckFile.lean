import LineLint.Proofs.CommandSteps
import LineLint.Proofs.ConfigLoading
import LineLint.Proofs.RunOrder

/-!
# Checking one file and linting its project

Both commands open the same project and read the same file, but the check first replaces all links
in the path that it is given. Main statement: `Command.checkFile_agrees_iff`. The two commands
agree on a file that lies in the project; if only a link to it does, they name it differently, so
that they agree only where neither has anything to say.
-/

namespace LineLint

/-! ## A file at its own place -/

namespace Project

variable {p : Project} {t : FileTree} {path : Path} {location : Location} {bytes : List UInt8}

theorem check_absolute (h : t.Sound) (hentry : t.entry? location = some (.file bytes))
    (hsize : (Path.absolute location).toString.utf8ByteSize < FileTree.maxPathBytes) :
    ∃ id, p.fileId t (.absolute location) = .ok id ∧
      p.check t (.absolute location) =
        .ok (p.reportOf [.linted (p.settings.lintText id (decodeSource bytes))]) := by
  have hlocate := FileTree.locate_absolute h hentry (by simp) hsize []
  have hread : t.read [] (.absolute location) = .ok bytes :=
    FileTree.read_eq_ok_iff.2 ⟨location, hlocate⟩
  have hplain : (Path.absolute location).IsPlain := (h.isReal_of_entry?_eq hentry).plainNames
  have hdir : t.isDirectory [] (p.rootPath.join (.absolute location)) = .ok false := by
    have hjoin : p.rootPath.join (.absolute location) = .absolute location := rfl
    rw [hjoin, FileTree.isDirectory_eq, hlocate]
    rfl
  obtain ⟨id, hid, hlint⟩ := lintFile_of_read (p := p) h hplain hread
  exact ⟨id, hid, check_eq_ok_iff.2 ⟨_, _, expand_of_not_isDirectory hdir, .cons hlint .nil, rfl⟩⟩

theorem check_absolute_of_long (h : t.Sound) (hentry : t.entry? location = some (.file bytes))
    (hsize : FileTree.maxPathBytes ≤ (Path.absolute location).toString.utf8ByteSize) :
    p.check t (.absolute location) = .error { cause := .nameTooLong } := by
  refine lint_of_too_long (List.mem_singleton_self _) ?_
  exact FileTree.locate_of_long (h.isReal_of_entry?_eq hentry) hsize []

/-- A file in the project has one name; any other keeps the path by which it was reached. -/
theorem fileId_absolute_eq_iff (h : t.Sound) (hroot : Location.IsReal p.root)
    (hpath : path ∈ p.files t) (hlocate : t.locate [] path = .ok ⟨location, some (.file bytes)⟩)
    (hsize : (Path.absolute location).toString.utf8ByteSize < FileTree.maxPathBytes)
    {id id' : String} (hid : p.fileId t path = .ok id)
    (hid' : p.fileId t (.absolute location) = .ok id') :
    id' = id ↔ p.root <+: location := by
  have hplain := FileTree.isPlain_of_mem_filesBelow h (isPlain_rootPath hroot) hpath
  have hentry : t.entry? location = some (.file bytes) := FileTree.entry?_of_locate hlocate
  have hplain' : (Path.absolute location).IsPlain := (h.isReal_of_entry?_eq hentry).plainNames
  have hresolve := FileTree.resolve_of_locate h hplain hlocate
  have hresolve' := FileTree.resolve_of_locate h hplain'
    (FileTree.locate_absolute h hentry (by simp) hsize [])
  by_cases hunder : p.root <+: location
  · obtain ⟨names, rfl⟩ := hunder
    cases hid.symm.trans (fileId_of_inside hresolve)
    cases hid'.symm.trans (fileId_of_inside hresolve')
    exact iff_of_true rfl (List.prefix_append _ _)
  · cases hid.symm.trans (fileId_of_outside hresolve hunder)
    cases hid'.symm.trans (fileId_of_outside hresolve' hunder)
    -- each keeps its own path as its name, and the found one starts with the root
    refine iff_of_false (fun hsame => hunder ?_) hunder
    obtain ⟨here, names, entry, -, -, hat, -⟩ := FileTree.mem_filesBelow.1 hpath
    have hparts := congrArg Path.parts (Path.toString_inj hplain hplain' hsame.symm)
    rw [hat] at hparts
    exact ⟨names, hparts⟩

end Project

/-- Texts are linted under two names with the same result only if there is nothing to say. -/
theorem Settings.lintText_eq_iff (s : Settings) {file file' : String} (content : String) :
    s.lintText file' content = s.lintText file content ↔
      file' = file ∨ (s.lintText file' content = [] ∧ s.lintText file content = []) := by
  constructor
  · intro h
    cases hfound : s.lintText file content with
    | nil => exact .inr ⟨h.trans hfound, rfl⟩
    | cons v rest =>
      have hv : v ∈ s.lintText file content := by simp [hfound]
      have hv' : v ∈ s.lintText file' content := h ▸ hv
      exact .inl ((file_of_mem_lintText hv').symm.trans (file_of_mem_lintText hv))
  · rintro (rfl | ⟨h', h⟩)
    · rfl
    · exact h'.trans h.symm

namespace Command

variable {env : Environment} {s s' : Session}

/-! ## The two commands -/

variable {t : FileTree} {choice : ProjectChoice} {p : Project} {file target : Path}
  {run : LintResult × List Warning}

theorem perform_lint (hopen : (Run.openProject env choice).run { tree := t } = (.ok p, s))
    (hrun : p.lint t [] = .ok run) :
    (perform env t (.lint [] choice "json" none)).ending =
      .reported (Run.document run.1) run.1.exitCode := by
  obtain ⟨htree, -⟩ := Run.opened hopen
  have hresult : (Run.result fun t => p.lint t []).run s =
      (.ok run.1, { s with warnings := s.warnings ++ run.2 }) :=
    Run.run_result_ok (by rw [htree]; exact hrun)
  rw [perform, Run.ofRequest, Run.lint, Run.run_bind_ok Run.run_readFormat_json,
    Run.run_bind_ok Run.run_resolveTargets_nil, Run.run_bind_ok hopen, Run.run_bind_ok hresult]
  rfl

section

variable (hfile : t.isFile env.cwd file = .ok true)
  (hopen : (Run.openProject env choice).run { tree := t } = (.ok p, s))
  (hresolve : (Run.resolve env file).run s = (.ok target, s))

include hfile hopen hresolve

theorem perform_checkFile :
    (perform env t (.checkFile file choice "json")).ending = match p.check t target with
      | .ok run => .reported (Run.document run.1) run.1.exitCode
      | .error f => .crashed (.access f.cause) := by
  obtain ⟨htree, -⟩ := Run.opened hopen
  have hlook : (Run.look fun t => t.isFile env.cwd file).run { tree := t } =
      (.ok true, { tree := t }) := Run.run_look hfile
  rw [perform, Run.ofRequest, Run.checkFile, Run.run_bind_ok Run.run_readFormat_json,
    Run.run_bind_ok hlook]
  simp only [Bool.not_true, Bool.false_eq_true, if_false]
  rw [Run.run_bind_ok hopen, Run.run_bind_ok hresolve]
  cases hcheck : p.check t target with
  | ok run =>
    have hresult : (Run.result fun t => p.check t target).run s =
        (.ok run.1, { s with warnings := s.warnings ++ run.2 }) :=
      Run.run_result_ok (by rw [htree]; exact hcheck)
    rw [Run.run_bind_ok hresult]
    rfl
  | error f =>
    have hresult : (Run.result fun t => p.check t target).run s =
        (.error (.crashed (.access f.cause)), { s with warnings := s.warnings ++ f.warnings }) :=
      Run.run_result_error (by rw [htree]; exact hcheck)
    rw [Run.run_bind_error hresult]

end

/-! ## Agreement -/

section

variable {words : List String} {config : Option Path} {directory : Option String}

theorem isReal_root_of_open (h : t.Sound) (hcwd : Location.IsReal env.cwd)
    (hopen : (Run.openProject env ⟨config, directory.map Path.parse⟩).run { tree := t } =
      (.ok p, s)) : Location.IsReal p.root := by
  refine FileTree.isReal_of_resolve h hcwd ?_ (Run.opened hopen).2
  cases directory with
  | none => exact hcwd.plainNames
  | some text => exact Path.isPlain_parse text

theorem run_lint (h : t.Sound) (hroot : Location.IsReal p.root)
    (hwords : Request.parse words = .ok (.lint [] choice "json" none))
    (hopen : (Run.openProject env choice).run { tree := t } = (.ok p, s)) :
    ∃ r, (Command.run env t words).ending = .reported (Run.document r) r.exitCode ∧
      r.violations = (p.files t).flatMap (p.violationsAt t) := by
  obtain ⟨outcomes, hgive⟩ :=
    Project.exists_filesGive_filesIn (p := p) h (Project.isPlain_rootPath hroot)
  have hrun : p.lint t [] = .ok (p.reportOf outcomes) :=
    Project.lint_eq_ok_iff.2 ⟨_, _, rfl, hgive, rfl⟩
  refine ⟨(p.reportOf outcomes).1, ?_, Project.violations_of_filesGive hgive⟩
  rw [Command.run, hwords]
  exact perform_lint hopen hrun

section

variable {word : String} {location : Location} {bytes : List UInt8} (h : t.Sound)
  (hwords : Request.parse words = .ok (.checkFile (.parse word) choice "json"))
  (hopen : (Run.openProject env choice).run { tree := t } = (.ok p, s))
  (hlocate : t.locate env.cwd (.parse word) = .ok ⟨location, some (.file bytes)⟩)
  (hhome : Run.expandHome env (.parse word) = pure (.parse word))

include h hwords hopen hlocate hhome

/-- A check of a file is a check of the place where its path leads. -/
theorem run_checkFile :
    (Command.run env t words).ending = match p.check t (.absolute location) with
      | .ok run => .reported (Run.document run.1) run.1.exitCode
      | .error f => .crashed (.access f.cause) := by
  have hread : t.read env.cwd (.parse word) = .ok bytes :=
    FileTree.read_eq_ok_iff.2 ⟨location, hlocate⟩
  have hfile : t.isFile env.cwd (.parse word) = .ok true :=
    FileTree.isFile_eq_true_iff.2 ⟨bytes, hread⟩
  have hresolve : (Run.resolve env (.parse word)).run s = (.ok (.absolute location), s) := by
    refine Run.run_resolve hhome ?_
    rw [(Run.opened hopen).1]
    exact FileTree.resolve_of_locate h (Path.isPlain_parse word) hlocate
  rw [Command.run, hwords]
  exact perform_checkFile hfile hopen hresolve

theorem run_checkFile_of_long
    (hsize : FileTree.maxPathBytes ≤ (Path.absolute location).toString.utf8ByteSize) :
    (Command.run env t words).ending = .crashed (.access .nameTooLong) := by
  have hentry : t.entry? location = some (.file bytes) := FileTree.entry?_of_locate hlocate
  rw [run_checkFile h hwords hopen hlocate hhome, Project.check_absolute_of_long h hentry hsize]

theorem run_checkFile_of_short
    (hsize : (Path.absolute location).toString.utf8ByteSize < FileTree.maxPathBytes) :
    ∃ r id, (Command.run env t words).ending = .reported (Run.document r) r.exitCode ∧
      p.fileId t (.absolute location) = .ok id ∧
      r.violations = p.settings.lintText id (Project.decodeSource bytes) := by
  have hentry : t.entry? location = some (.file bytes) := FileTree.entry?_of_locate hlocate
  obtain ⟨id, hid, hcheck⟩ := Project.check_absolute (p := p) h hentry hsize
  have hviolations : (p.reportOf [.linted (p.settings.lintText id
      (Project.decodeSource bytes))]).1.violations =
        p.settings.lintText id (Project.decodeSource bytes) := List.append_nil _
  refine ⟨_, id, ?_, hid, hviolations⟩
  rw [run_checkFile h hwords hopen hlocate hhome, hcheck]

end

end

/-- Whatever words ask for them, a check of a file that is found in a project and a run over the
project agree on the file if and only if it lies in the project or neither has anything to say. -/
theorem checkFile_agrees_iff {env : Environment} {t : FileTree} {lintWords checkWords : List String}
    {config : Option Path} {directory : Option String} {word : String} {p : Project} {s : Session}
    {path : Path} {bytes : List UInt8} (h : t.Sound) (hcwd : Location.IsReal env.cwd)
    (hlint : Request.parse lintWords =
      .ok (.lint [] ⟨config, directory.map Path.parse⟩ "json" none))
    (hcheck : Request.parse checkWords =
      .ok (.checkFile (.parse word) ⟨config, directory.map Path.parse⟩ "json"))
    (hopen : (Run.openProject env ⟨config, directory.map Path.parse⟩).run { tree := t } =
      (.ok p, s))
    (hpath : path ∈ p.files t) (hread : t.read [] path = .ok bytes)
    (hsame : t.locate env.cwd (.parse word) = t.locate [] path)
    (hhome : Run.expandHome env (.parse word) = pure (.parse word)) :
    ∃ r id location, (Command.run env t lintWords).ending =
        .reported (Run.document r) r.exitCode ∧
      r.violations = (p.files t).flatMap (p.violationsAt t) ∧
      p.fileId t path = .ok id ∧
      p.violationsAt t path = p.settings.lintText id (Project.decodeSource bytes) ∧
      t.locate [] path = .ok ⟨location, some (.file bytes)⟩ ∧
      if FileTree.maxPathBytes ≤ (Path.absolute location).toString.utf8ByteSize then
        (Command.run env t checkWords).ending = .crashed (.access .nameTooLong)
      else ∃ r' id', (Command.run env t checkWords).ending =
          .reported (Run.document r') r'.exitCode ∧
        r'.violations = p.settings.lintText id' (Project.decodeSource bytes) ∧
        (id' = id ↔ p.root <+: location) ∧
        (r'.violations = p.violationsAt t path ↔
          p.root <+: location ∨ (r'.violations = [] ∧ p.violationsAt t path = [])) := by
  have hroot := isReal_root_of_open h hcwd hopen
  have hplain := FileTree.isPlain_of_mem_filesBelow h (Project.isPlain_rootPath hroot) hpath
  obtain ⟨location, hlocate⟩ := FileTree.read_eq_ok_iff.1 hread
  have hfile := hsame.trans hlocate
  obtain ⟨id, hid, -⟩ := Project.lintFile_of_read (p := p) h hplain hread
  have hat := Project.violationsAt_of_read h hplain hread hid
  obtain ⟨r, hending, hviolations⟩ := run_lint h hroot hlint hopen
  refine ⟨r, id, location, hending, hviolations, hid, hat, hlocate, ?_⟩
  split
  · rename_i hsize
    exact run_checkFile_of_long h hcheck hopen hfile hhome hsize
  · rename_i hsize
    have hshort := Nat.not_le.1 hsize
    obtain ⟨r', id', hending', hid', hviolations'⟩ :=
      run_checkFile_of_short h hcheck hopen hfile hhome hshort
    have hname := Project.fileId_absolute_eq_iff h hroot hpath hlocate hshort hid hid'
    refine ⟨r', id', hending', hviolations', hname, ?_⟩
    rw [hviolations', hat, ← hname]
    exact p.settings.lintText_eq_iff _

/-! ## Links out of a project -/

/-- A project with a link to one of its files and a link to a file elsewhere. -/
def linkedTree : FileTree :=
  ⟨[(#["db.ts"], .file (Text.Utf8.encode "Bun.sql".toList)), (#["proj"], .directory),
    (#["proj", "a.ts"], .link "b.ts"), (#["proj", "b.ts"], .file requireBytes),
    (#["proj", "server.ts"], .link "/db.ts")]⟩

def linkedEnv : Environment where
  cwd := []
  home := ⟨.slash, []⟩
  now := { year := 2026, month := 1, day := 1 }

/-- A project without a configuration file has the standard settings. -/
theorem Run.open_default {t : FileTree} (h : t.Sound) (hdir : t.entry? ["proj"] = some .directory)
    (hproj : Settings.configIn t ["proj"] = .ok none) (htop : Settings.configIn t [] = .ok none) :
    (Run.openProject linkedEnv ⟨none, (some "/proj").map Path.parse⟩).run { tree := t } =
      (.ok sampleProject, { tree := t }) := by
  have hparse : Path.parse "/proj" = .absolute ["proj"] := by decide
  have hroot : t.resolve [] (.absolute ["proj"]) = .ok ["proj"] :=
    FileTree.resolve_of_locate h (by decide)
      (FileTree.locate_absolute h hdir (by simp) (by decide) [])
  have hconfig : Settings.findConfig t ["proj"] = .ok none := by
    simp [Settings.findConfig, Settings.searchUp, hproj, htop, bind, Except.bind]
  have hload : Settings.load Run.configRoom t [] none (.absolute ["proj"]) = .ok ({}, []) := by
    simp [Settings.load, Settings.access, Settings.loadFrom, hroot, hconfig, Except.mapError, bind,
      Except.bind, pure, Except.pure]
  have hlook : (Run.look fun t => t.resolve linkedEnv.cwd (.absolute ["proj"])).run
      { tree := t } = (.ok ["proj"], { tree := t }) := Run.run_look hroot
  rw [Option.map_some, hparse, Run.openProject]
  simp only [Option.getD_some]
  rw [Run.run_bind_ok hlook, Run.run_bind_ok Run.run_get]
  simp only [linkedEnv, hload]
  rfl

theorem open_linkedTree :
    (Run.openProject linkedEnv ⟨none, (some "/proj").map Path.parse⟩).run { tree := linkedTree } =
      (.ok sampleProject, { tree := linkedTree }) := by
  have hsound : linkedTree.Sound := by decide
  exact Run.open_default hsound (by decide)
    (Settings.configIn_eq_none hsound (by decide) (by decide))
    (Settings.configIn_eq_none hsound (by decide) (by decide))

theorem locate_inside :
    linkedTree.locate [] (.absolute ["proj", "a.ts"]) =
      .ok ⟨["proj", "b.ts"], some (.file requireBytes)⟩ :=
  FileTree.locate_link (by decide) ["proj"] "b.ts" (by decide)
    (by decide) (by decide) (by simp) (by decide) []

theorem locate_outside :
    linkedTree.locate [] (.absolute ["proj", "server.ts"]) =
      .ok ⟨["db.ts"], some (.file (Text.Utf8.encode "Bun.sql".toList))⟩ :=
  FileTree.locate_link (by decide) ["proj"] "/db.ts" (by decide)
    (by decide) (by decide) (by simp) (by decide) []

theorem mem_sampleProject {name : String} (target : String) {place : Place}
    (hrow : (["proj", name], .link target) ∈ linkedTree.toList)
    (hlocate : linkedTree.locate [] (.absolute ["proj", name]) = .ok place)
    (hplace : place.entry ≠ some .directory) (hwanted : sampleProject.settings.wants name = true) :
    .absolute ["proj", name] ∈ sampleProject.files linkedTree := by
  have hroot : linkedTree.locate [] sampleProject.rootPath = .ok ⟨["proj"], some .directory⟩ :=
    FileTree.locate_absolute (by decide) (by decide) (by simp)
      (by decide) []
  have hnot : linkedTree.isDirectory [] (.absolute ["proj", name]) = .ok false := by
    rw [FileTree.isDirectory_eq, hlocate]
    simpa using hplace
  have hleads :
      linkedTree.leadsToDirectory [] (.absolute ["proj", name]) (.link target) = false := by
    rw [FileTree.leadsToDirectory, hnot]
  have hparent : (Path.mk .slash (["proj"] ++ [name])).parent = .absolute ["proj"] := rfl
  have hopened : (Path.mk .slash (["proj"] ++ [name])).parent.toString.utf8ByteSize <
      FileTree.maxPathBytes := by
    rw [hparent]
    decide
  exact FileTree.mem_filesBelow.2 ⟨["proj"], [name], .link target, hroot, hrow, rfl, by simp,
    by simp, by simpa using hwanted, hleads, hopened⟩

/-- The words of a run over the project. -/
def lintWords : List String := ["lint", "--dir", "/proj", "--format", "json"]

/-- The words of a check of one of its files. -/
def checkWords (word : String) : List String :=
  ["check-file", word, "--dir", "/proj", "--format", "json"]

theorem parse_lintWords :
    Request.parse lintWords =
      .ok (.lint [] ⟨none, (some "/proj").map Path.parse⟩ "json" none) := by
  decide +kernel

theorem checkFile_agrees_inside :
    ∃ r r', (Command.run linkedEnv linkedTree lintWords).ending =
        .reported (Run.document r) r.exitCode ∧
      (Command.run linkedEnv linkedTree (checkWords "/proj/a.ts")).ending =
        .reported (Run.document r') r'.exitCode ∧
      requireCall "b.ts" ∈ r'.violations ∧
      r'.violations = sampleProject.violationsAt linkedTree (.absolute ["proj", "a.ts"]) := by
  have hparse : Path.parse "/proj/a.ts" = .absolute ["proj", "a.ts"] := by decide +kernel
  have hpath :=
    mem_sampleProject "b.ts" (by decide +kernel) locate_inside (by simp) (by decide +kernel)
  have hread := FileTree.read_eq_ok_iff.2 ⟨_, locate_inside⟩
  have hwords : Request.parse (checkWords "/proj/a.ts") =
      .ok (.checkFile (.parse "/proj/a.ts") ⟨none, (some "/proj").map Path.parse⟩ "json") := by
    decide +kernel
  obtain ⟨r, id, location, hlint, -, hid, hat, hlocate, hcheck⟩ :=
    checkFile_agrees_iff (by decide +kernel) (by decide) parse_lintWords hwords open_linkedTree
      hpath hread (by rw [hparse]; rfl) (by rw [hparse]; rfl)
  cases hlocate.symm.trans locate_inside
  have hname : sampleProject.fileId linkedTree (.absolute ["proj", "a.ts"]) = .ok "b.ts" := by
    rw [Project.fileId_of_locate (by decide +kernel) (by decide) locate_inside]
    decide +kernel
  cases hid.symm.trans hname
  rw [if_neg (by decide +kernel)] at hcheck
  obtain ⟨r', id', hending, -, -, hagree⟩ := hcheck
  have hviolations := hagree.2 (.inl (by decide))
  refine ⟨r, r', hlint, hending, ?_, hviolations⟩
  rw [hviolations, hat]
  exact Settings.requireCall_mem_lintText rfl "b.ts"

/-- A server file outside the project is one for a run over the project, which knows it by a link,
and none for a check of that link. -/
theorem checkFile_differs_outside :
    .absolute ["proj", "server.ts"] ∈ sampleProject.files linkedTree ∧
    ∃ r r', (Command.run linkedEnv linkedTree lintWords).ending =
        .reported (Run.document r) r.exitCode ∧
      r.violations = (sampleProject.files linkedTree).flatMap
        (sampleProject.violationsAt linkedTree) ∧
      sampleProject.violationsAt linkedTree (.absolute ["proj", "server.ts"]) ≠ [] ∧
      (Command.run linkedEnv linkedTree (checkWords "/proj/server.ts")).ending =
        .reported (Run.document r') r'.exitCode ∧
      r'.violations = [] := by
  have hsound : linkedTree.Sound := by decide +kernel
  have hparse : Path.parse "/proj/server.ts" = .absolute ["proj", "server.ts"] := by decide +kernel
  have hlocate : linkedTree.locate linkedEnv.cwd (.parse "/proj/server.ts") =
      .ok ⟨["db.ts"], some (.file (Text.Utf8.encode "Bun.sql".toList))⟩ := by
    rw [hparse]
    exact locate_outside
  obtain ⟨r, hlint, hviolations⟩ :=
    run_lint hsound (by decide) parse_lintWords open_linkedTree
  have hwords : Request.parse (checkWords "/proj/server.ts") =
      .ok (.checkFile (.parse "/proj/server.ts") ⟨none, (some "/proj").map Path.parse⟩ "json") := by
    decide +kernel
  obtain ⟨r', id', hcheck, hid', hviolations'⟩ :=
    run_checkFile_of_short hsound hwords open_linkedTree hlocate (by rw [hparse]; rfl)
      (by decide +kernel)
  have hid : sampleProject.fileId linkedTree (.absolute ["proj", "server.ts"]) =
      .ok "/proj/server.ts" := by
    rw [Project.fileId_of_locate hsound (by decide) locate_outside]
    decide +kernel
  have hat := Project.violationsAt_of_read hsound (by decide)
    (FileTree.read_eq_ok_iff.2 ⟨_, locate_outside⟩) hid
  refine ⟨mem_sampleProject "/db.ts" (by decide +kernel) locate_outside (by simp)
    (by decide +kernel), r, r', hlint, hviolations, ?_, hcheck, ?_⟩
  · rw [hat]
    decide +kernel
  · have hplace : linkedTree.locate [] (.absolute ["db.ts"]) =
        .ok ⟨["db.ts"], some (.file (Text.Utf8.encode "Bun.sql".toList))⟩ :=
      FileTree.locate_absolute hsound (by decide +kernel) (by simp) (by decide +kernel) []
    have hid'' : sampleProject.fileId linkedTree (.absolute ["db.ts"]) = .ok "/db.ts" := by
      rw [Project.fileId_of_locate hsound (by decide) hplace]
      decide +kernel
    cases hid'.symm.trans hid''
    rw [hviolations']
    decide +kernel

end Command

end LineLint
