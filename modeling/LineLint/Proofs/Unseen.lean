import LineLint.Proofs.ConfigLoading
import LineLint.Proofs.JsonReport
import LineLint.Proofs.LinkFree
import LineLint.Proofs.Listing

/-!
# What a run does not see

Without links a run over a whole project depends on the configuration files in its root and above
and on the wanted files that it reaches through directories it enters. Nothing else in the tree has
a part in what it says. Main statements: `Settings.load_congr`, `Project.lint_congr` and
`Command.lint_blind`.
-/

namespace LineLint

variable {t t' : FileTree} {p : Project} {cwd root directory location : Location}

/-! ## Files at one location -/

namespace FileTree

/-- Two trees hold the same file at a location, or neither holds a file there. -/
def SameFile (t t' : FileTree) (location : Location) : Prop :=
  ∀ bytes, t.entry? location = some (.file bytes) ↔ t'.entry? location = some (.file bytes)

theorem filter_isFileEntry_eq_iff :
    (t.entry? location).filter isFileEntry = (t'.entry? location).filter isFileEntry ↔
      SameFile t t' location := by
  have hfilter : ∀ (found : Option Entry) (bytes : List UInt8),
      found.filter isFileEntry = some (.file bytes) ↔ found = some (.file bytes) := by
    intro found bytes
    simp only [Option.filter_eq_some_iff, and_iff_left_iff_imp]
    rintro -
    rfl
  have hnone : ∀ found : Option Entry, (∀ bytes, found ≠ some (.file bytes)) →
      found.filter isFileEntry = none := by
    intro found hfound
    cases found with
    | none => rfl
    | some entry => cases entry with
      | file bytes => exact absurd rfl (hfound bytes)
      | _ => rfl
  constructor
  · intro heq bytes
    rw [← hfilter, heq, hfilter]
  · intro hsame
    by_cases hfile : ∃ bytes, t.entry? location = some (.file bytes)
    · obtain ⟨bytes, hentry⟩ := hfile
      rw [hentry, (hsame bytes).1 hentry]
    · rw [not_exists] at hfile
      rw [hnone _ hfile, hnone _ fun bytes => mt (hsame bytes).2 (hfile bytes)]

instance (t t' : FileTree) (location : Location) : Decidable (SameFile t t' location) :=
  decidable_of_iff
    ((t.entry? location).filter isFileEntry = (t'.entry? location).filter isFileEntry)
    filter_isFileEntry_eq_iff

theorem SameFile.symm (hsame : SameFile t t' location) : SameFile t' t location :=
  fun bytes => (hsame bytes).symm

section

variable (h : t.Sound) (hfree : t.LinkFree) (h' : t'.Sound) (hfree' : t'.LinkFree)
  (hfits : Fits location) (hsame : SameFile t t' location)

include h hfree h' hfree' hfits hsame

theorem isFile_congr (cwd : Location) :
    t.isFile cwd (.absolute location) = t'.isFile cwd (.absolute location) := by
  have hany : (t.entry? location).any isFileEntry = (t'.entry? location).any isFileEntry := by
    rw [Bool.eq_iff_iff, any_isFileEntry, any_isFileEntry]
    exact exists_congr hsame
  rw [isFile_absolute h hfree hfits, isFile_absolute h' hfree' hfits, hany]

omit hfree' in
theorem read_congr (hfile : t.isFile cwd (.absolute location) = .ok true) :
    t.read cwd (.absolute location) = t'.read cwd (.absolute location) := by
  rw [isFile_absolute h hfree hfits] at hfile
  split at hfile
  · cases hfile
  · obtain ⟨bytes, hentry⟩ := any_isFileEntry.1 (Except.ok.inj hfile)
    rw [read_absolute h hentry, read_absolute h' ((hsame bytes).1 hentry)]

end

end FileTree

/-! ## Configuration files -/

namespace Settings

variable {room : ℕ} {search : Path}

/-- A search for a configuration file looks at the four names in a directory and above. -/
def SameConfigs (t t' : FileTree) (root : Location) : Prop :=
  ∀ directory, directory <+: root → ∀ name ∈ configNames,
    FileTree.SameFile t t' (directory ++ [name])

instance (t t' : FileTree) (root : Location) : Decidable (SameConfigs t t' root) :=
  decidable_of_iff (∀ directory ∈ root.inits, ∀ name ∈ configNames,
    FileTree.SameFile t t' (directory ++ [name])) (by simp [SameConfigs])

section

variable (h : t.Sound) (hfree : t.LinkFree) (h' : t'.Sound) (hfree' : t'.LinkFree)

include h hfree h' hfree'

theorem load_congr_nearest (hroot : FileTree.Fits root) (hsame : SameConfigs t t' root) :
    load room t cwd none (.absolute root) = load room t' cwd none (.absolute root) := by
  have hnames : ∀ name ∈ configNames, FileTree.Fits [name] := by decide
  have hfits : ∀ directory, directory <+: root → ∀ name ∈ configNames,
      FileTree.Fits (directory ++ [name]) :=
    fun directory hfront name hname => (hroot.of_isPrefix hfront).append (hnames name hname)
  have hnull : ∀ name ∈ (Path.absolute root).parts, Char.ofNat 0 ∉ name.toList :=
    fun name hname => (hroot.real name hname).no_null
  have hsearch : findConfig t root = findConfig t' root := by
    rw [findConfig_eq_firstFile, findConfig_eq_firstFile]
    refine firstFile_congr fun place hplace => ?_
    obtain ⟨directory, hfront, name, hname, rfl⟩ := mem_candidates.1 hplace
    exact FileTree.isFile_congr h hfree h' hfree' (hfits directory hfront name hname)
      (hsame directory hfront name hname) []
  have hplace : FileTree.placeOf cwd (.absolute root) = root := FileTree.placeOf_absolute hroot.real
  simp only [load, ← FileTree.resolve_congr hfree hfree', FileTree.resolve_eq hfree hnull, hplace,
    access, bind, Except.bind, Except.mapError, ← hsearch]
  cases hfound : findConfig t root with
  | error e => rfl
  | ok source =>
    cases source with
    | none => rfl
    | some source =>
      -- the file that is found is one of those that have been looked at
      obtain ⟨place, hplace, rfl, hfile⟩ := exists_of_findConfig hfound
      obtain ⟨directory, hfront, name, hname, rfl⟩ := mem_candidates.1 hplace
      have hread := FileTree.read_congr h hfree h' (hfits directory hfront name hname)
        (hsame directory hfront name hname) hfile
      simp only [loadFrom, hread]

theorem load_congr_named {config : Path}
    (hnull : ∀ name ∈ config.parts, Char.ofNat 0 ∉ name.toList)
    (hfits : FileTree.Fits (FileTree.placeOf cwd config))
    (hsame : FileTree.SameFile t t' (FileTree.placeOf cwd config)) :
    load room t cwd (some config) search = load room t' cwd (some config) search := by
  have hfile := FileTree.isFile_congr h hfree h' hfree' hfits hsame []
  simp only [load, ← FileTree.resolve_congr hfree hfree', FileTree.resolve_eq hfree hnull, access,
    bind, Except.bind, Except.mapError, ← hfile]
  cases hfound : t.isFile [] (.absolute (FileTree.placeOf cwd config)) with
  | error e => rfl
  | ok found =>
    cases found with
    | false => rfl
    | true =>
      have hread := FileTree.read_congr h hfree h' hfits hsame hfound
      simp only [loadFrom, hread]

end

end Settings

/-! ## Whole runs -/

namespace Project

variable {path : Path} {entry : Entry}

/-- Two trees have the same files wherever a run over a project goes. -/
def SameWanted (p : Project) (t t' : FileTree) : Prop :=
  ∀ dirs name, (∀ dir ∈ dirs, p.settings.enters dir = true) → p.settings.wants name = true →
    FileTree.SameFile t t' (p.root ++ (dirs ++ [name]))

theorem sameWanted_iff : p.SameWanted t t' ↔ ∀ row ∈ t.toList ++ t'.toList,
    ∀ names ∈ FileTree.namesBelow? p.root row.1, names.dropLast.all p.settings.enters = true →
      names.getLast?.any p.settings.wants = true → FileTree.SameFile t t' row.1 := by
  constructor
  · intro hfiles row _ names hnames hdirs hname
    obtain ⟨hne, hrow⟩ := FileTree.namesBelow?_eq_some_iff.1 hnames
    obtain ⟨dirs, name, rfl⟩ := List.eq_nil_or_concat' names |>.resolve_left hne
    rw [hrow]
    exact hfiles dirs name (by simpa using hdirs) (by simpa using hname)
  · intro hrows dirs name hdirs hname
    have hbelow : FileTree.namesBelow? p.root (p.root ++ (dirs ++ [name])) =
        some (dirs ++ [name]) := FileTree.namesBelow?_eq_some_iff.2 ⟨by simp, rfl⟩
    have hsame : ∀ entry, (p.root ++ (dirs ++ [name]), entry) ∈ t.toList ++ t'.toList →
        FileTree.SameFile t t' (p.root ++ (dirs ++ [name])) := fun entry hrow =>
      hrows _ hrow _ hbelow (by simpa using hdirs) (by simpa using hname)
    have hne : p.root ++ (dirs ++ [name]) ≠ [] := by simp
    -- a file in either tree has a row there
    intro bytes
    constructor
    · intro hentry
      have hrow := List.mem_append_left t'.toList (FileTree.mem_of_entry?_eq hne hentry)
      exact (hsame _ hrow bytes).1 hentry
    · intro hentry
      have hrow := List.mem_append_right t.toList (FileTree.mem_of_entry?_eq hne hentry)
      exact (hsame _ hrow bytes).2 hentry

instance (p : Project) (t t' : FileTree) : Decidable (p.SameWanted t t') :=
  decidable_of_iff (∀ row ∈ t.toList ++ t'.toList, ∀ names ∈ FileTree.namesBelow? p.root row.1,
    names.dropLast.all p.settings.enters = true → names.getLast?.any p.settings.wants = true →
      FileTree.SameFile t t' row.1) sameWanted_iff.symm

theorem SameWanted.symm (hsame : p.SameWanted t t') : p.SameWanted t' t :=
  fun dirs name hdirs hname => (hsame dirs name hdirs hname).symm

/-- Without links a file is listed for what stands at its location. -/
theorem entry?_of_mem_files (h : t.Sound) (hfree : t.LinkFree) (hroot : Location.IsReal p.root)
    (hpath : path ∈ p.files t) : ∃ dirs name bytes, path = .absolute (p.root ++ (dirs ++ [name])) ∧
      t.entry? (p.root ++ (dirs ++ [name])) = some (.file bytes) ∧
      (∀ dir ∈ dirs, p.settings.enters dir = true) ∧ p.settings.wants name = true ∧
      path.parent.toString.utf8ByteSize < FileTree.maxPathBytes := by
  obtain ⟨here, names, entry, hlocate, hrow, rfl, hfound⟩ := FileTree.mem_filesBelow.1 hpath
  obtain ⟨dirs, name, rfl⟩ := List.eq_nil_or_concat' names |>.resolve_left hfound.ne_nil
  have hhere : here = p.root := by
    have hplace := FileTree.location_of_locate hfree (isPlain_rootPath hroot) hlocate
    exact (congrArg Place.location hplace).trans (FileTree.placeOf_absolute hroot)
  have hentry := FileTree.entry?_of_mem h.toWellFormed hrow
  rw [hhere] at hentry
  have hfile : ∃ bytes, entry = .file bytes := by
    cases entry with
    | directory => exact absurd hfound.not_directory (by simp [FileTree.leadsToDirectory])
    | link target => exact absurd hentry (hfree.ne_link _ _)
    | file bytes => exact ⟨bytes, rfl⟩
  obtain ⟨bytes, rfl⟩ := hfile
  refine ⟨dirs, name, bytes, rfl, hentry, fun dir hdir => ?_, hfound.wanted_last name (by simp),
    hfound.opened⟩
  exact hfound.entered dir (by simpa using hdir)

section

variable (h : t.Sound) (hfree : t.LinkFree) (h' : t'.Sound) (hfree' : t'.LinkFree)
  (hroot : Location.IsReal p.root) (hsame : p.SameWanted t t')

include h hfree h' hroot hsame

theorem mem_files_congr (hpath : path ∈ p.files t) : path ∈ p.files t' := by
  obtain ⟨dirs, name, bytes, rfl, hentry, hdirs, hname, hopened⟩ :=
    entry?_of_mem_files h hfree hroot hpath
  have hentry' := (hsame dirs name hdirs hname bytes).1 hentry
  rw [Path.parent, Path.absolute, ← List.append_assoc, List.dropLast_concat] at hopened
  exact mem_files_of_entry h' hentry' hdirs hname hopened

include hfree'

theorem files_congr : p.files t = p.files t' := by
  have hirrefl : Std.Irrefl fun first second : Path => first.parts < second.parts :=
    ⟨fun first => lt_irrefl first.parts⟩
  have hantisymm : Std.Antisymm fun first second : Path => first.parts < second.parts :=
    ⟨fun first second hlt hgt => absurd hgt (lt_asymm hlt)⟩
  exact (FileTree.filesBelow_pairwise h.toWellFormed).eq_of_mem_iff
    (FileTree.filesBelow_pairwise h'.toWellFormed) fun path =>
      ⟨mem_files_congr h hfree h' hroot hsame, mem_files_congr h' hfree' h hroot hsame.symm⟩

theorem lintFile_congr (hpath : path ∈ p.files t) : p.lintFile t path = p.lintFile t' path := by
  obtain ⟨dirs, name, bytes, rfl, hentry, hdirs, hname, -⟩ :=
    entry?_of_mem_files h hfree hroot hpath
  have hentry' := (hsame dirs name hdirs hname bytes).1 hentry
  rw [lintFile, lintFile, FileTree.read_absolute h hentry, FileTree.read_absolute h' hentry',
    fileId, fileId, FileTree.resolve_congr hfree hfree']

/-- A run over the whole project says the same of trees with the same wanted files. -/
theorem lint_congr : p.lint t [] = p.lint t' [] := by
  have hfiles : ∀ paths : List Path, (∀ path ∈ paths, path ∈ p.files t) →
      p.lintFiles t paths = p.lintFiles t' paths := by
    intro paths hpaths
    induction paths with
    | nil => rfl
    | cons path rest ih =>
      rw [List.forall_mem_cons] at hpaths
      rw [lintFiles, lintFiles, lintFile_congr h hfree h' hfree' hroot hsame hpaths.1, ih hpaths.2]
  have hlists := files_congr h hfree h' hfree' hroot hsame
  simp only [lint, targets, ← hlists, Except.mapError, bind, Except.bind]
  rw [hfiles _ fun path hpath => hpath]

end

end Project

namespace Command

variable {env : Environment} {words : List String} {choice : ProjectChoice} {s : Session}
  {r : LintResult} {warnings : List Warning}

/-- All that comes of a run over the whole project that shows its report. -/
theorem run_lint_whole {found : List Warning} {undecoded : Bool}
    (hwords : Request.parse words = .ok (.lint [] choice "json" none))
    (hopens : Run.Opens env t choice p found) (hlint : p.lint t [] = .ok (r, warnings)) :
    run env t words undecoded = ⟨.reported (Run.document r) r.exitCode,
      { tree := t, warnings := found ++ warnings, undecoded }⟩ := by
  have hrun : (Run.ofRequest env (.lint [] choice "json" none)).run { tree := t, undecoded } =
      (.error (.reported (Run.document r) r.exitCode),
        { tree := t, warnings := found ++ warnings, undecoded }) := by
    rw [Run.ofRequest]
    exact Run.run_lint_json (Run.run_lintResult_of_opens hopens hlint) rfl
  simp only [run, hwords, perform_of_error hrun]

/-- Without links a run over the whole project shows the same report, warns of the same and exits
alike in any two trees with the same root, the same configuration files in it and above, and the
same wanted files in directories that are entered. The trees may differ in everything else. -/
theorem lint_blind {env : Environment} {t t' : FileTree} {words : List String}
    {directory : Option Path} {p : Project} {s : Session} {undecoded : Bool} (h : t.Sound)
    (hfree : t.LinkFree) (h' : t'.Sound) (hfree' : t'.LinkFree)
    (hwords : Request.parse words = .ok (.lint [] ⟨none, directory⟩ "json" none))
    (hopen : (Run.openProject env ⟨none, directory⟩).run { tree := t } = (.ok p, s))
    (hroot : t.entry? p.root = some .directory) (hconfigs : Settings.SameConfigs t t' p.root)
    (hsame : p.SameWanted t t') :
    ∃ r warnings, p.lint t [] = .ok (r, warnings) ∧
      run env t words undecoded = ⟨.reported (Run.document r) r.exitCode,
        { tree := t, warnings := s.warnings ++ warnings, undecoded }⟩ ∧
      run env t' words undecoded = ⟨.reported (Run.document r) r.exitCode,
        { tree := t', warnings := s.warnings ++ warnings, undecoded }⟩ := by
  have hreal : Location.IsReal p.root := h.isReal_of_entry?_eq hroot
  obtain ⟨r, warnings, hlint⟩ := Project.exists_lint (p := p) h hreal
  have hlint' := (Project.lint_congr h hfree h' hfree' hreal hsame).symm.trans hlint
  obtain ⟨found, hopens, rfl⟩ := Run.run_openProject_eq_ok_iff.1 hopen
  have hopens' : Run.Opens env t' ⟨none, directory⟩ p found :=
    ⟨(FileTree.resolve_congr hfree' hfree _ _).trans hopens.root,
      (Settings.load_congr_nearest h hfree h' hfree' (.of_entry h hroot) hconfigs).symm.trans
        hopens.settings⟩
  exact ⟨_, _, hlint, run_lint_whole hwords hopens hlint, run_lint_whole hwords hopens' hlint'⟩

/-- A project with one file. -/
def tidyTree : FileTree :=
  ⟨[(#["proj"], .directory), (#["proj", "a.ts"], .file requireBytes)]⟩

/-- The same project among files that no run sees, and in another order. -/
def clutteredTree : FileTree :=
  ⟨[(#["goldenlint.toml"], .file [0x61]), (#["proj"], .directory),
    (#["proj", "node_modules"], .directory),
    (#["proj", "node_modules", "a.ts"], .file requireBytes),
    (#["proj", "empty"], .directory), (#["proj", "notes.txt"], .file [0x62]),
    (#["proj", "a.ts"], .file requireBytes)]⟩

theorem open_tidyTree : (Run.openProject linkedEnv ⟨none, (some "/proj").map Path.parse⟩).run
    { tree := tidyTree } = (.ok sampleProject, { tree := tidyTree }) := by
  have h : tidyTree.Sound := by decide
  exact Run.open_default h (by decide)
    (Settings.configIn_eq_none h (by decide) (by decide))
    (Settings.configIn_eq_none h (by decide) (by decide))

theorem lint_blind_cluttered : ∃ r warnings, sampleProject.lint tidyTree [] = .ok (r, warnings) ∧
    run linkedEnv tidyTree ["lint", "--dir", "/proj", "--format", "json"] =
      ⟨.reported (Run.document r) r.exitCode, { tree := tidyTree, warnings := [] ++ warnings }⟩ ∧
    run linkedEnv clutteredTree ["lint", "--dir", "/proj", "--format", "json"] =
      ⟨.reported (Run.document r) r.exitCode,
        { tree := clutteredTree, warnings := [] ++ warnings }⟩ := by
  exact lint_blind (by decide +kernel) (by decide +kernel) (by decide +kernel) (by decide +kernel)
    (by decide +kernel) open_tidyTree (by decide +kernel) (by decide +kernel) (by decide +kernel)

end Command

end LineLint
