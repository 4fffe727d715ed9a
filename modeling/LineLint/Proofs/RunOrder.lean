import LineLint.Proofs.FileNames
import LineLint.Proofs.Listing
import Mathlib.Data.Int.ConditionallyCompleteOrder
import Mathlib.Data.Prod.Lex
import Mathlib.Order.WithBot

/-!
# The order of a whole run

In a tree without links a run over a whole project reports its violations in one strict order: by
the components of the file's path, by rule, by line with what has no line last, and by the check's
row in the table of its rule. The violation itself says all of this: its file is read back as a
path, and its rule and message are looked up among the rules. Main statement:
`Project.lint_in_order`.
-/

namespace LineLint

/-! ## Where a violation stands among the rules -/

namespace Settings

variable {s : Settings} {file content : String} {r : Rule}

/-- All rules in their order, whether they run or not. -/
def allRules (s : Settings) : List Rule := s.catalogue.map (·.rule)

/-- The place of a rule among all rules. -/
def ruleIndex (s : Settings) (name : String) : ℕ := (s.allRules.map (·.name)).idxOf name

/-- The place of the check with a message in the table of a rule. -/
def checkIndex (s : Settings) (name message : String) : ℕ :=
  match s.allRules.find? (·.name == name) with
  | some r => (r.checks.map (·.advice.message)).idxOf message
  | none => 0

theorem nodup_names (s : Settings) : (s.allRules.map (·.name)).Nodup := by
  simp only [allRules, catalogue, List.map_cons, List.map_nil, Rules.bunFlags,
    Rules.configuration, Rules.deprecation]
  decide

theorem nodup_messages (hr : r ∈ s.allRules) : (r.checks.map (·.advice.message)).Nodup := by
  simp only [allRules, catalogue, List.map_cons, List.map_nil, List.mem_cons, List.not_mem_nil,
    or_false] at hr
  rcases hr with rfl | rfl | rfl
  · simp only [Rules.bunFlags, List.map_cons, List.map_nil, Check.advice]
    decide
  · simp only [Rules.configuration, List.map_cons, List.map_nil, Check.advice]
    decide
  · simp only [Rules.deprecation, List.map_append, List.map_map, List.map_cons, List.map_nil,
      Function.comp_def, Check.advice]
    decide

theorem find?_of_mem {rules : List Rule} (hnames : (rules.map (·.name)).Nodup) (hr : r ∈ rules) :
    rules.find? (·.name == r.name) = some r := by
  induction rules with
  | nil => cases hr
  | cons first rest ih =>
    rw [List.map_cons, List.nodup_cons] at hnames
    rcases List.mem_cons.1 hr with rfl | hr
    · simp
    · have hne : first.name ≠ r.name := fun he => hnames.1 (he ▸ List.mem_map_of_mem hr)
      rw [List.find?_cons_of_neg (by simpa using hne)]
      exact ih hnames.2 hr

theorem pairwise_idxOf {l : List String} (h : l.Nodup) :
    l.Pairwise fun a b => l.idxOf a < l.idxOf b := by
  rw [List.pairwise_iff_getElem]
  intro i j hi hj hij
  rwa [h.idxOf_getElem i hi, h.idxOf_getElem j hj]

/-- The rules that run are in the order of all rules. -/
theorem pairwise_activeRules (s : Settings) :
    s.activeRules.Pairwise fun q r => s.ruleIndex q.name < s.ruleIndex r.name := by
  have hsub : s.activeRules.Sublist s.allRules := List.filter_sublist.map _
  have hall := pairwise_idxOf s.nodup_names
  rw [List.pairwise_map] at hall
  exact hall.sublist hsub

/-- A line number, with no line after every number. -/
def linePlace (line : Option ℤ) : WithTop ℤ := line.elim ⊤ WithTop.some

/-- Where a violation stands among those of its file. -/
def spot (s : Settings) (v : Violation) : ℕ ×ₗ WithTop ℤ ×ₗ ℕ :=
  toLex (s.ruleIndex v.rule, toLex (linePlace v.line, s.checkIndex v.rule v.message))

theorem spot_tell (hr : r ∈ s.allRules) {f : Finding} (hrow : r.checks[f.row]? = some f.check) :
    s.spot (r.tell file f) = toLex (s.ruleIndex r.name,
      toLex (linePlace (f.line.map fun index => (index : ℤ) + 1), f.row)) := by
  have hfind := find?_of_mem s.nodup_names hr
  have hcheck : s.checkIndex r.name f.check.advice.message = f.row := by
    obtain ⟨hlt, hget⟩ := List.getElem?_eq_some_iff.1 hrow
    have hlt' : f.row < (r.checks.map (·.advice.message)).length := by
      rwa [List.length_map]
    have hmessage : f.check.advice.message = (r.checks.map (·.advice.message))[f.row] := by
      rw [List.getElem_map, hget]
    rw [checkIndex, hfind, hmessage]
    exact (nodup_messages hr).idxOf_getElem _ _
  rw [spot, Rule.tell, hcheck]

theorem linePlace_lt {f g : Finding} (h : f.key < g.key) :
    toLex (linePlace (f.line.map fun index => (index : ℤ) + 1), f.row) <
      toLex (linePlace (g.line.map fun index => (index : ℤ) + 1), g.row) := by
  obtain ⟨_, row, line⟩ := f
  obtain ⟨_, row', line'⟩ := g
  simp only [Finding.key, Prod.Lex.toLex_lt_toLex] at h ⊢
  cases line with
  | none =>
    cases line' with
    | none => simpa [linePlace] using h
    | some index' => simp at h
  | some index =>
    cases line' with
    | none => exact .inl (WithTop.coe_lt_top _)
    | some index' =>
      rcases h with h | ⟨h, hrow⟩
      · left
        have h' : index < index' := WithTop.coe_lt_coe.1 h
        have hnumber : (index : ℤ) + 1 < index' + 1 := by omega
        exact WithTop.coe_lt_coe.2 hnumber
      · right
        have h' : index = index' := WithTop.coe_inj.1 h
        exact ⟨by rw [h'], hrow⟩

theorem pairwise_validate (hr : r ∈ s.allRules) :
    (r.validate file content).Pairwise fun v w => s.spot v < s.spot w := by
  rw [Rule.validate_eq_map_findings, List.pairwise_map]
  have hrows : ∀ f ∈ r.findings file content, r.checks[f.row]? = some f.check := by
    intro f hf
    cases (Rule.mem_findings.1 hf).2 with
    | line hrow => exact hrow
    | file hrow => exact hrow
  refine Rule.findings_pairwise.imp_of_mem fun hf hg hlt => ?_
  rw [spot_tell hr (hrows _ hf), spot_tell hr (hrows _ hg), Prod.Lex.toLex_lt_toLex]
  exact .inr ⟨rfl, linePlace_lt hlt⟩

theorem rule_of_mem_validate {v : Violation} (hv : v ∈ r.validate file content) :
    v.rule = r.name ∧ v.file = file := by
  rw [Rule.validate_eq_map_findings] at hv
  obtain ⟨f, -, rfl⟩ := List.mem_map.1 hv
  exact ⟨rfl, rfl⟩

theorem pairwise_lintText (s : Settings) (file content : String) :
    (s.lintText file content).Pairwise fun v w => s.spot v < s.spot w := by
  have hactive : ∀ r ∈ s.activeRules, r ∈ s.allRules :=
    fun r hr => (List.filter_sublist.map _).subset hr
  rw [lintText, List.pairwise_flatMap]
  refine ⟨fun r hr => pairwise_validate (hactive r hr), ?_⟩
  refine s.pairwise_activeRules.imp fun hlt v hv w hw => ?_
  rw [spot, spot, (rule_of_mem_validate hv).1, (rule_of_mem_validate hw).1,
    Prod.Lex.toLex_lt_toLex]
  exact .inl hlt

theorem file_of_mem_lintText {v : Violation} (hv : v ∈ s.lintText file content) :
    v.file = file := by
  obtain ⟨r, -, hv⟩ := List.mem_flatMap.1 hv
  exact (rule_of_mem_validate hv).2

end Settings

/-! ## Trees without links -/

namespace FileTree

variable {t : FileTree} {here there : Location} {names : List String} {n : Nat}

/-- No entry is a link. -/
def LinkFree (t : FileTree) : Prop := ∀ row ∈ t.toList, row.2.target? = none

instance (t : FileTree) : Decidable t.LinkFree :=
  inferInstanceAs (Decidable (∀ row ∈ t.toList, row.2.target? = none))

/-- Without links a walk goes where its names say. -/
theorem Leads.eq_append (hfree : t.LinkFree) (h : t.Leads here names n there)
    (hreal : Location.IsReal names) : there = here ++ names := by
  induction h with
  | done => rw [List.append_nil]
  | up => exact absurd rfl (hreal _ List.mem_cons_self).ne_up
  | stay hstep =>
    have hname := hreal _ List.mem_cons_self
    exact absurd hstep (not_or.2 ⟨hname.ne_empty, hname.ne_dot⟩)
  | enter hname hdir h ih =>
    rw [List.append_cons]
    exact ih fun name hmem => hreal name (List.mem_cons_of_mem _ hmem)
  | reach => rfl
  | follow hname hlink h ih => cases hfree _ (mem_of_entry?_eq (by simp) hlink)

end FileTree

namespace Project

variable {p : Project} {t : FileTree} {path : Path} {id : String} {bytes : List UInt8}

/-- Without links a file that is found and read stands where its path says, below the root. -/
theorem exists_names_of_mem_files (h : t.Sound) (hfree : t.LinkFree)
    (hroot : Location.IsReal p.root) (hpath : path ∈ p.files t)
    (hread : t.read [] path = .ok bytes) :
    ∃ names, names ≠ [] ∧ Location.IsReal names ∧ path = .absolute (p.root ++ names) ∧
      t.locate [] path = .ok ⟨p.root ++ names, some (.file bytes)⟩ := by
  obtain ⟨location, hlocate⟩ := FileTree.read_eq_ok_iff.1 hread
  obtain ⟨here, names, entry, -, hrow, rfl, hfound⟩ := FileTree.mem_filesBelow.1 hpath
  have hnames : Location.IsReal names := h.isReal_below hrow
  have hreal : Location.IsReal (p.root ++ names) :=
    fun name hname => (List.mem_append.1 hname).elim (hroot name) (hnames name)
  obtain ⟨-, -, -, n, -, hleads⟩ := FileTree.locate_eq_ok_iff.1 hlocate
  obtain rfl : location = [] ++ (p.root ++ names) := hleads.eq_append hfree hreal
  exact ⟨names, hfound.ne_nil, hnames, rfl, hlocate⟩

/-- Without links the name under which a file is reported is its path from the root. -/
theorem join_fileId (h : t.Sound) (hfree : t.LinkFree) (hroot : Location.IsReal p.root)
    (hpath : path ∈ p.files t) (hread : t.read [] path = .ok bytes)
    (hid : p.fileId t path = .ok id) : p.rootPath.join (.parse id) = path := by
  have hplain := FileTree.isPlain_of_mem_filesBelow h (isPlain_rootPath hroot) hpath
  obtain ⟨names, -, hnames, rfl, hlocate⟩ :=
    exists_names_of_mem_files h hfree hroot hpath hread
  cases hid.symm.trans (fileId_of_inside (FileTree.resolve_of_locate h hplain hlocate))
  exact join_of_relative hnames

/-- Where a violation stands in a run. -/
def rank (p : Project) (v : Violation) : List String ×ₗ ℕ ×ₗ WithTop ℤ ×ₗ ℕ :=
  toLex ((p.rootPath.join (.parse v.file)).parts, p.settings.spot v)

/-- What a run says of one file. -/
def violationsAt (p : Project) (t : FileTree) (path : Path) : List Violation :=
  match p.lintFile t path with
  | .ok outcome => outcome.violations
  | .error _ => []

theorem violations_of_filesGive {files : List Path} {outcomes : List FileOutcome}
    (hgive : p.FilesGive t files outcomes) :
    outcomes.flatMap (·.violations) = files.flatMap (p.violationsAt t) := by
  induction hgive with
  | nil => rfl
  | cons hfirst _ ih => simp [violationsAt, hfirst, ih]

/-- A run over the whole project says of each of its files what there is to say. -/
theorem violations_of_lint {run : LintResult × List Warning} (hrun : p.lint t [] = .ok run) :
    run.1.violations = (p.files t).flatMap (p.violationsAt t) := by
  obtain ⟨files, outcomes, hfiles, hgive, rfl⟩ := lint_eq_ok_iff.1 hrun
  cases hfiles
  exact violations_of_filesGive hgive

theorem violationsAt_of_read (h : t.Sound) (hplain : path.IsPlain)
    (hread : t.read [] path = .ok bytes) (hid : p.fileId t path = .ok id) :
    p.violationsAt t path = p.settings.lintText id (decodeSource bytes) := by
  obtain ⟨id', hid', hlint⟩ := lintFile_of_read (p := p) h hplain hread
  cases hid.symm.trans hid'
  rw [violationsAt, hlint]
  rfl

/-- What a run says of a file that stands below the root. -/
theorem violationsAt_of_entry (h : t.Sound) {names : List String}
    (hentry : t.entry? (p.root ++ names) = some (.file bytes))
    (hsize : (Path.absolute (p.root ++ names)).toString.utf8ByteSize < FileTree.maxPathBytes) :
    p.violationsAt t (.absolute (p.root ++ names)) =
      p.settings.lintText (Path.mk .relative names).toString (decodeSource bytes) := by
  have hplain : (Path.absolute (p.root ++ names)).IsPlain :=
    (h.isReal_of_entry?_eq hentry).plainNames
  have hlocate := FileTree.locate_absolute h hentry (by simp) hsize []
  exact violationsAt_of_read h hplain (FileTree.read_eq_ok_iff.2 ⟨_, hlocate⟩)
    (fileId_of_inside (FileTree.resolve_of_locate h hplain hlocate))

/-- A run over the whole project says of each wanted file what there is to say of its text. -/
theorem mem_violations_of_entry (h : t.Sound) {dirs : List String} {name : String}
    (hentry : t.entry? (p.root ++ (dirs ++ [name])) = some (.file bytes))
    (hdirs : ∀ dir ∈ dirs, p.settings.enters dir = true) (hname : p.settings.wants name = true)
    (hsize : (Path.absolute (p.root ++ (dirs ++ [name]))).toString.utf8ByteSize <
      FileTree.maxPathBytes)
    {run : LintResult × List Warning} (hrun : p.lint t [] = .ok run) {v : Violation}
    (hv : v ∈ p.settings.lintText (Path.mk .relative (dirs ++ [name])).toString
      (decodeSource bytes)) : v ∈ run.1.violations := by
  have hlint := violationsAt_of_entry h hentry hsize
  rw [Path.absolute, ← List.append_assoc] at hsize
  have hpath := mem_files_of_entry h hentry hdirs hname (Path.size_lt_of_append hsize)
  rw [violations_of_lint hrun]
  exact List.mem_flatMap.2 ⟨_, hpath, by rwa [hlint]⟩

/-- Whatever a run says of a file, it has read the file and linted its text. -/
theorem violationsAt_eq (h : t.Sound) (hplain : path.IsPlain) (hne : p.violationsAt t path ≠ []) :
    ∃ bytes id, t.read [] path = .ok bytes ∧ p.fileId t path = .ok id ∧
      p.violationsAt t path = p.settings.lintText id (decodeSource bytes) := by
  cases hread : t.read [] path with
  | error e =>
    refine absurd ?_ hne
    by_cases hbad : e = .badName
    · simp [violationsAt, lintFile, hread, hbad]
    · simp [violationsAt, lintFile_of_error hread hbad, FileOutcome.violations]
  | ok bytes =>
    obtain ⟨id, hid, -⟩ := lintFile_of_read (p := p) h hplain hread
    exact ⟨bytes, id, rfl, hid, violationsAt_of_read h hplain hread hid⟩

/-- The files of which a run has something to say. -/
def faulty (p : Project) (t : FileTree) : List Path :=
  (p.files t).filter fun path => !(p.violationsAt t path).isEmpty

/-- The name of a file, if it has one. -/
def nameOf (p : Project) (t : FileTree) (path : Path) : String :=
  (p.fileId t path).toOption.getD ""

theorem nameOf_of_fileId (hid : p.fileId t path = .ok id) : p.nameOf t path = id := by
  rw [nameOf, hid]
  rfl

theorem flatMap_filter_isEmpty {α β : Type} (l : List α) (f : α → List β) :
    (l.filter fun a => !(f a).isEmpty).flatMap f = l.flatMap f := by
  induction l with
  | nil => rfl
  | cons a rest ih => by_cases hempty : f a = [] <;> simp [hempty, ih]

theorem mem_faulty_iff : path ∈ p.faulty t ↔ path ∈ p.files t ∧ p.violationsAt t path ≠ [] := by
  simp [faulty]

section

variable (h : t.Sound) (hfree : t.LinkFree) (hroot : Location.IsReal p.root)

include h hfree hroot

/-- A file of which a run has something to say is read back from its name. -/
theorem faulty_spec (hpath : path ∈ p.faulty t) :
    p.rootPath.join (.parse (p.nameOf t path)) = path ∧
      ∃ bytes, t.read [] path = .ok bytes ∧ p.fileId t path = .ok (p.nameOf t path) ∧
        p.violationsAt t path = p.settings.lintText (p.nameOf t path) (decodeSource bytes) := by
  obtain ⟨hmem, hne⟩ := mem_faulty_iff.1 hpath
  have hplain := FileTree.isPlain_of_mem_filesBelow h (isPlain_rootPath hroot) hmem
  obtain ⟨bytes, id, hread, hid, hlint⟩ := violationsAt_eq h hplain hne
  rw [nameOf_of_fileId hid]
  exact ⟨join_fileId h hfree hroot hmem hread hid, bytes, hread, hid, hlint⟩

theorem file_of_mem_violationsAt {v : Violation} (hpath : path ∈ p.faulty t)
    (hv : v ∈ p.violationsAt t path) : v.file = p.nameOf t path := by
  obtain ⟨-, bytes, -, -, hlint⟩ := faulty_spec h hfree hroot hpath
  rw [hlint] at hv
  exact Settings.file_of_mem_lintText hv

theorem pairwise_faulty :
    (p.faulty t).Pairwise fun first second => first.parts < second.parts ∧
      p.nameOf t first ≠ p.nameOf t second := by
  have hsorted : (p.faulty t).Pairwise fun first second => first.parts < second.parts :=
    (FileTree.filesBelow_pairwise h.toWellFormed).filter _
  -- files with one name would be one path, and the paths are in strict order
  refine hsorted.imp_of_mem fun hfirst hsecond hlt => ⟨hlt, fun hname => ?_⟩
  have hpath := (faulty_spec h hfree hroot hfirst).1
  rw [hname, (faulty_spec h hfree hroot hsecond).1] at hpath
  rw [hpath] at hlt
  exact lt_irrefl _ hlt

theorem violations_pairwise :
    ((p.files t).flatMap (p.violationsAt t)).Pairwise fun v w => p.rank v < p.rank w := by
  -- a file without violations may have no name, so it is left out before names are compared
  rw [← flatMap_filter_isEmpty, ← faulty.eq_def, List.pairwise_flatMap]
  constructor
  · intro path hpath
    obtain ⟨-, bytes, -, -, hlint⟩ := faulty_spec h hfree hroot hpath
    rw [hlint]
    refine (p.settings.pairwise_lintText _ _).imp_of_mem fun hv hw hlt => ?_
    rw [rank, rank, Settings.file_of_mem_lintText hv, Settings.file_of_mem_lintText hw,
      Prod.Lex.toLex_lt_toLex]
    exact .inr ⟨rfl, hlt⟩
  · refine (pairwise_faulty h hfree hroot).imp_of_mem fun hfirst hsecond hlt v hv w hw => ?_
    rw [rank, rank, file_of_mem_violationsAt h hfree hroot hfirst hv,
      file_of_mem_violationsAt h hfree hroot hsecond hw, (faulty_spec h hfree hroot hfirst).1,
      (faulty_spec h hfree hroot hsecond).1, Prod.Lex.toLex_lt_toLex]
    exact .inl hlt.1

theorem groupBy_violations :
    groupBy (·.file) ((p.files t).flatMap (p.violationsAt t)) =
      (p.faulty t).map fun path => (p.nameOf t path, p.violationsAt t path) := by
  rw [← flatMap_filter_isEmpty, ← faulty.eq_def,
    groupBy_flatMap (fun path hpath v hv => file_of_mem_violationsAt h hfree hroot hpath hv)
      ((pairwise_faulty h hfree hroot).imp And.right)]
  congr 1
  rw [List.filter_eq_self]
  intro path hpath
  simpa using (mem_faulty_iff.1 hpath).2

end

/-- Without links a run over a whole project reports its violations in strict order, and by file
each file with a violation once, with what the rules say of its text. -/
theorem lint_in_order {t : FileTree} {cwd : Location} {settings : Settings} {root : Path}
    {p : Project} (h : t.Sound) (hfree : t.LinkFree) (hcwd : Location.IsReal cwd)
    (hroot : root.IsPlain) (hopen : Project.open? t cwd settings root = .ok p) :
    ∃ r warnings, p.lint t [] = .ok (r, warnings) ∧
      (r.violations.Pairwise fun v w => p.rank v < p.rank w) ∧
      (∀ v ∈ r.violations, p.rootPath.join (.parse v.file) ∈ p.files t) ∧
      r.violations.Nodup ∧
      r.violations = r.byFile.flatMap (·.2) ∧
      (r.byFile.map (·.1)).Nodup ∧
      ∀ id found, (id, found) ∈ r.byFile ↔ found ≠ [] ∧
        ∃ path ∈ p.files t, ∃ bytes, t.read [] path = .ok bytes ∧ p.fileId t path = .ok id ∧
          found = p.settings.lintText id (decodeSource bytes) := by
  have hreal : Location.IsReal p.root := isReal_root h hcwd hroot hopen
  have htop := isPlain_rootPath hreal
  obtain ⟨r, warnings, hrun⟩ := exists_lint (p := p) h hreal
  have hviolations : r.violations = (p.files t).flatMap (p.violationsAt t) :=
    violations_of_lint hrun
  have hbyFile : r.byFile =
      (p.faulty t).map fun path => (p.nameOf t path, p.violationsAt t path) := by
    rw [LintResult.byFile, hviolations]
    exact groupBy_violations h hfree hreal
  have hsorted := violations_pairwise h hfree hreal
  refine ⟨r, warnings, hrun, ?_⟩
  rw [hbyFile, hviolations]
  refine ⟨hsorted, ?_, hsorted.imp fun hlt he => ?_, ?_, ?_, fun id found => ?_⟩
  · intro v hv
    rw [← flatMap_filter_isEmpty] at hv
    obtain ⟨path, hpath, hv⟩ := List.mem_flatMap.1 hv
    rw [file_of_mem_violationsAt h hfree hreal hpath hv, (faulty_spec h hfree hreal hpath).1]
    exact (mem_faulty_iff.1 hpath).1
  · rw [he] at hlt
    exact lt_irrefl _ hlt
  · rw [List.flatMap_map]
    exact (flatMap_filter_isEmpty _ _).symm
  · rw [List.map_map, List.nodup_iff_pairwise_ne, List.pairwise_map]
    exact (pairwise_faulty h hfree hreal).imp And.right
  · rw [List.mem_map]
    constructor
    · rintro ⟨path, hpath, hpair⟩
      obtain ⟨-, bytes, hread, hid, hlint⟩ := faulty_spec h hfree hreal hpath
      obtain ⟨rfl, rfl⟩ := Prod.mk.inj hpair
      exact ⟨(mem_faulty_iff.1 hpath).2, path, (mem_faulty_iff.1 hpath).1, bytes, hread, hid, hlint⟩
    · rintro ⟨hne, path, hpath, bytes, hread, hid, rfl⟩
      have hplain := FileTree.isPlain_of_mem_filesBelow h htop hpath
      have hlint := violationsAt_of_read h hplain hread hid
      rw [← hlint] at hne
      exact ⟨path, mem_faulty_iff.2 ⟨hpath, hne⟩, by rw [nameOf_of_fileId hid, hlint]⟩

/-- A project in which the order of the components differs from the order of the texts. -/
def nestedTree : FileTree :=
  ⟨[(#["proj"], .directory), (#["proj", "a-b"], .directory), (#["proj", "a"], .directory),
    (#["proj", "a-b", "x.ts"], .file requireBytes), (#["proj", "a", "x.ts"], .file requireBytes)]⟩

theorem requireCall_mem_nestedTree {run : LintResult × List Warning}
    (hrun : sampleProject.lint nestedTree [] = .ok run) :
    ∀ file ∈ ["a/x.ts", "a-b/x.ts"], requireCall file ∈ run.1.violations := by
  have hfound : ∀ dir ∈ ["a", "a-b"],
      requireCall (Path.mk .relative ([dir] ++ ["x.ts"])).toString ∈ run.1.violations := by
    intro dir hdir
    have hentry : ∀ dir ∈ ["a", "a-b"],
        nestedTree.entry? (sampleProject.root ++ ([dir] ++ ["x.ts"])) =
          some (.file requireBytes) := by decide
    have hsize : ∀ dir ∈ ["a", "a-b"],
        (Path.absolute (sampleProject.root ++ ([dir] ++ ["x.ts"]))).toString.utf8ByteSize <
          FileTree.maxPathBytes := by decide
    have henters : ∀ dir ∈ ["a", "a-b"], sampleProject.settings.enters dir = true := by decide
    exact mem_violations_of_entry (by decide) (hentry dir hdir) (by simpa using henters dir hdir)
      (by decide) (hsize dir hdir) hrun (Settings.requireCall_mem_lintText rfl _)
  intro file hfile
  simp only [List.mem_cons, List.not_mem_nil, or_false] at hfile
  rcases hfile with rfl | rfl
  · exact hfound "a" (by decide)
  · exact hfound "a-b" (by decide)

theorem lint_nested_in_order :
    ∃ r warnings, sampleProject.lint nestedTree [] = .ok (r, warnings) ∧
      (∀ file ∈ ["a/x.ts", "a-b/x.ts"], requireCall file ∈ r.violations) ∧
      (r.violations.Pairwise fun v w => sampleProject.rank v < sampleProject.rank w) ∧
      r.violations.Nodup := by
  have hroot : nestedTree.locate [] (.absolute ["proj"]) = .ok ⟨["proj"], some .directory⟩ :=
    FileTree.locate_absolute (by decide) (by decide) (by simp) (by decide) []
  have hopen : Project.open? nestedTree [] {} (.absolute ["proj"]) = .ok sampleProject :=
    open?_of_locate (by decide) (by decide) hroot
  obtain ⟨r, warnings, hrun, hsorted, -, hnodup, -⟩ :=
    lint_in_order (by decide) (by decide) (by decide) (by decide) hopen
  exact ⟨r, warnings, hrun, requireCall_mem_nestedTree hrun, hsorted, hnodup⟩

end Project

end LineLint
