import LineLint.Proofs.RunOrder

/-!
# Switching rules off

A rule that is switched off takes its own violations out of a run and changes nothing else: no file
is found, read, named or warned of differently. Main statement: `Settings.toggles_filter`.
-/

namespace LineLint

namespace Settings

variable {s : Settings} {file content : String} {entries : List CatalogueEntry}

/-! ## Texts -/

/-- The same settings with all rules switched on. -/
def withAllRules (s : Settings) : Settings :=
  { s with rules := { bunFlags := true, configuration := true, deprecation := true } }

/-- The names of the rules that are switched on, in the order of the catalogue. -/
def activeNames (s : Settings) : List String :=
  (s.catalogue.filter (·.enabled)).map (·.rule.name)

/-- Whether a violation is of a rule that is switched on. -/
def keeps (s : Settings) (v : Violation) : Bool := s.activeNames.contains v.rule

theorem contains_activeNames {entry : CatalogueEntry} (hentry : entry ∈ s.catalogue) :
    s.activeNames.contains entry.rule.name = entry.enabled := by
  have hnames : (s.catalogue.map (·.rule.name)).Nodup := by
    simpa [allRules, Function.comp_def] using s.nodup_names
  rw [Bool.eq_iff_iff, activeNames, List.contains_iff_mem, List.mem_map]
  constructor
  · rintro ⟨other, hother, hname⟩
    obtain ⟨hmem, henabled⟩ := List.mem_filter.1 hother
    rwa [← List.inj_on_of_nodup_map hnames hmem hentry hname]
  · intro henabled
    exact ⟨entry, List.mem_filter.2 ⟨hentry, henabled⟩, rfl⟩

/-- The rules that are switched on say what is left of all rules when those of the others are taken
out. -/
theorem flatMap_enabled (keep : String → Bool)
    (hkeep : ∀ entry ∈ entries, keep entry.rule.name = entry.enabled) :
    ((entries.filter (·.enabled)).map (·.rule)).flatMap (·.validate file content) =
      ((entries.map (·.rule)).flatMap (·.validate file content)).filter (keep ·.rule) := by
  induction entries with
  | nil => rfl
  | cons entry rest ih =>
    rw [List.forall_mem_cons] at hkeep
    have hrest := ih hkeep.2
    rw [List.map_cons, List.flatMap_cons, List.filter_append, ← hrest]
    cases henabled : entry.enabled with
    | true =>
      have hall : (entry.rule.validate file content).filter (keep ·.rule) =
          entry.rule.validate file content := by
        rw [List.filter_eq_self]
        intro v hv
        rw [(rule_of_mem_validate hv).1, hkeep.1, henabled]
      simp [henabled, hall]
    | false =>
      have hnone : (entry.rule.validate file content).filter (keep ·.rule) = [] := by
        rw [List.filter_eq_nil_iff]
        intro v hv
        rw [(rule_of_mem_validate hv).1, hkeep.1, henabled]
        simp
      simp [henabled, hnone]

theorem lintText_eq_filter (s : Settings) (file content : String) :
    s.lintText file content = (s.withAllRules.lintText file content).filter s.keeps :=
  flatMap_enabled s.activeNames.contains fun _ hentry => contains_activeNames hentry

end Settings

namespace Project

variable {s : Settings} {root : Location} {t : FileTree} {path : Path} {paths : List Path}

/-! ## Runs -/

/-- An outcome without the violations that are not kept. -/
def FileOutcome.restrict (keep : Violation → Bool) : FileOutcome → FileOutcome
  | unreadable path => unreadable path
  | linted violations => linted (violations.filter keep)

/-- A result without the violations of the rules that are switched off. -/
def restrictTo (s : Settings) (r : LintResult) : LintResult :=
  { r with violations := r.violations.filter s.keeps, timedRules := s.activeNames }

theorem targets_withAllRules :
    (Project.mk s.withAllRules root).targets t paths = (Project.mk s root).targets t paths := by
  cases paths with
  | nil => rfl
  | cons path rest => rfl

theorem lintFile_restrict :
    (Project.mk s root).lintFile t path =
      ((Project.mk s.withAllRules root).lintFile t path).map (FileOutcome.restrict s.keeps) := by
  have hid : (Project.mk s.withAllRules root).fileId t path =
      (Project.mk s root).fileId t path := rfl
  rw [lintFile, lintFile, hid]
  cases t.read [] path with
  | error e => cases e <;> rfl
  | ok bytes =>
    cases hname : (Project.mk s root).fileId t path with
    | error e => rfl
    | ok id =>
      simp only [bind, Except.bind, pure, Except.pure, Except.map, FileOutcome.restrict]
      rw [Settings.lintText_eq_filter]

theorem warning?_restrict (keep : Violation → Bool) (outcome : FileOutcome) :
    (outcome.restrict keep).warning? = outcome.warning? := by
  cases outcome <;> rfl

theorem lintFiles_restrict :
    (Project.mk s root).lintFiles t paths =
      ((Project.mk s.withAllRules root).lintFiles t paths).map
        (List.map (FileOutcome.restrict s.keeps)) := by
  induction paths with
  | nil => rfl
  | cons path rest ih =>
    rw [lintFiles, lintFiles, lintFile_restrict, ih]
    cases (Project.mk s.withAllRules root).lintFile t path with
    | error e => rfl
    | ok outcome =>
      cases (Project.mk s.withAllRules root).lintFiles t rest with
      | error f => simp [Except.map, warning?_restrict]
      | ok outcomes => rfl

theorem resultOf_restrict (outcomes : List FileOutcome) :
    (Project.mk s root).resultOf (outcomes.map (FileOutcome.restrict s.keeps)) =
      restrictTo s ((Project.mk s.withAllRules root).resultOf outcomes) := by
  have hviolations : (outcomes.map (FileOutcome.restrict s.keeps)).flatMap (·.violations) =
      (outcomes.flatMap (·.violations)).filter s.keeps := by
    induction outcomes with
    | nil => rfl
    | cons outcome rest ih =>
      rw [List.map_cons, List.flatMap_cons, List.flatMap_cons, List.filter_append, ih]
      cases outcome <;> rfl
  have hscanned : (outcomes.map (FileOutcome.restrict s.keeps)).countP (·.scanned) =
      outcomes.countP (·.scanned) := by
    rw [List.countP_map]
    congr 1
    funext outcome
    cases outcome <;> rfl
  have hnames : s.activeRules.map (·.name) = s.activeNames := by
    rw [Settings.activeRules, List.map_map]
    rfl
  simp only [resultOf, restrictTo, hviolations, hscanned, hnames]
  rfl

theorem lint_restrict :
    (Project.mk s root).lint t paths =
      ((Project.mk s.withAllRules root).lint t paths).map fun run =>
        (restrictTo s run.1, run.2) := by
  rw [lint, lint, targets_withAllRules]
  cases (Project.mk s root).targets t paths with
  | error e => rfl
  | ok files =>
    have hfiles : (Project.mk s root).lintFiles t files = _ := lintFiles_restrict
    cases hall : (Project.mk s.withAllRules root).lintFiles t files with
    | error f => simp [Except.mapError, bind, Except.bind, hfiles, hall, Except.map]
    | ok outcomes =>
      simp [Except.mapError, bind, Except.bind, hfiles, hall, Except.map, pure, Except.pure,
        resultOf_restrict, warning?_restrict]

end Project

/-- Switching rules off takes their violations out of what is said of a text and of any run, and a
run then names the rules that are left. Whatever else comes of a run stays the same, its failure
included, and so does the root. -/
theorem Settings.toggles_filter (s : Settings) :
    (∀ file content, s.lintText file content =
      (s.withAllRules.lintText file content).filter fun v => s.activeNames.contains v.rule) ∧
    (∀ t cwd top, Project.open? t cwd s top =
      (Project.open? t cwd s.withAllRules top).map fun p => { p with settings := s }) ∧
    (∀ root t paths, (Project.mk s root).lint t paths =
      ((Project.mk s.withAllRules root).lint t paths).map fun run =>
        ({ run.1 with
          violations := run.1.violations.filter fun v => s.activeNames.contains v.rule
          timedRules := s.activeNames }, run.2)) := by
  refine ⟨s.lintText_eq_filter, ?_, fun _ _ _ => Project.lint_restrict⟩
  intro t cwd top
  rw [Project.open?, Project.open?]
  cases t.resolve cwd top <;> rfl

end LineLint
