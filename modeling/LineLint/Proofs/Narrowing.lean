import LineLint.Proofs.Patterns
import LineLint.Proofs.RunOrder

/-!
# Narrower settings find less

Settings are narrower than others if they enable no more rules, want fewer files, take fewer of them
for server code or manifests, look into fewer directories, and know more schema libraries. Every
setting then works in one direction, in the gates of the rules as in the search for files. Main
statement: `Project.lint_sublist_of_narrower`, what a run finds under narrower settings it finds
under the wider ones, in the same order.
-/

namespace LineLint

/-! ## Rules whose gates are open more often -/

/-- Two rows of a table that differ at most in their gates, of which the second is open for a file
whenever the first is. -/
inductive Check.Widens (file content : String) : Check → Check → Prop
  | line {c : LineCheck} {gate : Gate}
      (h : c.gate file content = true → gate file content = true) :
      Widens file content (.line c) (.line { c with gate })
  | file {c : FileCheck} {gate : Gate}
      (h : c.gate file content = true → gate file content = true) :
      Widens file content (.file c) (.file { c with gate })

theorem Check.Widens.refl (file content : String) (c : Check) : c.Widens file content c := by
  cases c with
  | line c => exact .line id
  | file c => exact .file id

/-- Two rules that differ at most in the gates of their rows, which are open more often in the
second. -/
structure Rule.Widens (file content : String) (r r' : Rule) : Prop where
  name : r.name = r'.name
  comments : r.comments = r'.comments
  severity : r.severity = r'.severity
  checks : List.Forall₂ (Check.Widens file content) r.checks r'.checks

namespace Rule

variable {r r' : Rule} {file content : String}

theorem violation_congr (h : Rule.Widens file content r r') {advice : Advice} {line : Option ℤ} :
    r.violation file advice line = r'.violation file advice line := by
  simp [violation, h.name, h.severity]

/-- The rows of a table that hold are told by at least the same violations of a wider table. -/
theorem map_filter_sublist {checks checks' : List Check} {holds holds' : Check → Bool}
    {tell tell' : Check → Violation} (h : List.Forall₂ (Check.Widens file content) checks checks')
    (hholds : ∀ c c', c.Widens file content c' → holds c = true →
      holds' c' = true ∧ tell c = tell' c') :
    ((checks.filter holds).map tell).Sublist ((checks'.filter holds').map tell') := by
  induction h with
  | nil => exact .slnil
  | @cons c c' rest rest' hfirst _ ih =>
    cases hc : holds c with
    | false =>
      rw [List.filter_cons_of_neg (by simp [hc])]
      exact ih.trans ((List.sublist_cons_self c' rest').filter _ |>.map _)
    | true =>
      obtain ⟨hc', htell⟩ := hholds c c' hfirst hc
      rw [List.filter_cons_of_pos hc, List.filter_cons_of_pos hc', List.map_cons, List.map_cons,
        htell]
      exact ih.cons_cons _

theorem validate_sublist (h : Rule.Widens file content r r') :
    (r.validate file content).Sublist (r'.validate file content) := by
  rw [validate, validate]
  split
  · exact .slnil
  simp only [lineViolations_eq, fileViolations_eq]
  refine .append (.flatMap_right _ fun line _ => map_filter_sublist h.checks ?_)
    (map_filter_sublist h.checks ?_)
  · rintro c c' (⟨hgate⟩ | ⟨hgate⟩) hholds
    · simp only [reportsLine, Bool.and_eq_true, LineCheck.reports, h.comments] at hholds ⊢
      obtain ⟨⟨hopen, hcode⟩, hreports⟩ := hholds
      exact ⟨⟨⟨hgate hopen, hcode⟩, hreports⟩, violation_congr h⟩
    · cases hholds
  · rintro c c' (⟨hgate⟩ | ⟨hgate⟩) hholds
    · cases hholds
    · simp only [reportsFile, Bool.and_eq_true] at hholds ⊢
      exact ⟨⟨hgate hholds.1, hholds.2⟩, violation_congr h⟩

end Rule

/-! ## Each rule -/

namespace Classifier

/-- Fewer markers and fewer names of manifests. -/
structure Narrower (c c' : Classifier) : Prop where
  markers : c.serverMarkers ⊆ c'.serverMarkers
  manifests : c.manifestNames ⊆ c'.manifestNames

variable {c c' : Classifier} {file : String}

theorem Narrower.isServer (h : c.Narrower c') (hfile : c.isServer file = true) :
    c'.isServer file = true := by
  rw [Classifier.isServer, Text.containsAny, List.any_eq_true] at hfile ⊢
  obtain ⟨marker, hmarker, hcontains⟩ := hfile
  exact ⟨marker, h.markers hmarker, hcontains⟩

theorem Narrower.isManifest (h : c.Narrower c') (hfile : c.isManifest file = true) :
    c'.isManifest file = true := by
  rw [Classifier.isManifest, List.contains_iff_mem] at hfile ⊢
  exact h.manifests hfile

end Classifier

namespace Rules

variable {c c' : Classifier} {libraries libraries' : List String} {file content : String}

theorem widens_bunFlags (h : c.Narrower c') :
    Rule.Widens file content (bunFlags c) (bunFlags c') := by
  refine ⟨rfl, rfl, rfl, .cons (.line id) (.cons (.line fun hgate => ?_)
    (.cons (.line h.isManifest) .nil))⟩
  simp only [BunFlags.serverWithoutPreconnect, Bool.and_eq_true] at hgate ⊢
  exact ⟨h.isServer hgate.1, hgate.2⟩

theorem Configuration.usesSchemaLibrary_mono (h : libraries ⊆ libraries')
    (huses : usesSchemaLibrary libraries content = true) :
    usesSchemaLibrary libraries' content = true := by
  refine Pattern.search_mono (fun before taken after hmatch => ?_) huses
  refine Pattern.matches_sequence_mono (.cons (fun _ _ _ => id) (.cons (fun _ _ _ hname => ?_)
    (.cons (fun _ _ _ => id) .nil))) hmatch
  rw [Pattern.matches_anyOf] at hname ⊢
  obtain ⟨name, hmem, hname⟩ := hname
  exact ⟨name, List.map_subset _ h hmem, hname⟩

theorem widens_configuration (h : libraries' ⊆ libraries) :
    Rule.Widens file content (configuration libraries) (configuration libraries') := by
  refine ⟨rfl, rfl, rfl, .cons (.line id) (.cons (.line fun hgate => ?_) .nil)⟩
  rw [Bool.not_eq_true'] at hgate ⊢
  exact Bool.eq_false_iff.2 fun huses =>
    Bool.eq_false_iff.1 hgate (Configuration.usesSchemaLibrary_mono h huses)

theorem widens_deprecation (h : c.Narrower c') :
    Rule.Widens file content (deprecation c) (deprecation c') :=
  ⟨rfl, rfl, rfl, List.rel_append (List.forall₂_same.2 fun check _ => .refl file content check)
    (.cons (.file h.isManifest) .nil)⟩

end Rules

/-! ## Settings -/

/-- Settings under which less is looked at and less is reported. -/
structure Settings.Narrower (s s' : Settings) : Prop where
  bunFlags : s.rules.bunFlags = true → s'.rules.bunFlags = true
  configuration : s.rules.configuration = true → s'.rules.configuration = true
  deprecation : s.rules.deprecation = true → s'.rules.deprecation = true
  extensions : s.extensions ⊆ s'.extensions
  manifestNames : s.manifestNames ⊆ s'.manifestNames
  serverPathMarkers : s.serverPathMarkers ⊆ s'.serverPathMarkers
  excludeDirs : s'.excludeDirs ⊆ s.excludeDirs
  schemaLibraries : s'.schemaLibraries ⊆ s.schemaLibraries

namespace Settings

variable {s s' : Settings} {file content name : String}

theorem texts_subset {names names' : List ChosenName} (h : names ⊆ names') :
    ChosenName.texts names ⊆ ChosenName.texts names' :=
  List.filterMap_subset _ h

theorem Narrower.classifier (h : s.Narrower s') : s.classifier.Narrower s'.classifier :=
  ⟨texts_subset h.serverPathMarkers, texts_subset h.manifestNames⟩

theorem Narrower.wants (h : s.Narrower s') (hname : s.wants name = true) :
    s'.wants name = true := by
  simp only [Settings.wants, Bool.or_eq_true, List.contains_iff_mem] at hname ⊢
  exact hname.imp (h.manifestNames ·) (h.extensions ·)

theorem Narrower.enters (h : s.Narrower s') (hname : s.enters name = true) :
    s'.enters name = true := by
  simp only [Settings.enters, Bool.not_eq_true', ← Bool.not_eq_true, List.contains_iff_mem]
    at hname ⊢
  exact fun hmem => hname (h.excludeDirs hmem)

/-- What the enabled entries of a catalogue say is part of what those of another say, if each entry
enables no more and says no more. -/
theorem flatMap_enabled_sublist {entries entries' : List CatalogueEntry}
    (h : List.Forall₂ (fun e e' => (e.enabled = true → e'.enabled = true) ∧
      Rule.Widens file content e.rule e'.rule) entries entries') :
    (((entries.filter (·.enabled)).map (·.rule)).flatMap (·.validate file content)).Sublist
      (((entries'.filter (·.enabled)).map (·.rule)).flatMap (·.validate file content)) := by
  induction h with
  | nil => exact .slnil
  | @cons e e' rest rest' hfirst _ ih =>
    cases he : e.enabled with
    | false =>
      rw [List.filter_cons_of_neg (by simp [he])]
      exact ih.trans (((List.sublist_cons_self e' rest').filter _ |>.map _).flatMap _)
    | true =>
      rw [List.filter_cons_of_pos he, List.filter_cons_of_pos (hfirst.1 he)]
      exact (Rule.validate_sublist hfirst.2).append ih

theorem lintText_sublist (h : s.Narrower s') (file content : String) :
    (s.lintText file content).Sublist (s'.lintText file content) :=
  flatMap_enabled_sublist (.cons ⟨h.bunFlags, Rules.widens_bunFlags h.classifier⟩
    (.cons ⟨h.configuration, Rules.widens_configuration (texts_subset h.schemaLibraries)⟩
      (.cons ⟨h.deprecation, Rules.widens_deprecation h.classifier⟩ .nil)))

end Settings

/-! ## Runs -/

namespace FileTree

variable {t : FileTree} {cwd : Location} {top : Path}
  {enters enters' wanted wanted' : String → Bool}

/-- More directories and more names give more files, in the same order. -/
theorem filesBelow_sublist (h : t.WellFormed)
    (henters : ∀ name, enters name = true → enters' name = true)
    (hwanted : ∀ name, wanted name = true → wanted' name = true) :
    (t.filesBelow cwd top enters wanted).Sublist (t.filesBelow cwd top enters' wanted') := by
  have hsubset : t.filesBelow cwd top enters wanted ⊆ t.filesBelow cwd top enters' wanted' := by
    intro path hpath
    obtain ⟨here, names, entry, hlocate, hrow, hat, hfound⟩ := mem_filesBelow.1 hpath
    exact mem_filesBelow.2 ⟨here, names, entry, hlocate, hrow, hat, hfound.ne_nil,
      fun name hname => henters name (hfound.entered name hname),
      fun name hname => hwanted name (hfound.wanted_last name hname),
      hfound.not_directory, hfound.opened⟩
  -- both lists are in one strict order, so being contained is being a part
  have hsubperm := List.subperm_of_subset (nodup_filesBelow h) hsubset
  have : Std.Antisymm fun p q : Path => p.parts < q.parts :=
    ⟨fun p q hpq hqp => absurd hqp (lt_asymm hpq)⟩
  exact List.sublist_of_subperm_of_pairwise hsubperm (filesBelow_pairwise h)
    (filesBelow_pairwise h)

end FileTree

namespace Project

variable {t : FileTree} {path : Path} {s s' : Settings} {root : Location}

theorem violationsAt_sublist (hs : s.Narrower s') (h : t.Sound) (hplain : path.IsPlain) :
    ((Project.mk s root).violationsAt t path).Sublist
      ((Project.mk s' root).violationsAt t path) := by
  by_cases hne : (Project.mk s root).violationsAt t path = []
  · rw [hne]
    exact List.nil_sublist _
  · obtain ⟨bytes, id, hread, hid, hfound⟩ := violationsAt_eq h hplain hne
    -- the name of a file does not depend on the settings
    have hid' : (Project.mk s' root).fileId t path = .ok id := hid
    rw [hfound, violationsAt_of_read h hplain hread hid']
    exact Settings.lintText_sublist hs _ _

theorem files_sublist (hs : s.Narrower s') (h : t.Sound) :
    ((Project.mk s root).files t).Sublist ((Project.mk s' root).files t) :=
  FileTree.filesBelow_sublist h.toWellFormed (fun _ => hs.enters) fun _ => hs.wants

/-- The files that are scanned are those that can be read. -/
theorem scanned_of_filesGive {p : Project} {files : List Path} {outcomes : List FileOutcome}
    (hgive : p.FilesGive t files outcomes) :
    outcomes.countP (·.scanned) = files.countP fun path => (t.read [] path).isOk := by
  induction hgive with
  | nil => rfl
  | @cons path outcome _ _ hfirst _ ih =>
    have hscanned : outcome.scanned = (t.read [] path).isOk := by
      rcases lintFile_cases hfirst with ⟨bytes, id, hread, -, rfl⟩ | ⟨⟨e, hread⟩, rfl⟩
      · rw [hread]
        rfl
      · rw [hread]
        rfl
    rw [List.countP_cons, List.countP_cons, ih, hscanned]

/-- What a run over a project finds under narrower settings is part of what it finds under wider
ones, in the same order, and it scans no more files. -/
theorem lint_sublist_of_narrower {cwd : Location} {top : Path} {p : Project} (hs : s.Narrower s')
    (h : t.Sound) (hcwd : Location.IsReal cwd) (htop : top.IsPlain)
    (hopen : Project.open? t cwd s top = .ok p) :
    ∃ p' r warnings r' warnings', Project.open? t cwd s' top = .ok p' ∧
      p.lint t [] = .ok (r, warnings) ∧ p'.lint t [] = .ok (r', warnings') ∧
      r.violations.Sublist r'.violations ∧ r.filesScanned ≤ r'.filesScanned := by
  have hreal : Location.IsReal p.root := isReal_root h hcwd htop hopen
  obtain ⟨settings, root⟩ := p
  obtain ⟨hresolve, rfl⟩ := open?_eq_ok_iff.1 hopen
  have hplain := isPlain_rootPath hreal
  obtain ⟨outcomes, hgive⟩ := exists_filesGive_filesIn (p := ⟨s, root⟩) h hplain
  obtain ⟨outcomes', hgive'⟩ := exists_filesGive_filesIn (p := ⟨s', root⟩) h hplain
  refine ⟨⟨s', root⟩, _, _, _, _, open?_eq_ok_iff.2 ⟨hresolve, rfl⟩,
    lint_eq_ok_iff.2 ⟨_, _, rfl, hgive, rfl⟩, lint_eq_ok_iff.2 ⟨_, _, rfl, hgive', rfl⟩, ?_, ?_⟩
  · change (outcomes.flatMap (·.violations)).Sublist (outcomes'.flatMap (·.violations))
    rw [violations_of_filesGive hgive, violations_of_filesGive hgive']
    refine (List.Sublist.flatMap_right _ fun path hpath => ?_).trans
      ((files_sublist hs h).flatMap _)
    exact violationsAt_sublist hs h (FileTree.isPlain_of_mem_filesBelow h hplain hpath)
  · change ((outcomes.countP (·.scanned) : ℕ) : ℤ) ≤ (outcomes'.countP (·.scanned) : ℕ)
    rw [scanned_of_filesGive hgive, scanned_of_filesGive hgive']
    exact_mod_cast (files_sublist hs h).countP_le

/-- Settings that look into one directory less and leave out a rule. -/
def narrowSettings : Settings where
  excludeDirs := "a" :: ({} : Settings).excludeDirs
  rules := { configuration := false }

theorem lint_nested_narrower :
    ∃ p' r warnings r' warnings', Project.open? nestedTree [] {} (.absolute ["proj"]) = .ok p' ∧
      (Project.mk narrowSettings ["proj"]).lint nestedTree [] = .ok (r, warnings) ∧
      p'.lint nestedTree [] = .ok (r', warnings') ∧
      requireCall "a-b/x.ts" ∈ r.violations ∧ requireCall "a/x.ts" ∈ r'.violations ∧
      r.violations.Sublist r'.violations ∧ r.filesScanned ≤ r'.filesScanned := by
  have hsound : nestedTree.Sound := by decide
  have hnarrower : narrowSettings.Narrower {} := by
    constructor <;> decide
  have hroot : nestedTree.locate [] (.absolute ["proj"]) = .ok ⟨["proj"], some .directory⟩ :=
    FileTree.locate_absolute hsound (by decide) (by simp) (by decide) []
  have hopen : Project.open? nestedTree [] narrowSettings (.absolute ["proj"]) =
      .ok ⟨narrowSettings, ["proj"]⟩ := open?_of_locate hsound (by decide) hroot
  obtain ⟨p', r, warnings, r', warnings', hopen', hlint, hlint', hsub, hscanned⟩ :=
    lint_sublist_of_narrower hnarrower hsound (by decide) (by decide) hopen
  have hsample : p' = sampleProject :=
    Except.ok.inj (hopen'.symm.trans (open?_of_locate hsound (by decide) hroot))
  have hentry : nestedTree.entry? (["proj"] ++ (["a-b"] ++ ["x.ts"])) =
      some (.file requireBytes) := by decide
  have hfound : requireCall "a-b/x.ts" ∈ r.violations :=
    mem_violations_of_entry (p := ⟨narrowSettings, ["proj"]⟩) hsound hentry (by decide) (by decide)
      (by decide) hlint (Settings.requireCall_mem_lintText rfl _)
  have hfound' : requireCall "a/x.ts" ∈ r'.violations :=
    requireCall_mem_nestedTree (hsample ▸ hlint') _ (by decide)
  exact ⟨p', r, warnings, r', warnings', hopen', hlint, hlint', hfound, hfound', hsub, hscanned⟩

end Project

end LineLint
