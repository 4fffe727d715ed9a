import LineLint.Proofs.LinkFree
import LineLint.Proofs.Matchers
import LineLint.Proofs.Reported
import LineLint.Proofs.Splices

/-!
# What a manifest is

Discovery tells a manifest by the name of an entry, and the rules tell it by the last component of
the name under which the file is reported, once slashes stand for backslashes. Without links and
without backslashes in the names of files both agree. Main statement: `Project.manifests_agree`.
-/

namespace LineLint

/-! ## The last component of a name -/

theorem Path.components_append_slash (first second : List Char) :
    components (first ++ '/' :: second) = components first ++ components second := by
  rw [components, Text.cut_append_separator, List.filter_append]
  rfl

theorem Path.components_of_isName {name : String} (hname : IsName name) :
    components name.toList = [name.toList] := by
  have hplain : PlainNames [name] :=
    List.forall_mem_singleton.2 ⟨hname.ne_empty, hname.ne_dot, hname.no_slash⟩
  simpa [List.intercalate] using components_intercalate hplain

/-- Whatever stands before its last slash, a text that ends in a name denotes a path that ends in
this name. -/
theorem Path.name_parse {front : List Char} {name : String} (hname : IsName name) :
    (parse (String.ofList (front ++ '/' :: name.toList))).name = name := by
  simp [Path.name, parse, components_append_slash, components_of_isName hname]

namespace Classifier

variable {c : Classifier} {dirs : List String} {name : String}

theorem toList_withSlashes (file : String) : (withSlashes file).toList =
    file.toList.map fun c => if c = '\\' then '/' else c :=
  String.toList_ofList

/-- A name without backslashes stays as it is. -/
theorem map_slashes_eq_self {text : List Char} (hback : '\\' ∉ text) :
    (text.map fun c => if c = '\\' then '/' else c) = text := by
  conv_rhs => rw [← List.map_id text]
  refine List.map_congr_left fun c hc => if_neg ?_
  rintro rfl
  exact hback hc

/-- A file below some directories is reported by a name whose last component is the name of the
file, although a backslash in the name of a directory counts as one more slash. -/
theorem name_parse_withSlashes (hname : IsName name) (hback : '\\' ∉ name.toList) :
    (Path.parse (withSlashes (Path.mk .relative (dirs ++ [name])).toString)).name = name := by
  have htext : (Path.mk .relative (dirs ++ [name])).toString.toList =
      Text.glue '/' ((dirs ++ [name]).map String.toList) := by
    simp [Path.toString, Text.intercalate_eq_glue]
  by_cases hdirs : dirs = []
  · subst hdirs
    have hself : withSlashes (Path.mk .relative ([] ++ [name])).toString = name := by
      refine String.toList_inj.1 ?_
      rw [toList_withSlashes, htext]
      exact map_slashes_eq_self hback
    rw [hself, Path.parse_of_isName hname]
    rfl
  · have hglue : Text.glue '/' ((dirs ++ [name]).map String.toList) =
        Text.glue '/' (dirs.map String.toList) ++ '/' :: name.toList := by
      rw [List.map_append]
      exact Text.glue_append (by simpa using hdirs) (List.cons_ne_nil _ _)
    rw [withSlashes, htext, hglue, List.map_append, List.map_cons, map_slashes_eq_self hback,
      if_neg (by decide)]
    exact Path.name_parse hname

theorem isManifest_iff (hname : IsName name) (hback : '\\' ∉ name.toList) :
    c.isManifest (Path.mk .relative (dirs ++ [name])).toString = true ↔
      name ∈ c.manifestNames := by
  rw [isManifest, name_parse_withSlashes hname hback, List.contains_iff_mem]

end Classifier

namespace Settings

variable {s : Settings} {file content : String} {r : Rule} {c : Check} {v : Violation}

theorem mem_texts {names : List ChosenName} {name : String} :
    name ∈ ChosenName.texts names ↔ .text name ∈ names := by
  rw [ChosenName.texts, List.mem_filterMap]
  constructor
  · rintro ⟨chosen, hchosen, htext⟩
    cases chosen with
    | text other =>
      cases htext
      exact hchosen
    | broken codes => cases htext
  · intro hname
    exact ⟨.text name, hname, rfl⟩

/-! ## The advice on manifests -/

/-- The check for the type of modules, the last of its rule. -/
def moduleCheck (s : Settings) : FileCheck where
  requirement := fun content => Rules.Deprecation.moduleType.search content.toList
  advice := Rules.Deprecation.manifestAdvice
  gate := fun file _ => s.classifier.isManifest file

theorem deprecation_checks : (Rules.deprecation s.classifier).checks =
    (Rules.Deprecation.replacements.map fun row =>
      .line { test := .literal row.1, advice := ⟨Rules.Deprecation.message row.1, row.2⟩ }) ++
      [.file s.moduleCheck] := rfl

/-- No other check gives this advice. -/
theorem eq_moduleCheck (hr : r ∈ s.allRules) (hc : c ∈ r.checks)
    (hmessage : c.advice.message = Rules.Deprecation.manifestAdvice.message) :
    r = Rules.deprecation s.classifier ∧ c = .file s.moduleCheck := by
  have hneedles : ∀ row ∈ Rules.Deprecation.replacements,
      Rules.Deprecation.message row.1 ≠ Rules.Deprecation.manifestAdvice.message := by decide
  have hflags : Rules.Deprecation.manifestAdvice.message ∉
      (Rules.bunFlags s.classifier).checks.map (·.advice.message) := by
    simp only [Rules.bunFlags, List.map_cons, List.map_nil, Check.advice]
    decide
  have hconfiguration : Rules.Deprecation.manifestAdvice.message ∉
      (Rules.configuration (ChosenName.texts s.schemaLibraries)).checks.map
        (·.advice.message) := by
    simp only [Rules.configuration, List.map_cons, List.map_nil, Check.advice]
    decide
  simp only [allRules, catalogue, List.map_cons, List.map_nil, List.mem_cons, List.not_mem_nil,
    or_false] at hr
  rcases hr with rfl | rfl | rfl
  · exact absurd (List.mem_map.2 ⟨c, hc, hmessage⟩) hflags
  · exact absurd (List.mem_map.2 ⟨c, hc, hmessage⟩) hconfiguration
  · rw [deprecation_checks] at hc
    rcases List.mem_append.1 hc with hc | hc
    · obtain ⟨row, hrow, rfl⟩ := List.mem_map.1 hc
      exact absurd hmessage (hneedles row hrow)
    · exact ⟨rfl, List.mem_singleton.1 hc⟩

theorem deprecation_mem_activeRules :
    Rules.deprecation s.classifier ∈ s.activeRules ↔ s.rules.deprecation = true := by
  rw [activeRules, List.mem_map]
  constructor
  · rintro ⟨entry, hentry, hrule⟩
    obtain ⟨hentry, henabled⟩ := List.mem_filter.1 hentry
    have hname : entry.rule.name = "Stay Updated" := congrArg Rule.name hrule
    simp only [catalogue, List.mem_cons, List.not_mem_nil, or_false] at hentry
    rcases hentry with rfl | rfl | rfl
    · exact absurd hname (by simp [Rules.bunFlags])
    · exact absurd hname (by simp [Rules.configuration])
    · exact henabled
  · intro henabled
    exact ⟨⟨"stay_updated", Rules.deprecation s.classifier, s.rules.deprecation⟩,
      List.mem_filter.2 ⟨by simp [catalogue], henabled⟩, rfl⟩

/-- A manifest is reported for its type of modules exactly if the rule runs, the text is not empty,
and nowhere in it the type is declared. -/
theorem exists_manifestAdvice_iff :
    (∃ v ∈ s.lintText file content,
        v.message = Rules.Deprecation.manifestAdvice.message) ↔
      s.rules.deprecation = true ∧ s.classifier.isManifest file = true ∧ content ≠ "" ∧
        ¬Rules.Deprecation.DeclaresModules content.toList := by
  rw [← deprecation_mem_activeRules, ← Rules.Deprecation.search_moduleType,
    Bool.not_eq_true]
  constructor
  · rintro ⟨v, hv, hmessage⟩
    obtain ⟨r, hr, hv⟩ := List.mem_flatMap.1 hv
    rw [Rule.validate_eq_map_findings] at hv
    obtain ⟨f, hf, rfl⟩ := List.mem_map.1 hv
    obtain ⟨hcontent, hfinds⟩ := Rule.mem_findings.1 hf
    have hall : r ∈ s.allRules := (List.filter_sublist.map _).subset hr
    cases hfinds with
    | line hrow =>
      obtain ⟨-, hcheck⟩ := eq_moduleCheck hall (List.mem_of_getElem? hrow) hmessage
      cases hcheck
    | file hrow hgate hunmet =>
      obtain ⟨rfl, hcheck⟩ := eq_moduleCheck hall (List.mem_of_getElem? hrow) hmessage
      cases hcheck
      exact ⟨hr, hgate, hcontent, hunmet⟩
  · rintro ⟨hr, hmanifest, hcontent, hunmet⟩
    have hrow : (Rules.deprecation s.classifier).checks[Rules.Deprecation.replacements.length]? =
        some (.file s.moduleCheck) := rfl
    let f : Finding := ⟨.file s.moduleCheck, Rules.Deprecation.replacements.length, none⟩
    have hfinds : (Rules.deprecation s.classifier).Finds file content f :=
      .file hrow hmanifest hunmet
    refine ⟨(Rules.deprecation s.classifier).tell file f, List.mem_flatMap.2 ⟨_, hr, ?_⟩, rfl⟩
    rw [Rule.validate_eq_map_findings]
    exact List.mem_map_of_mem (Rule.mem_findings.2 ⟨hcontent, hfinds⟩)

end Settings

/-- No file has a name with a backslash. -/
def FileTree.LacksBackslashes (t : FileTree) : Prop :=
  ∀ row ∈ t.toList, isFileEntry row.2 = true → ∀ name ∈ row.1.getLast?, '\\' ∉ name.toList

instance (t : FileTree) : Decidable t.LacksBackslashes :=
  inferInstanceAs (Decidable (∀ row ∈ t.toList, FileTree.isFileEntry row.2 = true →
    ∀ name ∈ row.1.getLast?, '\\' ∉ name.toList))

namespace Project

variable {p : Project} {t : FileTree} {path : Path} {names : List String} {bytes : List UInt8}

/-- A file that is found and has the name of a manifest, and whose text is not empty and nowhere
declares the type of its modules. -/
structure LacksModuleType (p : Project) (t : FileTree) (path : Path) : Prop where
  found : path ∈ p.files t
  named : .text path.name ∈ p.settings.manifestNames
  text : ∃ bytes, t.read [] path = .ok bytes ∧ decodeSource bytes ≠ "" ∧
    ¬Rules.Deprecation.DeclaresModules (decodeSource bytes).toList

theorem name_absolute_concat (front : Location) (name : String) :
    (Path.absolute (front ++ [name])).name = name := by
  simp [Path.name, Path.absolute]

theorem fileId_of_file (h : t.Sound) (hfree : t.LinkFree)
    (hentry : t.entry? (p.root ++ names) = some (.file bytes)) :
    p.fileId t (.absolute (p.root ++ names)) = .ok (Path.mk .relative names).toString := by
  have hreal := h.isReal_of_entry?_eq hentry
  refine fileId_of_inside ?_
  rw [FileTree.resolve_eq hfree fun name hname => (hreal name hname).no_null,
    FileTree.placeOf_absolute hreal]

theorem isPlain_relative (h : t.Sound)
    (hentry : t.entry? (p.root ++ names) = some (.file bytes)) :
    (Path.mk .relative names).IsPlain := by
  intro name hname
  exact (h.isReal_of_entry?_eq hentry).plainNames name (List.mem_append_right _ hname)

/-- Discovery and the rules agree on whether a file below the root is a manifest. -/
theorem isManifest_fileId (h : t.Sound) (hback : t.LacksBackslashes) (hne : names ≠ [])
    (hentry : t.entry? (p.root ++ names) = some (.file bytes)) :
    .text (Path.absolute (p.root ++ names)).name ∈ p.settings.manifestNames ↔
      p.settings.classifier.isManifest (Path.mk .relative names).toString = true := by
  obtain ⟨dirs, name, rfl⟩ := (List.eq_nil_or_concat' names).resolve_left hne
  rw [← List.append_assoc] at hentry ⊢
  have hrow := FileTree.mem_of_entry?_eq (by simp) hentry
  have hname := h.isReal_of_entry?_eq hentry name (by simp)
  have hplain : '\\' ∉ name.toList := hback _ hrow rfl name (by simp)
  rw [name_absolute_concat, Classifier.isManifest_iff hname hplain, ← Settings.mem_texts]
  rfl

/-- Whatever a run says is said of the text of a file that stands below the root. -/
theorem exists_file_of_mem {v : Violation} (h : t.Sound) (hfree : t.LinkFree)
    (hroot : Location.IsReal p.root) (hv : v ∈ (p.files t).flatMap (p.violationsAt t)) :
    ∃ names bytes, names ≠ [] ∧ t.entry? (p.root ++ names) = some (.file bytes) ∧
      .absolute (p.root ++ names) ∈ p.files t ∧
      t.read [] (.absolute (p.root ++ names)) = .ok bytes ∧
      v ∈ p.settings.lintText (Path.mk .relative names).toString (decodeSource bytes) := by
  obtain ⟨path, hpath, hv⟩ := List.mem_flatMap.1 hv
  have hplain := FileTree.isPlain_of_mem_filesBelow h (isPlain_rootPath hroot) hpath
  obtain ⟨bytes, id, hread, hid, hlint⟩ := violationsAt_eq h hplain (List.ne_nil_of_mem hv)
  obtain ⟨names, hne, -, rfl, hlocate⟩ := exists_names_of_mem_files h hfree hroot hpath hread
  have hentry : t.entry? (p.root ++ names) = some (.file bytes) :=
    FileTree.entry?_of_locate hlocate
  cases hid.symm.trans (fileId_of_file h hfree hentry)
  rw [hlint] at hv
  exact ⟨names, bytes, hne, hentry, hpath, hread, hv⟩

/-- A file below the root is reported for its type of modules exactly if the rule runs and the file
is a manifest that is found and lacks the type. -/
theorem exists_reported_iff (h : t.Sound) (hfree : t.LinkFree) (hback : t.LacksBackslashes)
    (hroot : Location.IsReal p.root) (hne : names ≠ [])
    (hentry : t.entry? (p.root ++ names) = some (.file bytes)) :
    (∃ v ∈ (p.files t).flatMap (p.violationsAt t), v.file = (Path.mk .relative names).toString ∧
        v.message = Rules.Deprecation.manifestAdvice.message) ↔
      p.settings.rules.deprecation = true ∧
        p.LacksModuleType t (.absolute (p.root ++ names)) := by
  have hagree := isManifest_fileId (p := p) h hback hne hentry
  constructor
  · rintro ⟨v, hv, hfile, hmessage⟩
    obtain ⟨others, content, -, hother, hfound, hread, hv⟩ := exists_file_of_mem h hfree hroot hv
    -- the name of the violation tells which file it is about
    have hnames : (⟨.relative, others⟩ : Path) = ⟨.relative, names⟩ := by
      refine Path.toString_inj (isPlain_relative h hother) (isPlain_relative h hentry) ?_
      exact (Settings.file_of_mem_lintText hv).symm.trans hfile
    cases hnames
    obtain ⟨hruns, hmanifest, hcontent, hunmet⟩ :=
      Settings.exists_manifestAdvice_iff.1 ⟨v, hv, hmessage⟩
    exact ⟨hruns, hfound, hagree.2 hmanifest, content, hread, hcontent, hunmet⟩
  · rintro ⟨hruns, hfound, hnamed, content, hread, hcontent, hunmet⟩
    obtain ⟨v, hv, hmessage⟩ :=
      Settings.exists_manifestAdvice_iff.2 ⟨hruns, hagree.1 hnamed, hcontent, hunmet⟩
    have hplain := FileTree.isPlain_of_mem_filesBelow h (isPlain_rootPath hroot) hfound
    have hsaid := violationsAt_of_read h hplain hread (fileId_of_file h hfree hentry)
    exact ⟨v, List.mem_flatMap.2 ⟨_, hfound, hsaid.symm ▸ hv⟩, Settings.file_of_mem_lintText hv,
      hmessage⟩

/-- In a tree without links, if no file has a backslash in its name, discovery and the rules agree
on what a manifest is. A run reports exactly the manifests that it finds and whose text, if there
is any, nowhere declares the type of its modules, and it reports them if and only if the rule
about deprecated interfaces runs; whatever it says is said of a file below the root. -/
theorem manifests_agree {cwd : Location} {settings : Settings} {root : Path} (h : t.Sound)
    (hfree : t.LinkFree) (hback : t.LacksBackslashes) (hcwd : Location.IsReal cwd)
    (hroot : root.IsPlain) (hopen : Project.open? t cwd settings root = .ok p) :
    ∃ r warnings, p.lint t [] = .ok (r, warnings) ∧
      (∀ names bytes, names ≠ [] → t.entry? (p.root ++ names) = some (.file bytes) →
        ∃ id, p.fileId t (.absolute (p.root ++ names)) = .ok id ∧
          (.text (Path.absolute (p.root ++ names)).name ∈ settings.manifestNames ↔
            settings.classifier.isManifest id = true) ∧
          ((∃ v ∈ r.violations, v.file = id ∧
              v.message = Rules.Deprecation.manifestAdvice.message) ↔
            settings.rules.deprecation = true ∧
              p.LacksModuleType t (.absolute (p.root ++ names)))) ∧
      ∀ v ∈ r.violations, ∃ names bytes, names ≠ [] ∧
        t.entry? (p.root ++ names) = some (.file bytes) ∧
        p.fileId t (.absolute (p.root ++ names)) = .ok v.file := by
  have hreal : Location.IsReal p.root := isReal_root h hcwd hroot hopen
  obtain ⟨-, hproject⟩ := open?_eq_ok_iff.1 hopen
  obtain rfl : settings = p.settings := by rw [hproject]
  obtain ⟨r, warnings, hrun⟩ := exists_lint (p := p) h hreal
  have hviolations : r.violations = (p.files t).flatMap (p.violationsAt t) :=
    violations_of_lint hrun
  refine ⟨r, warnings, hrun, ?_, ?_⟩
  · intro names bytes hne hentry
    refine ⟨_, fileId_of_file h hfree hentry, isManifest_fileId h hback hne hentry, ?_⟩
    rw [hviolations]
    exact exists_reported_iff h hfree hback hreal hne hentry
  · intro v hv
    rw [hviolations] at hv
    obtain ⟨names, bytes, hne, hentry, -, -, hv⟩ := exists_file_of_mem h hfree hreal hv
    refine ⟨names, bytes, hne, hentry, ?_⟩
    rw [Settings.file_of_mem_lintText hv]
    exact fileId_of_file h hfree hentry

/-- A project with a manifest in a directory whose name holds a backslash. -/
def manifestTree : FileTree :=
  ⟨[(#["proj"], .directory), (#["proj", "lib\\old"], .directory),
    (#["proj", "lib\\old", "package.json"], .file [0x7b, 0x7d, 0x0a])]⟩

theorem mem_files_manifestTree :
    .absolute ["proj", "lib\\old", "package.json"] ∈ sampleProject.files manifestTree := by
  have hentry : manifestTree.entry? (sampleProject.root ++ (["lib\\old"] ++ ["package.json"])) =
      some (.file [0x7b, 0x7d, 0x0a]) := by decide
  exact mem_files_of_entry (by decide) hentry (by decide) (by decide) (by decide +kernel)

theorem manifests_agree_backslash :
    manifestTree.Sound ∧ manifestTree.LinkFree ∧ manifestTree.LacksBackslashes ∧
      ∃ r warnings id, sampleProject.lint manifestTree [] = .ok (r, warnings) ∧
        sampleProject.fileId manifestTree (.absolute ["proj", "lib\\old", "package.json"]) =
          .ok id ∧
        sampleProject.settings.classifier.isManifest id = true ∧
        ∃ v ∈ r.violations, v.file = id ∧
          v.message = Rules.Deprecation.manifestAdvice.message := by
  have hroot : manifestTree.locate [] (.absolute ["proj"]) = .ok ⟨["proj"], some .directory⟩ :=
    FileTree.locate_absolute (by decide) (by decide) (by simp) (by decide) []
  have hopen : Project.open? manifestTree [] {} (.absolute ["proj"]) = .ok sampleProject :=
    open?_of_locate (by decide) (by decide) hroot
  have hsound : manifestTree.Sound := by decide
  have hfree : manifestTree.LinkFree := by decide
  have hback : manifestTree.LacksBackslashes := by decide
  have hentry : manifestTree.entry? ["proj", "lib\\old", "package.json"] =
      some (.file [0x7b, 0x7d, 0x0a]) := by decide
  have hread : manifestTree.read [] (.absolute ["proj", "lib\\old", "package.json"]) =
      .ok [0x7b, 0x7d, 0x0a] := FileTree.read_eq_ok_iff.2
    ⟨_, FileTree.locate_absolute hsound hentry (by simp) (by decide) []⟩
  have hunmet : ¬Rules.Deprecation.DeclaresModules
      (decodeSource [0x7b, 0x7d, 0x0a]).toList := by
    rw [← Rules.Deprecation.search_moduleType]
    decide +kernel
  obtain ⟨r, warnings, hrun, hfiles, -⟩ :=
    manifests_agree hsound hfree hback (by decide) (by decide) hopen
  obtain ⟨id, hid, hmanifest, hreported⟩ :=
    hfiles ["lib\\old", "package.json"] [0x7b, 0x7d, 0x0a] (by simp) hentry
  refine ⟨hsound, hfree, hback, r, warnings, id, hrun, hid, hmanifest.1 (by decide), ?_⟩
  exact hreported.2 ⟨rfl, mem_files_manifestTree, by decide, _, hread, by decide +kernel, hunmet⟩

end Project

end LineLint
