import LineLint.Proofs.CommandSteps
import LineLint.Proofs.ConfigLoading
import LineLint.Proofs.Messages

/-!
# Configurations that cannot be used

A command that finds its configuration file unusable says so and ends with two, if the fault is one
that a message is made of and that message can be shown. Otherwise it crashes. Main statement:
`Command.faults_reported`.
-/

namespace LineLint.Command

variable {env : Environment} {t : FileTree} {s : Session} {request : Request} {root : Location}
  {e : LoadError} {source : Path} {fault : ConfigFault}

/-! ## Messages -/

/-- What is said about a configuration file can be shown, all of it and its start alone. -/
structure Shown (source : Path) (fault : ConfigFault) : Prop where
  message : ∃ lines, Screen.failure (LoadError.configMessage source fault) = .ok lines
  preamble : ∃ lines, Screen.failure (LoadError.configPreamble source) = .ok lines

theorem shown_of_plain (hcall : '(' ∉ (LoadError.configMessage source fault).toList)
    (hclose : ¬['[', '/'] <:+: (LoadError.configMessage source fault).toList) :
    Shown source fault := by
  have hstart : (LoadError.configPreamble source).toList <:+:
      (LoadError.configMessage source fault).toList := by
    refine List.IsPrefix.isInfix ⟨' ' :: fault.message.toList, ?_⟩
    simp only [LoadError.configMessage, toString, String.toList_append, List.append_assoc]
    rfl
  exact ⟨Screen.failure_eq_ok hcall hclose, Screen.failure_eq_ok
    (fun hmem => hcall (hstart.subset hmem)) fun hwithin => hclose (hwithin.trans hstart)⟩

/-! ## Endings -/

/-- How a command ends whose settings cannot be loaded. -/
inductive EndsOn : LoadError → Ending → Prop
  | reported {source : Path} {fault : ConfigFault} (h : Shown source fault) :
      EndsOn (.config source fault) (.finished 2)
  | hidden {source : Path} {fault : ConfigFault} {e : Markup.MarkupError}
      (h : ¬Shown source fault) : EndsOn (.config source fault) (.crashed (.markup e))
  | unreported {e : LoadError} (h : ∀ source fault, e ≠ .config source fault) :
      EndsOn e (.crashed (.load e))

theorem EndsOn.exitCode_eq_two_iff {ending : Ending} (h : EndsOn e ending) :
    ending.exitCode = 2 ↔ ∃ source fault, e = .config source fault ∧ Shown source fault := by
  cases h with
  | @reported source fault h => exact iff_of_true rfl ⟨source, fault, rfl, h⟩
  | @hidden source fault _ h =>
    refine iff_of_false (by simp [Ending.exitCode]) ?_
    rintro ⟨_, _, heq, hshown⟩
    cases heq
    exact h hshown
  | unreported h =>
    refine iff_of_false (by simp [Ending.exitCode]) ?_
    rintro ⟨source, fault, heq, -⟩
    exact h source fault heq

theorem EndsOn.eq_crashed {cause : AccessError} {ending : Ending}
    (h : EndsOn (.access cause) ending) : ending = .crashed (.load (.access cause)) := by
  cases h
  rfl

namespace Run

theorem refuseConfig_fails {α : Type} (source : Path) (fault : ConfigFault)
    (hs : s.undecoded = false) :
    ∃ ending s', (refuseConfig source fault : Run α).run s = (.error ending, s') ∧
      EndsOn (.config source fault) ending := by
  delta refuseConfig
  cases hmessage : Screen.failure (LoadError.configMessage source fault) with
  | error e =>
    refine ⟨_, s, rfl, .hidden fun h => ?_⟩
    obtain ⟨lines, hlines⟩ := h.message
    cases hmessage.symm.trans hlines
  | ok lines =>
    delta refuse
    cases hpreamble : Screen.failure (LoadError.configPreamble source) with
    | error e =>
      refine ⟨_, s, rfl, .hidden fun h => ?_⟩
      obtain ⟨lines, hlines⟩ := h.preamble
      cases hpreamble.symm.trans hlines
    | ok shown =>
      exact ⟨_, _, run_bind_ok (run_display_ok rfl (Session.all_encodes hs _)),
        .reported ⟨⟨lines, hmessage⟩, ⟨shown, hpreamble⟩⟩⟩

theorem openProject_fails (choice : ProjectChoice) (hs : s.undecoded = false)
    (hroot : s.tree.resolve env.cwd (choice.directory.getD (.absolute env.cwd)) = .ok root)
    (hload : Settings.load configRoom s.tree env.cwd choice.config (.absolute root) = .error e) :
    ∃ ending s', (openProject env choice).run s = (.error ending, s') ∧ EndsOn e ending := by
  rw [openProject, run_bind_ok (run_look hroot), run_bind_ok run_get, hload]
  cases e with
  | config source fault => exact refuseConfig_fails source fault hs
  | _ => exact ⟨_, s, rfl, .unreported (by simp)⟩

end Run

/-! ## Commands -/

/-- The project that a request is about. -/
def Request.projectChoice : Request → ProjectChoice
  | lint _ choice _ _ => choice
  | checkFile _ choice _ => choice
  | triage choice _ _ => choice
  | rules choice => choice

/-- Nothing keeps a request from looking at its configuration: its format is known, and its files
are there. -/
def Request.Reaches (env : Environment) (t : FileTree) : Request → Prop
  | lint targets _ format _ =>
    format ∈ ["text", "json"] ∧ ∀ target ∈ targets, Run.Stands env t target
  | checkFile file _ format => format ∈ ["text", "json"] ∧ t.isFile env.cwd file = .ok true
  | triage _ _ _ => True
  | rules _ => True

namespace Run

variable {α β γ : Type}

/-- Where the first steps end a command, the second end it in the same way. -/
def Starts (x : Run α) (y : Run β) : Prop :=
  ∀ s ending s', x.run s = (.error ending, s') → y.run s = (.error ending, s')

theorem starts_bind (x : Run α) (f : α → Run β) : Starts x (x >>= f) :=
  fun _ _ _ => run_bind_error

theorem Starts.bind {x : Run α} {f : α → Run β} {g : α → Run γ} (h : ∀ a, Starts (f a) (g a)) :
    Starts (x >>= f) (x >>= g) := by
  intro s ending s' hrun
  rw [run_bind] at hrun ⊢
  cases hfirst : x.run s with
  | mk found s'' =>
    rw [hfirst] at hrun
    cases found with
    | ok a => exact h a s'' ending s' hrun
    | error e =>
      cases hrun
      rfl

/-- The steps of a request up to its project. -/
def enter (env : Environment) : Request → Run Project
  | .lint targets choice format _ => do
    let _ ← readFormat format
    let _ ← resolveTargets env targets
    openProject env choice
  | .checkFile file choice format => do
    let _ ← readFormat format
    if !(← look fun t => t.isFile env.cwd file) then refuse s!"No such file: {file}"
    openProject env choice
  | .triage choice _ _ => do
    display (.ok Screen.banner)
    openProject env choice
  | .rules choice => openProject env choice

theorem starts_enter (env : Environment) (request : Request) :
    Starts (enter env request) (ofRequest env request) := by
  cases request with
  | lint targets choice format output =>
    rw [enter, ofRequest, lint]
    exact Starts.bind fun _ => Starts.bind fun _ => starts_bind _ _
  | checkFile file choice format =>
    rw [enter, ofRequest, checkFile]
    refine Starts.bind fun _ => Starts.bind fun found => ?_
    cases found with
    | true => exact starts_bind _ _
    | false => exact Starts.bind fun _ => starts_bind _ _
  | triage choice limit reports =>
    rw [enter, ofRequest, triage]
    exact Starts.bind fun _ => starts_bind _ _
  | rules choice =>
    rw [enter, ofRequest, rules]
    exact starts_bind _ _

theorem enter_fails (hreach : request.Reaches env t)
    (hroot : t.resolve env.cwd (request.projectChoice.directory.getD (.absolute env.cwd)) =
      .ok root)
    (hload : Settings.load configRoom t env.cwd request.projectChoice.config (.absolute root) =
      .error e) :
    ∃ ending s, (enter env request).run { tree := t } = (.error ending, s) ∧ EndsOn e ending := by
  cases request with
  | lint targets choice format output =>
    obtain ⟨hformat, htargets⟩ := hreach
    obtain ⟨_, hread⟩ := run_readFormat (s := { tree := t }) hformat
    obtain ⟨_, hfound⟩ := run_resolveTargets (s := { tree := t }) htargets
    rw [enter, run_bind_ok hread, run_bind_ok hfound]
    exact openProject_fails choice rfl hroot hload
  | checkFile file choice format =>
    obtain ⟨hformat, hfile⟩ := hreach
    obtain ⟨_, hread⟩ := run_readFormat (s := { tree := t }) hformat
    have hlook : (look fun t => t.isFile env.cwd file).run { tree := t } =
        (.ok true, { tree := t }) := run_look hfile
    rw [enter, run_bind_ok hread, run_bind_ok hlook]
    exact openProject_fails choice rfl hroot hload
  | triage choice limit reports =>
    have hbanner : (display (.ok Screen.banner)).run { tree := t } =
        (.ok (), { tree := t, lines := Screen.banner }) := rfl
    rw [enter, run_bind_ok hbanner]
    exact openProject_fails choice rfl hroot hload
  | rules choice => exact openProject_fails choice rfl hroot hload

end Run

/-- A request that does not get to its project ends there. -/
theorem perform_of_enter {ending : Ending}
    (h : (Run.enter env request).run { tree := t } = (.error ending, s)) :
    perform env t request = ⟨ending, s⟩ := by
  rw [perform, Run.starts_enter env request _ _ _ h]

/-- A command that looks at its configuration in vain goes no further. -/
theorem perform_fails (hreach : request.Reaches env t)
    (hroot : t.resolve env.cwd (request.projectChoice.directory.getD (.absolute env.cwd)) =
      .ok root)
    (hload : Settings.load Run.configRoom t env.cwd request.projectChoice.config (.absolute root) =
      .error e) : EndsOn e (perform env t request).ending := by
  obtain ⟨ending, s, henter, hends⟩ := Run.enter_fails hreach hroot hload
  rwa [perform_of_enter henter]

/-! ## Faults -/

/-- What becomes of faults in configuration files. -/
structure FaultsReported (t : FileTree) : Prop where
  /-- A configuration file that has been chosen can be read. -/
  readable : ∀ {cwd search config source}, Settings.Chosen t cwd search config source →
    ∃ bytes, t.read [] source = .ok bytes
  /-- Loading it gives settings, or a fault that names it, unless some other fault escapes. -/
  loaded_iff : ∀ {room cwd search config source bytes},
    Settings.Chosen t cwd search config source → t.read [] source = .ok bytes →
    (((∃ s, Settings.load room t cwd config search = .ok (s, [])) ∨
      ∃ fault, Settings.load room t cwd config search = .error (.config source fault)) ↔
      ∀ e, ¬Settings.Escapes room bytes e)
  /-- A fault that escapes is what comes of loading. -/
  escapes : ∀ {room cwd search config source bytes e},
    Settings.Chosen t cwd search config source → t.read [] source = .ok bytes →
    Settings.Escapes room bytes e → Settings.load room t cwd config search = .error e
  /-- A command that looks at a file that cannot be used ends there. It ends with two if and only if
  the fault names the file and what is said about it can be shown. -/
  ends : ∀ {env words request root source e}, Request.parse words = .ok request →
    request.Reaches env t →
    t.resolve env.cwd (request.projectChoice.directory.getD (.absolute env.cwd)) = .ok root →
    Settings.Chosen t env.cwd (.absolute root) request.projectChoice.config source →
    Settings.load Run.configRoom t env.cwd request.projectChoice.config (.absolute root) =
      .error e →
    EndsOn e (run env t words).ending ∧
      ((run env t words).ending.exitCode = 2 ↔
        ∃ fault, e = .config source fault ∧ Shown source fault)
  /-- It can be shown if it holds no parenthesis and no bracket in it is followed by a slash. -/
  shown : ∀ {source fault}, '(' ∉ (LoadError.configMessage source fault).toList →
    ¬['[', '/'] <:+: (LoadError.configMessage source fault).toList → Shown source fault

/-- Faults in configuration files are reported, apart from those that escape. -/
theorem faults_reported (t : FileTree) : FaultsReported t := by
  refine ⟨fun hchosen => hchosen.exists_read,
    fun hchosen hread => Settings.load_reported_iff hchosen hread _,
    fun hchosen hread hescapes => Settings.load_of_escapes hchosen hread hescapes, ?_,
    shown_of_plain⟩
  intro env words request root source e hwords hreach hroot hchosen hload
  have hends : EndsOn e (run env t words).ending := by
    rw [run, hwords]
    exact perform_fails hreach hroot hload
  refine ⟨hends, hends.exitCode_eq_two_iff.trans ?_⟩
  obtain ⟨bytes, hread⟩ := hchosen.exists_read
  constructor
  · rintro ⟨other, fault, rfl, hshown⟩
    cases Settings.source_of_load hchosen hread hload
    exact ⟨fault, rfl, hshown⟩
  · rintro ⟨fault, heq, hshown⟩
    exact ⟨source, fault, heq, hshown⟩

/-! ## A project with a configuration file -/

/-- A project that holds nothing but a configuration file. -/
def configuredTree (bytes : List UInt8) : FileTree :=
  ⟨[(#["proj"], .directory), (#["proj", "goldenlint.yaml"], .file bytes)]⟩

def configuredEnv : Environment where
  cwd := ["proj"]
  home := ⟨.slash, []⟩
  now := { year := 2026, month := 1, day := 1 }

section

variable {bytes : List UInt8} (h : (configuredTree bytes).Sound)

include h

theorem resolve_configuredTree :
    (configuredTree bytes).resolve ["proj"] (.absolute ["proj"]) = .ok ["proj"] := by
  have hdir : FileTree.entry? (configuredTree bytes) ["proj"] = some .directory := rfl
  exact FileTree.resolve_of_locate h (by decide)
    (FileTree.locate_absolute h hdir (by simp) (by decide) _)

theorem read_configuredTree :
    (configuredTree bytes).read [] (.absolute ["proj", "goldenlint.yaml"]) = .ok bytes := by
  have hentry : FileTree.entry? (configuredTree bytes) ["proj", "goldenlint.yaml"] =
      some (.file bytes) := rfl
  exact FileTree.read_eq_ok_iff.2
    ⟨_, FileTree.locate_absolute h hentry (by simp) (by decide) _⟩

theorem chosen_configuredTree : Settings.Chosen (configuredTree bytes) ["proj"]
    (.absolute ["proj"]) none (.absolute ["proj", "goldenlint.yaml"]) := by
  have hfile : (configuredTree bytes).isFile [] (.absolute ["proj", "goldenlint.yaml"]) =
      .ok true := FileTree.isFile_eq_true_iff.2 ⟨bytes, read_configuredTree h⟩
  refine .nearest (resolve_configuredTree h) ?_
  have hhere : Settings.configIn (configuredTree bytes) ["proj"] =
      .ok (some (.absolute ["proj", "goldenlint.yaml"])) := by
    simp [Settings.configIn, Settings.configNames, hfile, bind, Except.bind, pure, Except.pure]
  simp [Settings.findConfig, Settings.searchUp, hhere, bind, Except.bind, pure, Except.pure]

end

/-- A document that is one letter is no mapping. -/
theorem load_letter : Settings.load Run.configRoom (configuredTree [0x61]) ["proj"] none
    (.absolute ["proj"]) =
      .error (.config (.absolute ["proj", "goldenlint.yaml"]) .notMapping) := by
  have hsound : (configuredTree [0x61]).Sound := by decide
  have hbytes := read_configuredTree hsound
  have hdecode : Text.Utf8.decode? [0x61] = some ['a'] := by decide
  have hletter : (Yaml.read Run.configRoom (Text.unifyBreaks ['a'])).toOption.any
      (fun content => Settings.isFieldName content.value && !content.value.isBlank) = true := by
    decide +kernel
  rw [Settings.load_of_chosen (chosen_configuredTree hsound) hbytes]
  cases hread : Yaml.read Run.configRoom (Text.unifyBreaks ['a']) with
  | error fault =>
    rw [hread] at hletter
    cases hletter
  | ok content =>
    rw [hread, Except.toOption, Option.any_some, Bool.and_eq_true] at hletter
    rw [Settings.ofConfig_of_not_map hdecode hread (by simpa using hletter.2)]
    · rfl
    · intro entries hmap
      rw [hmap] at hletter
      cases hletter.1

theorem faults_reported_letter :
    (run configuredEnv (configuredTree [0x61]) ["rules"]).ending.exitCode = 2 := by
  have hsound : (configuredTree [0x61]).Sound := by decide +kernel
  have hwords : Request.parse ["rules"] = .ok (.rules {}) := by decide +kernel
  have hfaults := faults_reported (configuredTree [0x61])
  have hshown : Shown (.absolute ["proj", "goldenlint.yaml"]) .notMapping :=
    hfaults.shown (by decide +kernel) (by decide +kernel)
  have hends : _ ∧
      ((run configuredEnv (configuredTree [0x61]) ["rules"]).ending.exitCode = 2 ↔ _) :=
    hfaults.ends hwords trivial (resolve_configuredTree hsound) (chosen_configuredTree hsound)
      load_letter
  exact hends.2.2 ⟨_, rfl, hshown⟩

/-- A file whose bytes are no text makes a command crash. -/
theorem undecodable_crashes :
    Settings.Chosen (configuredTree [0xff]) ["proj"] (.absolute ["proj"]) none
        (.absolute ["proj", "goldenlint.yaml"]) ∧
      Settings.load Run.configRoom (configuredTree [0xff]) ["proj"] none (.absolute ["proj"]) =
        .error .undecodable ∧
      (run configuredEnv (configuredTree [0xff]) ["rules"]).ending =
        .crashed (.load .undecodable) ∧
      (run configuredEnv (configuredTree [0xff]) ["rules"]).ending.exitCode = 1 := by
  have hsound : (configuredTree [0xff]).Sound := by decide +kernel
  have hwords : Request.parse ["rules"] = .ok (.rules {}) := by decide +kernel
  have hchosen := chosen_configuredTree hsound
  have hbytes := read_configuredTree hsound
  have hload : Settings.load Run.configRoom (configuredTree [0xff]) ["proj"] none
      (.absolute ["proj"]) = .error .undecodable :=
    Settings.load_of_escapes hchosen hbytes (.encoding (by decide +kernel))
  have hends : EndsOn .undecodable
      (run configuredEnv (configuredTree [0xff]) ["rules"]).ending := by
    rw [run, hwords]
    exact perform_fails trivial (resolve_configuredTree hsound) hload
  have hending : (run configuredEnv (configuredTree [0xff]) ["rules"]).ending =
      .crashed (.load .undecodable) := by
    generalize (run configuredEnv (configuredTree [0xff]) ["rules"]).ending = ending at hends ⊢
    cases hends
    rfl
  refine ⟨hchosen, hload, hending, ?_⟩
  rw [hending]
  rfl

end LineLint.Command
