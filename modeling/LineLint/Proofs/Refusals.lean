import LineLint.Proofs.ConfigFaults
import LineLint.Proofs.Outputs
import LineLint.Proofs.Unseen

/-!
# Requests that cannot be met

A format that is not known, a file that is not there and a configuration that cannot be used are all
found before anything is written. Main statement: `Command.guarded_run`.
-/

namespace LineLint

/-- No name of a path is too long to be one of a file, and neither is the path. -/
structure Path.IsShort (p : Path) : Prop where
  names : ∀ name ∈ p.parts, name.utf8ByteSize ≤ FileTree.maxNameBytes
  whole : p.toString.utf8ByteSize < FileTree.maxPathBytes

instance (p : Path) : Decidable p.IsShort :=
  decidable_of_iff ((∀ name ∈ p.parts, name.utf8ByteSize ≤ FileTree.maxNameBytes) ∧
    p.toString.utf8ByteSize < FileTree.maxPathBytes) ⟨fun h => ⟨h.1, h.2⟩, fun h => ⟨h.1, h.2⟩⟩

/-- A path does not start at a home. -/
def Path.NamesNoHome (p : Path) : Prop :=
  p.root = .relative → ∀ first ∈ p.parts.head?, first.toList.head? ≠ some '~'

instance (p : Path) : Decidable p.NamesNoHome := by
  unfold Path.NamesNoHome
  infer_instance

/-! ## Looking for a path -/

namespace FileTree

variable {t : FileTree} {cwd location : Location} {p : Path}

theorem find?_of_isShort (hfree : t.LinkFree) (hshort : p.IsShort) (cwd : Location) :
    ∃ found, t.find? cwd p = .ok found := by
  rw [find?]
  cases hlocate : t.locate cwd p with
  | ok place => exact ⟨_, rfl⟩
  | error e =>
    cases e with
    | nameTooLong =>
      rw [locate, walk, if_neg (Nat.not_le.2 hshort.whole)] at hlocate
      split at hlocate
      · cases hlocate
      · exact absurd hlocate (walkFrom_ne_nameTooLong hfree hshort.names)
    | _ => exact ⟨_, rfl⟩

theorem exists?_ne_error (hfree : t.LinkFree) (hshort : p.IsShort) {e : AccessError} :
    t.exists? cwd p ≠ .error e := by
  obtain ⟨found, hfind⟩ := find?_of_isShort hfree hshort cwd
  rw [exists?, hfind]
  intro hsame
  cases hsame

theorem isFile_eq_ok (hfree : t.LinkFree) (hshort : p.IsShort) (cwd : Location) :
    ∃ found, t.isFile cwd p = .ok found := by
  obtain ⟨place, hfind⟩ := find?_of_isShort hfree hshort cwd
  rw [isFile, hfind]
  simp only [bind, Except.bind]
  split
  · exact ⟨true, rfl⟩
  · exact ⟨false, rfl⟩

/-- Looking for a location tells what stands there, unless it is too long to be looked for. -/
theorem exists?_of_isReal (h : t.Sound) (hfree : t.LinkFree) (hreal : Location.IsReal location)
    (cwd : Location) : t.exists? cwd (.absolute location) = .ok (t.entry? location).isSome ∨
      t.exists? cwd (.absolute location) = .error .nameTooLong := by
  cases hentry : t.entry? location with
  | some entry =>
    rw [exists?_absolute h hfree (.of_entry h hentry), hentry]
    split
    · exact .inr rfl
    · exact .inl rfl
  | none =>
    cases hlocate : t.locate cwd (.absolute location) with
    | ok place =>
      have hplain : (Path.absolute location).IsPlain := hreal.plainNames
      have hplace := location_of_locate hfree hplain hlocate
      rw [placeOf_absolute hreal, hentry] at hplace
      rw [exists?, find?, hlocate, hplace]
      exact .inl rfl
    | error e =>
      rw [exists?, find?, hlocate]
      cases e with
      | nameTooLong => exact .inr rfl
      | _ => exact .inl rfl

end FileTree

namespace Command

open FileTree (placeOf Updated)

/-! ## Reasons -/

/-- What is said of a format that is not known. -/
def formatMessage (name : String) : String :=
  s!"Unknown format '{name}' – expected text or json."

/-- Where targets lead at which nothing stands. -/
def missingPlaces (t : FileTree) (cwd : Location) (targets : List Path) : List Location :=
  (targets.map (placeOf cwd)).filter fun location => (t.entry? location).isNone

/-- What is said of targets at which nothing stands. -/
def missingMessage (places : List Location) : String :=
  let names := ", ".intercalate (places.map fun location => (Path.absolute location).toString)
  s!"No such file or directory: {names}"

/-- What is said of a path that is not one of a file. -/
def fileMessage (file : Path) : String := s!"No such file: {file}"

/-- A configuration file has a fault that keeps a project from being opened. -/
def ProjectChoice.HasFault (env : Environment) (t : FileTree) (choice : ProjectChoice)
    (source : Path) (fault : ConfigFault) : Prop :=
  ∃ root, t.resolve env.cwd (choice.directory.getD (.absolute env.cwd)) = .ok root ∧
    Settings.load Run.configRoom t env.cwd choice.config (.absolute root) =
      .error (.config source fault)

namespace Request

/-- A request that cannot be met: its format is not known, something that it is about is not there,
or its configuration has a fault. -/
def Rejected (env : Environment) (t : FileTree) (request : Request) : Prop :=
  (∃ source fault, request.projectChoice.HasFault env t source fault) ∨
    match request with
    | lint targets _ format _ => format ∉ ["text", "json"] ∨
      ∃ target ∈ targets, t.entry? (placeOf env.cwd target) = none
    | checkFile file _ format => format ∉ ["text", "json"] ∨
      ∀ bytes, t.read env.cwd file ≠ .ok bytes
    | triage _ _ _ | rules _ => False

/-- The paths that a request looks for are not too long. -/
def IsShort (cwd : Location) : Request → Prop
  | lint targets _ _ _ => ∀ target ∈ targets, (Path.absolute (placeOf cwd target)).IsShort
  | checkFile file _ _ => file.IsShort
  | triage _ _ _ | rules _ => True

/-- The paths that a request resolves and looks for. -/
def targets : Request → List Path
  | lint targets _ _ _ => targets
  | checkFile _ _ _ | triage _ _ _ | rules _ => []

/-- No target of a request starts at a home. -/
def NamesNoHome (request : Request) : Prop := ∀ target ∈ request.targets, target.NamesNoHome

/-- The texts that have to be shown when a request is refused for the first thing that is found. -/
inductive Refused (env : Environment) (t : FileTree) : Request → List String → Prop
  | lintFormat {targets choice format output} (h : format ∉ ["text", "json"]) :
      Refused env t (lint targets choice format output) [formatMessage format]
  | checkFormat {file choice format} (h : format ∉ ["text", "json"]) :
      Refused env t (checkFile file choice format) [formatMessage format]
  | missing {targets choice format output} (hformat : format ∈ ["text", "json"])
      (hlong : ∀ target ∈ targets,
        t.exists? env.cwd (.absolute (placeOf env.cwd target)) ≠ .error .nameTooLong)
      (h : missingPlaces t env.cwd targets ≠ []) :
      Refused env t (lint targets choice format output)
        [missingMessage (missingPlaces t env.cwd targets)]
  | notFile {file choice format} (hformat : format ∈ ["text", "json"])
      (h : t.isFile env.cwd file = .ok false) :
      Refused env t (checkFile file choice format) [fileMessage file]
  | config {request source fault} (hreach : request.Reaches env t)
      (h : request.projectChoice.HasFault env t source fault) :
      Refused env t request [LoadError.configMessage source fault, LoadError.configPreamble source]

end Request

/-! ## Refusing -/

variable {env : Environment} {t : FileTree} {s : Session} {request : Request}
  {targets : List Path} {p : Path} {format : String} {texts : List String}

/-- Looking for a target tells what stands there, unless it is too long to be looked for. -/
def Looked (env : Environment) (t : FileTree) (targets : List Path) : Prop :=
  ∀ target ∈ targets, t.exists? env.cwd (.absolute (placeOf env.cwd target)) =
      .ok (t.entry? (placeOf env.cwd target)).isSome ∨
    t.exists? env.cwd (.absolute (placeOf env.cwd target)) = .error .nameTooLong

theorem looked (h : t.Sound) (hfree : t.LinkFree) (hcwd : t.entry? env.cwd = some .directory)
    (hgiven : ∀ target ∈ targets, target.IsGiven) : Looked env t targets := by
  intro target htarget
  have hstart : Location.IsReal (FileTree.start env.cwd target) :=
    FileTree.isReal_start (h.isReal_of_entry?_eq hcwd) target
  exact FileTree.exists?_of_isReal h hfree (FileTree.isReal_descend hstart
    (hgiven target htarget).plain (hgiven target htarget).no_null) env.cwd

namespace Run

variable {α β : Type}

/-- Steps that go no further, and that end with two if and only if all these texts can be shown. -/
def Refuses (texts : List String) (x : Run α) (s : Session) : Prop :=
  ∃ ending s', x.run s = (.error ending, s') ∧
    (ending.exitCode = 2 ↔ ∀ text ∈ texts, ∃ lines, Screen.failure text = .ok lines)

theorem Refuses.bind {x : Run α} (h : Refuses texts x s) (f : α → Run β) :
    Refuses texts (x >>= f) s := by
  obtain ⟨ending, s', hrun, hends⟩ := h
  exact ⟨ending, s', run_bind_error hrun, hends⟩

theorem refuses_refuse (text : String) (hs : s.undecoded = false) :
    Refuses [text] (refuse text : Run α) s := by
  unfold refuse
  cases hshown : Screen.failure text with
  | ok lines =>
    exact ⟨_, _, run_bind_ok (run_display_ok rfl (Session.all_encodes hs _)),
      by simp [Ending.exitCode, hshown]⟩
  | error e =>
    exact ⟨_, _, run_bind_error (run_display_error rfl), by simp [Ending.exitCode, hshown]⟩

theorem readFormat_of_not_mem (h : format ∉ ["text", "json"]) :
    readFormat format = refuse (formatMessage format) := by
  unfold readFormat
  split
  · simp at h
  · simp at h
  · rfl

theorem expandHome_of_namesNoHome (h : p.NamesNoHome) : expandHome env p = pure p := by
  unfold expandHome
  split
  · rename_i first rest hroot hparts
    have hfirst : first.toList.head? ≠ some '~' := h hroot first (by rw [hparts]; rfl)
    split
    · rename_i htilde
      rw [htilde] at hfirst
      cases hfirst rfl
    · rename_i htilde
      rw [htilde] at hfirst
      cases hfirst rfl
    · rfl
  · rfl

section

variable (hfree : s.tree.LinkFree) (hgiven : ∀ target ∈ targets, target.IsGiven)
  (hhome : ∀ target ∈ targets, target.NamesNoHome)

include hfree hgiven hhome

theorem run_resolve_targets : (targets.mapM (resolve env)).run s =
    (.ok (targets.map fun target => .absolute (placeOf env.cwd target)), s) := by
  refine run_mapM_map fun target htarget => ?_
  have hplace : s.tree.resolve env.cwd target = .ok (placeOf env.cwd target) :=
    FileTree.resolve_eq hfree (hgiven target htarget).no_null
  exact run_resolve (expandHome_of_namesNoHome (hhome target htarget)) hplace

/-- Targets are refused if nothing stands at some of them. -/
theorem run_resolveTargets_missing
    (hlooked : Looked env s.tree targets) (hlong : ∀ target ∈ targets,
      s.tree.exists? env.cwd (.absolute (placeOf env.cwd target)) ≠ .error .nameTooLong)
    (h : missingPlaces s.tree env.cwd targets ≠ []) : (resolveTargets env targets).run s =
      (refuse (missingMessage (missingPlaces s.tree env.cwd targets)) : Run (List Path)).run s := by
  have htests : ∀ path ∈ targets.map fun target => Path.absolute (placeOf env.cwd target),
      (do return !(← look fun t => t.exists? env.cwd path) : Run Bool).run s =
        (.ok (s.tree.entry? path.parts).isNone, s) := by
    refine List.forall_mem_map.2 fun target htarget => ?_
    have hexists := (hlooked target htarget).resolve_right (hlong target htarget)
    rw [run_bind_ok (run_look hexists), Path.absolute]
    cases s.tree.entry? (placeOf env.cwd target) <;> rfl
  have hmissing : ((targets.map fun target => Path.absolute (placeOf env.cwd target)).filterM
      fun path => (do return !(← look fun t => t.exists? env.cwd path) : Run Bool)).run s =
        (.ok ((missingPlaces s.tree env.cwd targets).map Path.absolute), s) := by
    rw [run_filterM htests, missingPlaces, List.filter_map, List.filter_map, List.map_map]
    rfl
  have hsome : ¬((missingPlaces s.tree env.cwd targets).map Path.absolute).isEmpty = true := by
    simpa using h
  rw [resolveTargets, run_bind_ok (run_resolve_targets hfree hgiven hhome), run_bind_ok hmissing,
    if_neg hsome, List.map_map]
  rfl

/-- Targets cannot be looked for if one of them is too long. -/
theorem run_resolveTargets_long {target : Path} (htarget : target ∈ targets)
    (hlong : s.tree.exists? env.cwd (.absolute (placeOf env.cwd target)) = .error .nameTooLong)
    (hlooked : Looked env s.tree targets) :
    (resolveTargets env targets).run s = (.error (.crashed (.access .nameTooLong)), s) := by
  rw [resolveTargets, run_bind_ok (run_resolve_targets hfree hgiven hhome)]
  refine run_bind_error (run_filterM_error (List.mem_map_of_mem htarget)
    (run_bind_error (run_look_error hlong)) ?_)
  refine List.forall_mem_map.2 fun other hother => ?_
  rcases hlooked other hother with hfound | hfound
  · exact .inl ⟨_, run_bind_ok (run_look hfound)⟩
  · exact .inr (run_bind_error (run_look_error hfound))

end

/-- A request is refused by its first steps. -/
theorem refuses_enter (hfree : t.LinkFree) (hgiven : request.IsGiven) (hhome : request.NamesNoHome)
    (hlooked : Looked env t request.targets) (h : request.Refused env t texts) :
    Refuses texts (enter env request) { tree := t } := by
  cases h with
  | lintFormat h | checkFormat h =>
    rw [enter, readFormat_of_not_mem h]
    exact (refuses_refuse _ rfl).bind _
  | @missing targets _ _ _ hformat hlong h =>
    obtain ⟨_, hread⟩ := run_readFormat (s := { tree := t }) hformat
    have hpaths : ∀ target ∈ targets, target.IsGiven := fun target htarget =>
      hgiven target (List.mem_append_left _ htarget)
    have hmissing :=
      run_resolveTargets_missing (s := { tree := t }) hfree hpaths hhome hlooked hlong h
    obtain ⟨ending, s', hrun, hends⟩ := refuses_refuse (α := List Path) (s := { tree := t })
      (missingMessage (missingPlaces t env.cwd targets)) rfl
    refine ⟨ending, s', ?_, hends⟩
    rw [enter, run_bind_ok hread]
    exact run_bind_error (hmissing.trans hrun)
  | notFile hformat h =>
    obtain ⟨_, hread⟩ := run_readFormat (s := { tree := t }) hformat
    have hlook : (look fun t => t.isFile env.cwd _).run { tree := t } =
      (.ok false, { tree := t }) := run_look h
    obtain ⟨ending, s', hrun, hends⟩ :=
      refuses_refuse (α := Unit) (s := { tree := t }) (fileMessage _) rfl
    refine ⟨ending, s', ?_, hends⟩
    rw [enter, run_bind_ok hread, run_bind_ok hlook]
    exact run_bind_error hrun
  | @config _ source fault hreach h =>
    obtain ⟨root, hroot, hload⟩ := h
    obtain ⟨ending, s', hrun, hends⟩ := enter_fails hreach hroot hload
    refine ⟨ending, s', hrun, hends.exitCode_eq_two_iff.trans ?_⟩
    rw [List.forall_mem_cons, List.forall_mem_singleton]
    constructor
    · rintro ⟨_, _, heq, hshown⟩
      cases heq
      exact ⟨hshown.message, hshown.preamble⟩
    · rintro ⟨hmessage, hpreamble⟩
      exact ⟨source, fault, rfl, hmessage, hpreamble⟩

theorem keepsFiles_enter (request : Request) : KeepsFiles (enter env request) := by
  cases request with
  | lint targets choice format output =>
    exact (keepsFiles_readFormat _).bind fun _ => (keepsFiles_resolveTargets _).bind fun _ =>
      keepsFiles_openProject _
  | checkFile file choice format =>
    refine (keepsFiles_readFormat _).bind fun _ => (keepsFiles_look _).bind fun found => ?_
    cases found with
    | true => exact keepsFiles_openProject _
    | false => exact (keepsFiles_refuse _).seq (keepsFiles_openProject _)
  | triage choice limit reports => exact (keepsFiles_display _).seq (keepsFiles_openProject _)
  | rules choice => exact keepsFiles_openProject _

end Run

theorem entry?_of_missingPlaces (hnone : missingPlaces t env.cwd targets = []) :
    ∀ target ∈ targets, t.entry? (placeOf env.cwd target) ≠ none := by
  simpa [missingPlaces] using hnone

/-- Something stands at every target if none is missing and none too long to be looked for. -/
theorem stands_of_looked (hfree : t.LinkFree) (hgiven : ∀ target ∈ targets, target.IsGiven)
    (hhome : ∀ target ∈ targets, target.NamesNoHome) (hlooked : Looked env t targets)
    (hlong : ∀ target ∈ targets,
      t.exists? env.cwd (.absolute (placeOf env.cwd target)) ≠ .error .nameTooLong)
    (hnone : missingPlaces t env.cwd targets = []) :
    ∀ target ∈ targets, Run.Stands env t target := by
  intro target htarget
  refine ⟨target, placeOf env.cwd target, Run.expandHome_of_namesNoHome (hhome target htarget),
    FileTree.resolve_eq hfree (hgiven target htarget).no_null, ?_⟩
  rw [(hlooked target htarget).resolve_right (hlong target htarget),
    Option.isSome_iff_ne_none.2 (entry?_of_missingPlaces hnone target htarget)]

section

variable {file : Path} {choice : ProjectChoice} {output : Option Path}

/-- A request is refused for something, or it stops at a path that is too long to be looked for. -/
def RefusedOrLong (env : Environment) (t : FileTree) (request : Request) : Prop :=
  (∃ texts, request.Refused env t texts) ∨
    ¬request.IsShort env.cwd ∧ ∃ s, (Run.enter env request).run { tree := t } =
      (.error (.crashed (.access .nameTooLong)), s)

theorem refusedOrLong_lint (hfree : t.LinkFree)
    (hgiven : (Request.lint targets choice format output).IsGiven)
    (hhome : ∀ target ∈ targets, target.NamesNoHome) (hlooked : Looked env t targets)
    (hrejected : (Request.lint targets choice format output).Rejected env t) :
    RefusedOrLong env t (.lint targets choice format output) := by
  by_cases hformat : format ∈ ["text", "json"]
  swap
  · exact .inl ⟨_, .lintFormat hformat⟩
  have hpaths : ∀ target ∈ targets, target.IsGiven := fun target htarget =>
    hgiven target (List.mem_append_left _ htarget)
  by_cases hlong : ∃ target ∈ targets,
    t.exists? env.cwd (.absolute (placeOf env.cwd target)) = .error .nameTooLong
  · obtain ⟨target, htarget, hlong⟩ := hlong
    obtain ⟨_, hread⟩ := Run.run_readFormat (s := { tree := t }) hformat
    have hfails := Run.run_resolveTargets_long (s := { tree := t }) hfree hpaths hhome htarget
      hlong hlooked
    refine .inr ⟨fun hshort => FileTree.exists?_ne_error hfree (hshort target htarget) hlong,
      { tree := t }, ?_⟩
    rw [Run.enter, Run.run_bind_ok hread, Run.run_bind_error hfails]
  · have hlong : ∀ target ∈ targets,
        t.exists? env.cwd (.absolute (placeOf env.cwd target)) ≠ .error .nameTooLong := by
      simpa using hlong
    by_cases hnone : missingPlaces t env.cwd targets = []
    · have hstands := stands_of_looked hfree hpaths hhome hlooked hlong hnone
      rcases hrejected with ⟨source, fault, hfault⟩ | hunknown | ⟨target, htarget, hmissing⟩
      · exact .inl ⟨_, .config ⟨hformat, hstands⟩ hfault⟩
      · exact absurd hformat hunknown
      · exact absurd hmissing (entry?_of_missingPlaces hnone target htarget)
    · exact .inl ⟨_, .missing hformat hlong hnone⟩

theorem refusedOrLong_checkFile (hfree : t.LinkFree)
    (hrejected : (Request.checkFile file choice format).Rejected env t) :
    RefusedOrLong env t (.checkFile file choice format) := by
  by_cases hformat : format ∈ ["text", "json"]
  swap
  · exact .inl ⟨_, .checkFormat hformat⟩
  cases hfile : t.isFile env.cwd file with
  | error e =>
    cases (FileTree.isFile_eq_error_iff.1 hfile).1
    obtain ⟨_, hread⟩ := Run.run_readFormat (s := { tree := t }) hformat
    refine .inr ⟨fun hshort => ?_, { tree := t }, ?_⟩
    · obtain ⟨_, hfound⟩ := FileTree.isFile_eq_ok hfree hshort env.cwd
      cases hfile.symm.trans hfound
    · rw [Run.enter, Run.run_bind_ok hread]
      exact Run.run_bind_error (Run.run_look_error hfile)
  | ok found =>
    cases found with
    | false => exact .inl ⟨_, .notFile hformat hfile⟩
    | true =>
      obtain ⟨bytes, hread⟩ := FileTree.isFile_eq_true_iff.1 hfile
      rcases hrejected with ⟨source, fault, hfault⟩ | hunknown | hnone
      · exact .inl ⟨_, .config ⟨hformat, hfile⟩ hfault⟩
      · exact absurd hformat hunknown
      · exact absurd hread (hnone bytes)

end

/-- A request that cannot be met is refused for something, unless a path is too long to be looked
for. -/
theorem refused_or_long (hfree : t.LinkFree) (hgiven : request.IsGiven)
    (hhome : request.NamesNoHome) (hlooked : Looked env t request.targets)
    (hrejected : request.Rejected env t) : RefusedOrLong env t request := by
  cases request with
  | lint => exact refusedOrLong_lint hfree hgiven hhome hlooked hrejected
  | checkFile => exact refusedOrLong_checkFile hfree hrejected
  | triage choice limit reports | rules choice =>
    obtain ⟨source, fault, hfault⟩ := hrejected.resolve_right id
    exact .inl ⟨_, .config trivial hfault⟩

/-- A request that cannot be met does not get to its project. -/
theorem exists_enter_error (hfree : t.LinkFree) (hgiven : request.IsGiven)
    (hhome : request.NamesNoHome) (hlooked : Looked env t request.targets)
    (hrejected : request.Rejected env t) : ∃ ending s,
      (Run.enter env request).run { tree := t } = (.error ending, s) ∧
        (ending.exitCode = 2 ↔ ∃ texts, request.Refused env t texts ∧
          ∀ text ∈ texts, ∃ lines, Screen.failure text = .ok lines) := by
  have hrefuses : ∀ {texts ending s}, request.Refused env t texts →
      (Run.enter env request).run { tree := t } = (.error ending, s) →
        (ending.exitCode = 2 ↔ ∀ text ∈ texts, ∃ lines, Screen.failure text = .ok lines) := by
    intro texts ending s hrefused hrun
    obtain ⟨_, _, hrun', hends⟩ := Run.refuses_enter hfree hgiven hhome hlooked hrefused
    cases hrun.symm.trans hrun'
    exact hends
  have hall : ∃ ending s, (Run.enter env request).run { tree := t } = (.error ending, s) ∧
      (ending.exitCode = 2 → ∃ texts, request.Refused env t texts) := by
    rcases refused_or_long hfree hgiven hhome hlooked hrejected with
      ⟨texts, hrefused⟩ | ⟨-, s, hlong⟩
    · obtain ⟨ending, s, hrun, -⟩ := Run.refuses_enter hfree hgiven hhome hlooked hrefused
      exact ⟨ending, s, hrun, fun _ => ⟨texts, hrefused⟩⟩
    · exact ⟨_, s, hlong, nofun⟩
  obtain ⟨ending, s, hrun, hsome⟩ := hall
  refine ⟨ending, s, hrun, fun htwo => ?_, ?_⟩
  · obtain ⟨texts, hrefused⟩ := hsome htwo
    exact ⟨texts, hrefused, (hrefuses hrefused hrun).1 htwo⟩
  · rintro ⟨texts, hrefused, hshown⟩
    exact (hrefuses hrefused hrun).2 hshown

/-! ## What a request does to the files -/

/-- A request that cannot be met changes nothing, and any request changes only what it names. -/
structure Guarded (env : Environment) (t : FileTree) (request : Request) (outcome : Outcome) :
    Prop where
  /-- A request that cannot be met leaves all files alone. -/
  kept : request.NamesNoHome → request.Rejected env t → outcome.session.tree = t
  /-- It ends with two if and only if it is refused with texts that can be shown. -/
  exits : request.NamesNoHome → request.Rejected env t →
    (outcome.ending.exitCode = 2 ↔ ∃ texts, request.Refused env t texts ∧
      ∀ text ∈ texts, ∃ lines, Screen.failure text = .ok lines)
  /-- So it does if its paths are short, no text holds a parenthesis and no bracket in one is
  followed by a slash. -/
  plain : request.NamesNoHome → request.Rejected env t → request.IsShort env.cwd →
    (∀ texts, request.Refused env t texts → ∀ text ∈ texts,
      '(' ∉ text.toList ∧ ¬['[', '/'] <:+: text.toList) → outcome.ending.exitCode = 2
  /-- Any request changes only the files that it names and the missing directories on the way to
  them, however it ends. -/
  updated : Updated (request.outputFiles env.cwd) (request.outputWays env.cwd) t
    outcome.session.tree
  /-- A request that names no output changes nothing. -/
  silent : request.output? = none → outcome.session.tree = t

/-- What keeps a request from being met is found before anything is written. -/
theorem guarded_run {words : List String} (h : t.Sound) (hfree : t.LinkFree)
    (hcwd : t.entry? env.cwd = some .directory) (hwords : Request.parse words = .ok request) :
    Guarded env t request (run env t words) := by
  have hgiven := Request.given_of_parse hwords
  have hlooked : Looked env t request.targets := by
    refine looked h hfree hcwd fun target htarget => hgiven target ?_
    cases request with
    | lint targets choice format output => exact List.mem_append_left _ htarget
    | _ => cases htarget
  have hrun : run env t words = perform env t request := by rw [run, hwords]
  have hexits : request.NamesNoHome → request.Rejected env t →
      ((perform env t request).ending.exitCode = 2 ↔ ∃ texts, request.Refused env t texts ∧
        ∀ text ∈ texts, ∃ lines, Screen.failure text = .ok lines) := by
    intro hhome hrejected
    obtain ⟨ending, s, henter, hends⟩ := exists_enter_error hfree hgiven hhome hlooked hrejected
    rwa [perform_of_enter henter]
  rw [hrun]
  refine ⟨fun hhome hrejected => ?_, hexits, fun hhome hrejected hshort hplain => ?_,
    updated_of_perform h hfree hcwd hgiven, tree_of_perform⟩
  · obtain ⟨ending, s, henter, -⟩ := exists_enter_error hfree hgiven hhome hlooked hrejected
    have hkept : ((Run.enter env request).run { tree := t }).2.tree = t :=
      (Run.keepsFiles_enter request).tree _
    rw [henter] at hkept
    rw [perform_of_enter henter]
    exact hkept
  · rcases refused_or_long hfree hgiven hhome hlooked hrejected with
      ⟨texts, hrefused⟩ | ⟨hlong, -⟩
    · refine (hexits hhome hrejected).2 ⟨texts, hrefused, fun text htext => ?_⟩
      obtain ⟨hcall, hclose⟩ := hplain texts hrefused text htext
      exact Screen.failure_eq_ok hcall hclose
    · exact absurd hshort hlong

/-! ## A target that is not there -/

def nowhereWords : List String := ["lint", "/nowhere", "--output", "/out.json"]

theorem parse_nowhereWords : Request.parse nowhereWords =
    .ok (.lint [.parse "/nowhere"] {} "text" (some (.parse "/out.json"))) := by
  decide +kernel

theorem guarded_nowhere : (run linkedEnv tidyTree nowhereWords).ending.exitCode = 2 ∧
    (run linkedEnv tidyTree nowhereWords).session.tree = tidyTree := by
  have hguarded : Guarded linkedEnv tidyTree _ (run linkedEnv tidyTree nowhereWords) :=
    guarded_run (by decide +kernel) (by decide +kernel) rfl parse_nowhereWords
  have hhome : Request.NamesNoHome
      (.lint [.parse "/nowhere"] {} "text" (some (.parse "/out.json"))) := by
    unfold Request.NamesNoHome Request.targets
    decide +kernel
  have hrejected : Request.Rejected linkedEnv tidyTree
      (.lint [.parse "/nowhere"] {} "text" (some (.parse "/out.json"))) :=
    .inr (.inr ⟨_, List.mem_singleton_self _, by decide +kernel⟩)
  have hshort : (Path.absolute (placeOf linkedEnv.cwd (.parse "/nowhere"))).IsShort := by
    decide +kernel
  have hmissing : missingPlaces tidyTree linkedEnv.cwd [.parse "/nowhere"] = [["nowhere"]] := by
    decide +kernel
  have hrefused : Request.Refused linkedEnv tidyTree
      (.lint [.parse "/nowhere"] {} "text" (some (.parse "/out.json")))
      [missingMessage [["nowhere"]]] := by
    rw [← hmissing]
    refine .missing (by simp) ?_ (by rw [hmissing]; simp)
    rw [List.forall_mem_singleton]
    exact FileTree.exists?_ne_error (by decide +kernel) hshort
  refine ⟨(hguarded.exits hhome hrejected).2 ⟨_, hrefused, ?_⟩, hguarded.kept hhome hrejected⟩
  rw [List.forall_mem_singleton]
  exact Screen.failure_eq_ok (by decide +kernel) (by decide +kernel)

/-! ## A name that is too long -/

theorem parse_checkFile {word : String} (hoption : Arguments.isOption word = false)
    (hnull : Char.ofNat 0 ∉ word.toList) :
    Request.parse ["check-file", word] = .ok (.checkFile (.parse word) {} "text") := by
  have hcommand : Request.parse ["check-file", word] = Request.readCheckFile [word] := by
    rw [Request.parse, Request.split, Arguments.parse_command (by decide)]
    rfl
  have hsplit : Request.split (Request.projectOptions ++ [Request.formatOption]) true [word] =
      .ok { positional := [word] } := by
    rw [Request.split, Arguments.parse_positional hoption, Arguments.parse_nil]
    rfl
  have hpath := Request.path_eq hnull
  rw [hcommand, Request.readCheckFile, hsplit]
  simp [Request.choice, Arguments.option?, hpath, Request.format, bind, Except.bind,
    pure, Except.pure]
  rfl

/-- The path of a file whose name is too long. -/
def longFile : Path := ⟨.relative, [letters 256]⟩

theorem locate_longFile : tidyTree.locate linkedEnv.cwd longFile = .error .nameTooLong := by
  have hname := isName_letters (n := 256) (by decide)
  have hnull : ¬(longFile.parts.any (·.toList.contains (Char.ofNat 0))) = true := by
    simpa [longFile] using hname.no_null
  have hstring : ∀ name, (⟨.relative, [name]⟩ : Path).toString = name := fun _ => rfl
  have hsize : longFile.toString.utf8ByteSize < FileTree.maxPathBytes := by
    rw [longFile, hstring, size_letters]
    decide
  have hlong : FileTree.maxNameBytes < (letters 256).utf8ByteSize := by
    rw [size_letters]
    decide
  rw [FileTree.locate, FileTree.walk, if_neg hnull, if_neg (not_le_of_gt hsize)]
  exact FileTree.walkFrom_of_long hname hlong

/-- A request for a file that is not there ends in a crash if its name is too long. -/
theorem long_file_crashes :
    Request.parse ["check-file", letters 256] = .ok (.checkFile longFile {} "text") ∧
    Request.Rejected linkedEnv tidyTree (.checkFile longFile {} "text") ∧
    (run linkedEnv tidyTree ["check-file", letters 256]).ending =
      .crashed (.access .nameTooLong) ∧
    (run linkedEnv tidyTree ["check-file", letters 256]).ending.exitCode = 1 := by
  have hname := isName_letters (n := 256) (by decide)
  have hoption : Arguments.isOption (letters 256) = false := by
    rw [Arguments.isOption, toList_letters]
    rfl
  have hparse : Request.parse ["check-file", letters 256] =
      .ok (.checkFile longFile {} "text") := by
    rw [parse_checkFile hoption hname.no_null, Path.parse_of_isName hname, longFile]
  have hfile : tidyTree.isFile linkedEnv.cwd longFile = .error .nameTooLong := by
    rw [FileTree.isFile, FileTree.find?, locate_longFile]
    rfl
  have hfails : (Run.enter linkedEnv (.checkFile longFile {} "text")).run { tree := tidyTree } =
      (.error (.crashed (.access .nameTooLong)), { tree := tidyTree }) := by
    have htext : "text" ∈ ["text", "json"] := by simp
    obtain ⟨_, hread⟩ := Run.run_readFormat (s := { tree := tidyTree }) htext
    rw [Run.enter, Run.run_bind_ok hread]
    exact Run.run_bind_error (Run.run_look_error hfile)
  have hends : (run linkedEnv tidyTree ["check-file", letters 256]).ending =
      .crashed (.access .nameTooLong) := by
    rw [run, hparse]
    dsimp only
    rw [perform_of_enter hfails]
  refine ⟨hparse, .inr (.inr fun bytes => ?_), hends, ?_⟩
  · rw [FileTree.read, locate_longFile]
    intro hread
    cases hread
  · rw [hends]
    rfl

end Command

end LineLint
