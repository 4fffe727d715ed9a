import LineLint.Command.Run

/-!
# Steps of a command

What one step of a command does to a session: whether it goes on, how it ends the command if it does
not, and which files there are afterwards.
-/

namespace LineLint

namespace Command

variable {env : Environment} {s s' : Session}

namespace Session

theorem encodes_iff {text : String} :
    s.encodes text = true ↔ (s.undecoded = true → Text.isEncodable text = true) := by
  rw [encodes]
  cases s.undecoded <;> simp

theorem all_encodes_iff {texts : List String} : texts.all s.encodes = true ↔
    (s.undecoded = true → ∀ text ∈ texts, Text.isEncodable text = true) := by
  simp only [List.all_eq_true, encodes_iff]
  exact ⟨fun h hs text htext => h text htext hs, fun h text htext hs => h hs text htext⟩

/-- Where all names are UTF-8, every text is. -/
theorem all_encodes (h : s.undecoded = false) (texts : List String) :
    texts.all s.encodes = true :=
  all_encodes_iff.2 fun hs => absurd (h.symm.trans hs) Bool.false_ne_true

end Session

namespace Run

variable {α β : Type}

/-! ## Steps -/

theorem run_bind (x : Run α) (f : α → Run β) (s : Session) :
    (x >>= f).run s = match x.run s with
      | (.ok a, s') => (f a).run s'
      | (.error e, s') => (.error e, s') := by
  rw [ExceptT.run_bind]
  simp only [bind, StateT.bind]
  cases x.run s with
  | mk found s' => cases found <;> rfl

theorem run_bind_ok {x : Run α} {f : α → Run β} {a : α} (h : x.run s = (.ok a, s')) :
    (x >>= f).run s = (f a).run s' := by
  rw [run_bind, h]

theorem run_bind_error {x : Run α} {f : α → Run β} {e : Ending} (h : x.run s = (.error e, s')) :
    (x >>= f).run s = (.error e, s') := by
  rw [run_bind, h]

/-- Steps may be replaced where they come to the same. -/
theorem run_bind_congr {x : Run α} {f g : α → Run β}
    (h : ∀ a s', x.run s = (.ok a, s') → (f a).run s' = (g a).run s') :
    (x >>= f).run s = (x >>= g).run s := by
  rw [run_bind, run_bind]
  cases hrun : x.run s with
  | mk found s' =>
    cases found with
    | ok a => exact h a s' hrun
    | error e => rfl

theorem run_get : (get : Run Session).run s = (.ok s, s) := rfl

theorem run_look {find : FileTree → Except AccessError α} {a : α} (h : find s.tree = .ok a) :
    (look find).run s = (.ok a, s) := by
  rw [look, run_bind_ok run_get, h]
  rfl

theorem run_look_error {find : FileTree → Except AccessError α} {e : AccessError}
    (h : find s.tree = .error e) : (look find).run s = (.error (.crashed (.access e)), s) := by
  rw [look, run_bind_ok run_get, h]
  rfl

theorem run_result_ok {found : FileTree → Except Project.LintFailure (LintResult × List Warning)}
    {r : LintResult} {warnings : List Warning} (h : found s.tree = .ok (r, warnings)) :
    (result found).run s = (.ok r, { s with warnings := s.warnings ++ warnings }) := by
  rw [result, run_bind_ok run_get, h]
  rfl

theorem run_result_error
    {found : FileTree → Except Project.LintFailure (LintResult × List Warning)}
    {f : Project.LintFailure} (h : found s.tree = .error f) :
    (result found).run s = (.error (.crashed (.access f.cause)),
      { s with warnings := s.warnings ++ f.warnings }) := by
  rw [result, run_bind_ok run_get, h]
  rfl

theorem run_display {shown : Except Markup.MarkupError (List String)} {lines : List String}
    (h : shown = .ok lines) : (display shown).run s = if lines.all s.encodes then
      (.ok (), { s with lines := s.lines ++ lines }) else (.error (.crashed .encoding), s) := by
  rw [h]
  dsimp only [display]
  rw [run_bind_ok run_get]
  cases lines.all s.encodes <;> rfl

theorem run_display_ok {shown : Except Markup.MarkupError (List String)} {lines : List String}
    (h : shown = .ok lines) (hencodes : lines.all s.encodes = true) :
    (display shown).run s = (.ok (), { s with lines := s.lines ++ lines }) := by
  rw [run_display h, if_pos hencodes]

/-- Lines can be shown whatever has been shown before. -/
theorem run_display_after {shown : Except Markup.MarkupError (List String)} {lines : List String}
    (before : List String) (h : shown = .ok lines) (hencodes : lines.all s.encodes = true) :
    (display shown).run { s with lines := before } =
      (.ok (), { s with lines := before ++ lines }) :=
  run_display_ok h hencodes

/-- The banner can always be shown. -/
theorem run_banner : (display (.ok Screen.banner)).run s =
    (.ok (), { s with lines := s.lines ++ Screen.banner }) := by
  refine run_display_ok rfl ?_
  have hplain : ∀ line ∈ Screen.banner, Text.isEncodable line = true := by
    decide
  exact Session.all_encodes_iff.2 fun _ => hplain

theorem run_display_error {shown : Except Markup.MarkupError (List String)}
    {e : Markup.MarkupError} (h : shown = .error e) :
    (display shown).run s = (.error (.crashed (.markup e)), s) := by
  rw [h]
  rfl

theorem run_readFormat_json : (readFormat "json").run s = (.ok .json, s) := rfl

theorem run_readFormat {name : String} (h : name ∈ ["text", "json"]) :
    ∃ format, (readFormat name).run s = (.ok format, s) := by
  simp only [List.mem_cons, List.not_mem_nil, or_false] at h
  rcases h with rfl | rfl
  · exact ⟨.text, rfl⟩
  · exact ⟨.json, rfl⟩

theorem run_resolveTargets_nil : (resolveTargets env []).run s = (.ok [], s) := rfl

theorem run_refuse_ne {reason : String} {a : α} : (refuse reason).run s ≠ (.ok a, s') := by
  rw [refuse, run_bind]
  cases (display (Screen.failure reason)).run s with
  | mk shown s' => cases shown <;> nofun

theorem run_refuseConfig_ne {source : Path} {fault : ConfigFault} {a : α} :
    (refuseConfig source fault).run s ≠ (.ok a, s') := by
  delta refuseConfig
  cases Screen.failure (LoadError.configMessage source fault) with
  | ok _ => exact run_refuse_ne
  | error e =>
    intro h
    cases h

/-! ## Many steps -/

/-- Steps that all give a value and leave the session alone do so together. -/
theorem run_mapM {f : α → Run β} {P : β → Prop} {items : List α}
    (h : ∀ x ∈ items, ∃ y, (f x).run s = (.ok y, s) ∧ P y) :
    ∃ ys, (items.mapM f).run s = (.ok ys, s) ∧ ∀ y ∈ ys, P y := by
  induction items with
  | nil => exact ⟨[], rfl, by simp⟩
  | cons x rest ih =>
    rw [List.forall_mem_cons] at h
    obtain ⟨⟨y, hfirst, hy⟩, hothers⟩ := h
    obtain ⟨ys, hrest, hys⟩ := ih hothers
    refine ⟨y :: ys, ?_, List.forall_mem_cons.2 ⟨hy, hys⟩⟩
    rw [List.mapM_cons, run_bind_ok hfirst, run_bind_ok hrest]
    rfl

theorem run_mapM_map {f : α → Run β} {g : α → β} {items : List α}
    (h : ∀ x ∈ items, (f x).run s = (.ok (g x), s)) :
    (items.mapM f).run s = (.ok (items.map g), s) := by
  induction items with
  | nil => rfl
  | cons x rest ih =>
    rw [List.forall_mem_cons] at h
    rw [List.mapM_cons, run_bind_ok h.1, run_bind_ok (ih h.2)]
    rfl

theorem run_filterM {keep : α → Run Bool} {test : α → Bool} {items : List α}
    (h : ∀ x ∈ items, (keep x).run s = (.ok (test x), s)) :
    (items.filterM keep).run s = (.ok (items.filter test), s) := by
  have haux : ∀ kept, (items.filterAuxM keep kept).run s =
      (.ok ((items.filter test).reverse ++ kept), s) := by
    induction items with
    | nil => exact fun kept => rfl
    | cons x rest ih =>
      intro kept
      rw [List.forall_mem_cons] at h
      rw [List.filterAuxM, run_bind_ok h.1, ih h.2]
      cases hx : test x with
      | true => simp [hx]
      | false => simp [hx]
  rw [List.filterM, run_bind_ok (haux [])]
  simp only [List.append_nil, List.reverse_reverse]
  rfl

/-- A test that cannot be made ends all of them, if nothing else does. -/
theorem run_filterM_error {keep : α → Run Bool} {e : Ending} {items : List α} {x : α}
    (hmem : x ∈ items) (hfails : (keep x).run s = (.error e, s))
    (hothers : ∀ y ∈ items, (∃ kept, (keep y).run s = (.ok kept, s)) ∨
      (keep y).run s = (.error e, s)) : (items.filterM keep).run s = (.error e, s) := by
  have haux : ∀ kept, (items.filterAuxM keep kept).run s = (.error e, s) := by
    induction items with
    | nil => cases hmem
    | cons y rest ih =>
      intro kept
      rw [List.forall_mem_cons] at hothers
      rw [List.filterAuxM]
      rcases hothers.1 with ⟨b, hy⟩ | hy
      · have hrest : x ∈ rest := by
          rcases List.mem_cons.1 hmem with rfl | hrest
          · cases hfails.symm.trans hy
          · exact hrest
        rw [run_bind_ok hy]
        exact ih hrest hothers.2 _
      · exact run_bind_error hy
  rw [List.filterM, run_bind_error (haux [])]

theorem run_filterM_nil {keep : α → Run Bool} {items : List α}
    (h : ∀ x ∈ items, (keep x).run s = (.ok false, s)) :
    (items.filterM keep).run s = (.ok [], s) := by
  rw [run_filterM h, List.filter_eq_nil_iff.2 (by simp)]

/-! ## Parts of commands -/

theorem run_resolve {p named : Path} {location : Location} (hhome : expandHome env p = pure named)
    (hresolve : s.tree.resolve env.cwd named = .ok location) :
    (resolve env p).run s = (.ok (.absolute location), s) := by
  have hexpand : (expandHome env p).run s = (.ok named, s) := by
    rw [hhome]
    rfl
  rw [resolve, run_bind_ok hexpand, run_bind_ok (run_look hresolve)]
  rfl

/-- Something stands at the place where a target leads. -/
def Stands (env : Environment) (t : FileTree) (target : Path) : Prop :=
  ∃ named location, expandHome env target = pure named ∧ t.resolve env.cwd named = .ok location ∧
    t.exists? env.cwd (.absolute location) = .ok true

/-- Targets that all stand lead to places that exist. -/
theorem exists_resolveTargets {targets : List Path}
    (h : ∀ target ∈ targets, Stands env s.tree target) :
    ∃ found, (resolveTargets env targets).run s = (.ok found, s) ∧ ∀ p ∈ found,
      ∃ location, p = .absolute location ∧ s.tree.exists? env.cwd p = .ok true := by
  have hresolve : ∀ target ∈ targets, ∃ p, (resolve env target).run s = (.ok p, s) ∧
      ∃ location, p = .absolute location ∧ s.tree.exists? env.cwd p = .ok true := by
    intro target hmem
    obtain ⟨named, location, hhome, hresolve, hexists⟩ := h target hmem
    exact ⟨.absolute location, run_resolve hhome hresolve, location, rfl, hexists⟩
  obtain ⟨found, hfound, hplaces⟩ := run_mapM hresolve
  refine ⟨found, ?_, hplaces⟩
  rw [resolveTargets, run_bind_ok hfound, run_bind_ok (run_filterM_nil fun p hp => ?_)]
  · rfl
  · obtain ⟨_, -, hexists⟩ := hplaces p hp
    rw [run_bind_ok (run_look hexists)]
    rfl

theorem run_resolveTargets {targets : List Path}
    (h : ∀ target ∈ targets, Stands env s.tree target) :
    ∃ found, (resolveTargets env targets).run s = (.ok found, s) := by
  obtain ⟨found, hfound, -⟩ := exists_resolveTargets h
  exact ⟨found, hfound⟩

/-- A choice is about a project in a tree: its root is resolved and its settings are loaded. -/
structure Opens (env : Environment) (t : FileTree) (choice : ProjectChoice) (p : Project)
    (warnings : List Warning) : Prop where
  root : t.resolve env.cwd (choice.directory.getD (.absolute env.cwd)) = .ok p.root
  settings : Settings.load configRoom t env.cwd choice.config (.absolute p.root) =
    .ok (p.settings, warnings)

theorem run_openProject_eq_ok_iff {choice : ProjectChoice} {p : Project} :
    (openProject env choice).run s = (.ok p, s') ↔ ∃ warnings, Opens env s.tree choice p warnings ∧
      s' = { s with warnings := s.warnings ++ warnings } := by
  rw [openProject]
  cases hroot : s.tree.resolve env.cwd (choice.directory.getD (.absolute env.cwd)) with
  | error e =>
    rw [run_bind_error (run_look_error hroot)]
    refine ⟨nofun, ?_⟩
    rintro ⟨_, hopens, -⟩
    cases hroot.symm.trans hopens.root
  | ok root =>
    rw [run_bind_ok (run_look hroot), run_bind_ok run_get]
    constructor
    · intro h
      split at h
      · rename_i settings warnings hload
        cases h
        exact ⟨warnings, ⟨hroot, hload⟩, rfl⟩
      · exact absurd h run_refuseConfig_ne
      · cases h
    · rintro ⟨warnings, hopens, rfl⟩
      cases hroot.symm.trans hopens.root
      rw [hopens.settings]
      rfl

/-- Opening a project leaves the files alone and settles where its root is. -/
theorem opened {choice : ProjectChoice} {p : Project}
    (h : (openProject env choice).run s = (.ok p, s')) :
    s'.tree = s.tree ∧
      s.tree.resolve env.cwd (choice.directory.getD (.absolute env.cwd)) = .ok p.root := by
  obtain ⟨_, hopens, rfl⟩ := run_openProject_eq_ok_iff.1 h
  exact ⟨rfl, hopens.root⟩

/-! ## Files -/

/-- The files are afterwards what they were before, however the step ends: at most something is
shown or warned of. -/
def KeepsFiles (x : Run α) : Prop := ∀ s, ∃ lines warnings, (x.run s).2 = { s with lines, warnings }

theorem KeepsFiles.tree {x : Run α} (hx : KeepsFiles x) (s : Session) :
    (x.run s).2.tree = s.tree := by
  obtain ⟨_, _, hsame⟩ := hx s
  rw [hsame]

theorem KeepsFiles.undecoded {x : Run α} (hx : KeepsFiles x) (s : Session) :
    (x.run s).2.undecoded = s.undecoded := by
  obtain ⟨_, _, hsame⟩ := hx s
  rw [hsame]

theorem keepsFiles_pure (a : α) : KeepsFiles (pure a) := fun _ => ⟨_, _, rfl⟩

theorem keepsFiles_throw (e : Ending) : KeepsFiles (throw e : Run α) := fun _ => ⟨_, _, rfl⟩

theorem KeepsFiles.bind {x : Run α} {f : α → Run β} (hx : KeepsFiles x)
    (hf : ∀ a, KeepsFiles (f a)) : KeepsFiles (x >>= f) := by
  intro s
  have hfirst := hx s
  rw [run_bind]
  cases hrun : x.run s with
  | mk found s' =>
    rw [hrun] at hfirst
    cases found with
    | ok a =>
      obtain ⟨_, _, rfl : s' = _⟩ := hfirst
      exact hf a _
    | error e => exact hfirst

theorem KeepsFiles.seq {x : Run Unit} {y : Run β} (hx : KeepsFiles x) (hy : KeepsFiles y) :
    KeepsFiles (do x; y) :=
  hx.bind fun _ => hy

theorem keepsFiles_mapM {f : α → Run β} (hf : ∀ a, KeepsFiles (f a)) (items : List α) :
    KeepsFiles (items.mapM f) := by
  induction items with
  | nil => exact keepsFiles_pure []
  | cons a rest ih =>
    rw [List.mapM_cons]
    exact (hf a).bind fun b => ih.bind fun bs => keepsFiles_pure (b :: bs)

theorem keepsFiles_filterM {keep : α → Run Bool} (hkeep : ∀ a, KeepsFiles (keep a))
    (items : List α) : KeepsFiles (items.filterM keep) := by
  have haux : ∀ kept, KeepsFiles (items.filterAuxM keep kept) := by
    induction items with
    | nil => exact fun kept => keepsFiles_pure kept
    | cons a rest ih =>
      intro kept
      rw [List.filterAuxM]
      exact (hkeep a).bind fun b => ih _
  exact (haux []).bind fun kept => keepsFiles_pure kept.reverse

theorem keepsFiles_display (lines : Except Markup.MarkupError (List String)) :
    KeepsFiles (display lines) := by
  intro s
  cases hshown : lines with
  | ok lines =>
    rw [run_display rfl]
    split <;> exact ⟨_, _, rfl⟩
  | error e =>
    rw [run_display_error rfl]
    exact ⟨_, _, rfl⟩

theorem keepsFiles_refuse (reason : String) : KeepsFiles (refuse reason : Run α) :=
  (keepsFiles_display _).bind fun _ => keepsFiles_throw _

theorem keepsFiles_refuseConfig (source : Path) (fault : ConfigFault) :
    KeepsFiles (refuseConfig source fault : Run α) := by
  delta refuseConfig
  cases Screen.failure (LoadError.configMessage source fault) with
  | ok lines => exact keepsFiles_refuse _
  | error e => exact keepsFiles_throw _

theorem keepsFiles_look (find : FileTree → Except AccessError α) : KeepsFiles (look find) := by
  intro s
  cases hfind : find s.tree with
  | ok a => exact ⟨_, _, congrArg Prod.snd (run_look hfind)⟩
  | error e => exact ⟨_, _, congrArg Prod.snd (run_look_error hfind)⟩

theorem keepsFiles_result
    (found : FileTree → Except Project.LintFailure (LintResult × List Warning)) :
    KeepsFiles (result found) := by
  intro s
  cases hfound : found s.tree with
  | ok r => exact ⟨_, _, congrArg Prod.snd (run_result_ok hfound)⟩
  | error f => exact ⟨_, _, congrArg Prod.snd (run_result_error hfound)⟩

theorem keepsFiles_expandHome (p : Path) : KeepsFiles (expandHome env p) := by
  unfold expandHome
  split
  · split
    · exact keepsFiles_pure _
    · split
      · exact keepsFiles_pure _
      · exact keepsFiles_throw _
    · exact keepsFiles_pure _
  · exact keepsFiles_pure _

theorem keepsFiles_resolve (p : Path) : KeepsFiles (resolve env p) :=
  (keepsFiles_expandHome p).bind fun _ => (keepsFiles_look _).bind fun _ => keepsFiles_pure _

theorem keepsFiles_resolveTargets (targets : List Path) :
    KeepsFiles (resolveTargets env targets) := by
  refine (keepsFiles_mapM keepsFiles_resolve targets).bind fun resolved => ?_
  refine (keepsFiles_filterM (fun p => ?_) resolved).bind fun missing => ?_
  · exact (keepsFiles_look _).bind fun _ => keepsFiles_pure _
  · split
    · exact keepsFiles_pure _
    · exact keepsFiles_refuse _

theorem keepsFiles_openProject (choice : ProjectChoice) : KeepsFiles (openProject env choice) := by
  refine (keepsFiles_look _).bind fun root => ?_
  refine KeepsFiles.bind (fun _ => ⟨_, _, rfl⟩) fun session => ?_
  split
  · exact KeepsFiles.bind (fun _ => ⟨_, _, rfl⟩) fun _ => keepsFiles_pure _
  · exact keepsFiles_refuseConfig _ _
  · exact keepsFiles_throw _

/-! ## Values -/

section

variable {t : FileTree} {P : α → Prop} {Q : β → Prop}

/-- Whenever a step gives a value over some files, the value is of a kind, and at most something
has been warned of. -/
def Yields (t : FileTree) (P : α → Prop) (x : Run α) : Prop :=
  ∀ s a s', s.tree = t → x.run s = (.ok a, s') → (∃ warnings, s' = { s with warnings }) ∧ P a

theorem yields_pure {a : α} (h : P a) : Yields t P (pure a) := by
  intro s a' s' htree hrun
  cases hrun
  exact ⟨⟨_, rfl⟩, h⟩

theorem yields_throw (e : Ending) : Yields t P (throw e : Run α) := by
  intro s a s' htree hrun
  cases hrun

theorem yields_refuse (reason : String) : Yields t P (refuse reason : Run α) :=
  fun _ _ _ _ hrun => absurd hrun run_refuse_ne

theorem yields_refuseConfig (source : Path) (fault : ConfigFault) :
    Yields t P (refuseConfig source fault : Run α) :=
  fun _ _ _ _ hrun => absurd hrun run_refuseConfig_ne

theorem yields_get : Yields t (fun _ => True) (get : Run Session) := by
  intro s a s' htree hrun
  cases hrun
  exact ⟨⟨_, rfl⟩, trivial⟩

theorem yields_warn (warnings : List Warning) : Yields t (fun _ => True) (warn warnings) := by
  intro s a s' htree hrun
  cases hrun
  exact ⟨⟨_, rfl⟩, trivial⟩

theorem Yields.bind {x : Run α} {f : α → Run β} (hx : Yields t P x)
    (hf : ∀ a, P a → Yields t Q (f a)) : Yields t Q (x >>= f) := by
  intro s b s'' htree hrun
  rw [run_bind] at hrun
  cases hfirst : x.run s with
  | mk found s' =>
    rw [hfirst] at hrun
    cases found with
    | ok a =>
      obtain ⟨⟨first, rfl⟩, ha⟩ := hx s a s' htree hfirst
      obtain ⟨⟨warnings, rfl⟩, hb⟩ := hf a ha { s with warnings := first } b s'' htree hrun
      exact ⟨⟨warnings, rfl⟩, hb⟩
    | error e => cases hrun

theorem yields_look {find : FileTree → Except AccessError α}
    (h : ∀ a, find t = .ok a → P a) : Yields t P (look find) := by
  intro s a s' htree hrun
  cases hfind : find s.tree with
  | ok found =>
    rw [run_look hfind] at hrun
    cases hrun
    exact ⟨⟨_, rfl⟩, h _ (htree ▸ hfind)⟩
  | error e =>
    rw [run_look_error hfind] at hrun
    cases hrun

theorem yields_result
    {found : FileTree → Except Project.LintFailure (LintResult × List Warning)}
    {P : LintResult → Prop} (h : ∀ r warnings, found t = .ok (r, warnings) → P r) :
    Yields t P (result found) := by
  intro s r s' htree hrun
  cases hfound : found s.tree with
  | ok run =>
    rw [run_result_ok hfound] at hrun
    cases hrun
    exact ⟨⟨_, rfl⟩, h _ _ (htree ▸ hfound)⟩
  | error f =>
    rw [run_result_error hfound] at hrun
    cases hrun

theorem yields_mapM {f : α → Run β} {items : List α} (hf : ∀ a ∈ items, Yields t Q (f a)) :
    Yields t (fun bs => ∀ b ∈ bs, Q b) (items.mapM f) := by
  induction items with
  | nil => exact yields_pure (List.forall_mem_nil Q)
  | cons a rest ih =>
    rw [List.forall_mem_cons] at hf
    rw [List.mapM_cons]
    exact hf.1.bind fun b hb => (ih hf.2).bind fun bs hbs =>
      yields_pure (List.forall_mem_cons.2 ⟨hb, hbs⟩)

theorem yields_filterM {keep : α → Run Bool} (hkeep : ∀ a, Yields t (fun _ => True) (keep a))
    (items : List α) : Yields t (fun _ => True) (items.filterM keep) := by
  have haux : ∀ kept, Yields t (fun _ => True) (items.filterAuxM keep kept) := by
    induction items with
    | nil => exact fun kept => yields_pure trivial
    | cons a rest ih =>
      intro kept
      rw [List.filterAuxM]
      exact (hkeep a).bind fun b _ => ih _
  exact (haux []).bind fun kept _ => yields_pure trivial

end

end Run

end Command

end LineLint
