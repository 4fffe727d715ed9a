import LineLint.Proofs.Resolving

/-!
# Resolving a path that leads somewhere

A walk follows links one after another and looks at what stands on its way, while resolution
replaces links one inside another and looks at links only. Main statements:
`FileTree.resolve_of_locate`, a path that a walk can follow is resolved to the place where the walk
ends, and `FileTree.isReal_of_resolve`.
-/

namespace LineLint.FileTree

variable {t : FileTree} {here there : Location} {steps : List String} {depth n : Nat}
  {opened : List Location}

/-- The steps that are not there to ask for a directory only. -/
def plainSteps (steps : List String) : List String :=
  steps.filter fun step => !(step == slashStep || step == dotStep)

theorem endSteps_eq {target step : String} (h : step ∈ endSteps target) :
    step = slashStep ∨ step = dotStep := by
  rw [endSteps] at h
  split at h
  · split_ifs at h <;> simp_all
  · simp at h

theorem plainSteps_parts {p : Path} (h : p.IsPlain) : plainSteps p.parts = p.parts := by
  rw [plainSteps, List.filter_eq_self]
  intro name hname
  obtain ⟨hempty, hdot, -⟩ := h name hname
  simp [slashStep, dotStep, hempty, hdot]

theorem plainSteps_target (target : String) :
    plainSteps ((Path.parse target).parts ++ endSteps target) = (Path.parse target).parts := by
  have hend : plainSteps (endSteps target) = [] := by
    rw [plainSteps, List.filter_eq_nil_iff]
    intro step hstep
    rcases endSteps_eq hstep with rfl | rfl <;> simp
  have hparts := plainSteps_parts (Path.isPlain_parse target)
  rw [plainSteps] at hend hparts ⊢
  rw [List.filter_append, hend, hparts, List.append_nil]

theorem plainSteps_cons {name : String} (h : name ≠ slashStep) (h' : name ≠ dotStep) :
    plainSteps (name :: steps) = name :: plainSteps steps := by
  simp [plainSteps, h, h']

theorem no_null_target (h : t.Sound) {place : Location} {target step : String}
    (hlink : t.entry? place = some (.link target))
    (hstep : step ∈ (Path.parse target).parts ++ endSteps target) :
    Char.ofNat 0 ∉ step.toList := by
  rcases List.mem_append.1 hstep with hstep | hstep
  · exact no_null_of_link h hlink step hstep
  · rcases endSteps_eq hstep with rfl | rfl <;> simp [slashStep, dotStep]

/-- The steps of a walk are resolved to where they lead. -/
theorem Leads.resolves (h : t.Sound) (hleads : t.Leads here steps n there)
    (hnull : ∀ step ∈ steps, Char.ofNat 0 ∉ step.toList) :
    ∃ m, t.Resolves here (plainSteps steps) m there := by
  -- a link puts its target's steps in front, so the steps get fewer only between two links
  induction n using Nat.strongRecOn generalizing here there steps with
  | ind n ihn =>
  induction steps generalizing here with
  | nil =>
    cases hleads
    exact ⟨0, .done⟩
  | cons step steps ih =>
    rw [List.forall_mem_cons] at hnull
    obtain ⟨hstep, hrest⟩ := hnull
    cases hleads with
    | up hleads =>
      rw [plainSteps_cons (by decide) (by decide)]
      obtain ⟨m, hresolves⟩ := ih hleads hrest
      exact ⟨m, .up hresolves⟩
    | stay hstay hleads =>
      have hskip : plainSteps (step :: steps) = plainSteps steps := by
        rcases hstay with rfl | rfl <;> simp [plainSteps]
      rw [hskip]
      exact ih hleads hrest
    | enter hname hdir hleads =>
      rw [plainSteps_cons hname.ne_slash hname.ne_dot]
      obtain ⟨m, hresolves⟩ := ih hleads hrest
      exact ⟨m, .enter hname.ne_up hstep (by simp [hdir]) hresolves⟩
    | reach hname _ hlink =>
      rw [plainSteps_cons hname.ne_slash hname.ne_dot]
      exact ⟨0, .enter hname.ne_up hstep hlink .done⟩
    | @follow _ _ _ target _ n hname hlink hleads =>
      obtain ⟨mid, k, l, rfl, htarget, hafter⟩ := hleads.split
      obtain ⟨m, hinner⟩ := ihn k (by omega) htarget fun s => no_null_target h hlink
      rw [plainSteps_target] at hinner
      obtain ⟨m', houter⟩ := ihn l (by omega) hafter hrest
      rw [plainSteps_cons hname.ne_slash hname.ne_dot]
      exact ⟨_, .follow hname.ne_up hstep hlink hinner houter⟩

/-- A path that can be walked is resolved to the place where the walk ends. -/
theorem resolve_of_locate (h : t.Sound) {cwd : Location} {p : Path} {place : Place}
    (hp : p.IsPlain) (hlocate : t.locate cwd p = .ok place) :
    t.resolve cwd p = .ok place.location := by
  obtain ⟨hnull, -, -, n, -, hleads⟩ := locate_eq_ok_iff.1 hlocate
  obtain ⟨m, hresolves⟩ := hleads.resolves h hnull
  rw [plainSteps_parts hp] at hresolves
  exact resolve_of_resolves hresolves

/-! ## What resolution gives -/

/-- The names of a resolution are names of entries, or could be but for their characters. -/
def Resolution.IsPlain : Resolution → Prop
  | .complete location => Location.IsReal location
  | .stuck location rest => Location.IsReal location ∧ PlainNames rest

theorem isReal_start (hhere : Location.IsReal here) (p : Path) :
    Location.IsReal (start here p) := by
  rw [start]
  split
  · exact Location.isReal_nil
  · exact hhere

theorem isPlain_of_resolveFrom (h : t.Sound) {names : List String} {found : Resolution}
    (hhere : Location.IsReal here) (hnames : PlainNames names)
    (hfound : t.resolveFrom depth opened here names = .ok found) : found.IsPlain := by
  fun_induction resolveFrom t depth opened here names generalizing found with
  | case1 => cases hfound; exact hhere
  | case2 _ _ _ _ _ _ ih => exact ih hhere.dropLast hnames.tail hfound
  | case4 _ _ _ _ _ _ _ _ =>
    rename_i hlink
    cases hfound
    exact ⟨h.isReal_of_entry?_eq hlink, hnames.tail⟩
  | case5 _ _ _ _ _ _ _ _ hlink =>
    cases hfound
    exact ⟨h.isReal_of_entry?_eq hlink, hnames.tail⟩
  | case7 _ _ _ _ _ _ _ _ _ _ _ _ _ _ htarget =>
    rename_i ih
    cases hfound
    obtain ⟨hplace, hleft⟩ := ih (isReal_start hhere _) (Path.isPlain_parse _) htarget
    exact ⟨hplace, hleft.append hnames.tail⟩
  | case8 _ _ _ _ _ _ _ _ _ _ _ _ _ htarget ihtarget =>
    rename_i ihrest
    have hthere := ihtarget (isReal_start hhere _) (Path.isPlain_parse _) htarget
    exact ihrest hthere hnames.tail hfound
  | case9 depth opened here name rest hup hnull place hlink =>
    rename_i ih
    obtain ⟨hempty, hdot, hslash⟩ := hnames name List.mem_cons_self
    refine ih (hhere.concat ⟨hempty, hdot, ?_, hslash, ?_⟩) hnames.tail hfound
    · simpa using hup
    · simpa using hnull
  | _ => cases hfound

theorem mem_of_mem_descend {place : Location} {rest : List String} {name : String}
    (hname : name ∈ descend place rest) : name ∈ place ∨ (name ∈ rest ∧ name ≠ "..") := by
  induction rest generalizing place with
  | nil => exact .inl hname
  | cons first rest ih =>
    rw [descend, List.foldl_cons] at hname
    rcases ih hname with hplace | ⟨hrest, hup⟩
    · split at hplace
      · exact .inl (List.dropLast_subset _ hplace)
      · rename_i hfirst
        rcases List.mem_append.1 hplace with hplace | hlast
        · exact .inl hplace
        · rw [List.mem_singleton.1 hlast]
          exact .inr ⟨List.mem_cons_self, by simpa using hfirst⟩
    · exact .inr ⟨List.mem_cons_of_mem _ hrest, hup⟩

theorem locate_of_null {cwd : Location} {p : Path} {name : String} (hname : name ∈ p.parts)
    (hnull : Char.ofNat 0 ∈ name.toList) : t.locate cwd p = .error .badName := by
  have hany : p.parts.any (fun part => part.toList.contains (Char.ofNat 0)) = true :=
    List.any_eq_true.2 ⟨name, hname, by simpa using hnull⟩
  rw [locate, walk, if_pos hany]

theorem any_null_eq_false (hreal : Location.IsReal here) :
    ¬((Path.absolute here).parts.any fun name => name.toList.contains (Char.ofNat 0)) = true := by
  simpa [Path.absolute] using fun name hname => (hreal name hname).no_null

/-- A path that is too long leads nowhere, whatever stands at its end. -/
theorem locate_of_long (hreal : Location.IsReal here)
    (hsize : maxPathBytes ≤ (Path.absolute here).toString.utf8ByteSize) (cwd : Location) :
    t.locate cwd (.absolute here) = .error .nameTooLong := by
  rw [locate, walk, if_neg (any_null_eq_false hreal), if_pos hsize]

/-- What a path is resolved to consists of names. -/
theorem isReal_of_resolve (h : t.Sound) {cwd location : Location} {p : Path}
    (hcwd : Location.IsReal cwd) (hp : p.IsPlain) (hresolve : t.resolve cwd p = .ok location) :
    Location.IsReal location := by
  have hstart : Location.IsReal (start cwd p) := isReal_start hcwd p
  rw [resolve] at hresolve
  split at hresolve
  · cases hresolve
  · rename_i hfound
    cases hresolve
    exact isPlain_of_resolveFrom h hstart hp hfound
  · rename_i place rest hfound
    obtain ⟨hplace, hrest⟩ := isPlain_of_resolveFrom h hstart hp hfound
    -- what is left behind a loop of links was not looked up, so only the last look tells
    have hnull : ∀ name ∈ descend place rest, Char.ofNat 0 ∉ name.toList := by
      intro name hname hnull
      have hbad : t.locate [] (.absolute (descend place rest)) = .error .badName :=
        locate_of_null hname hnull
      simp [hbad] at hresolve
    have hlocation : location = descend place rest := by
      dsimp only at hresolve
      split at hresolve <;> cases hresolve
      rfl
    intro name hname
    rw [hlocation] at hname
    rcases mem_of_mem_descend hname with hmem | ⟨hmem, hup⟩
    · exact hplace name hmem
    · obtain ⟨hempty, hdot, hslash⟩ := hrest name hmem
      exact ⟨hempty, hdot, hup, hslash, hnull name hname⟩

end LineLint.FileTree
