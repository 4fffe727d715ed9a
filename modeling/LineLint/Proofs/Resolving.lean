import LineLint.Proofs.Frames
import Mathlib.Data.List.Perm.Subperm
import Mathlib.Logic.Relation
import Mathlib.Order.WellFoundedSet

/-!
# Replacing links

Names are resolved by replacing every link on their way, one inside another. This need not come to
an end: a link can be met again while it is being replaced. Main statements:
`FileTree.resolve_of_resolves`, what has an end is what resolution gives;
`FileTree.LoopFree.exists_resolves`, in a tree without loops of links everything has an end; and
`FileTree.IsDirect.resolve_eq`, a location without links on its way is resolved to itself.
-/

namespace LineLint.FileTree

variable {t : FileTree} {here there there' mid place other location : Location}
  {names more : List String} {name target : String} {depth n m k : ℕ} {opened : List Location}
  {cwd : Location} {p : Path}

/-! ## Names that are resolved -/

/-- Names lead from one location to another when every link on the way is replaced, so many links in
all. Nothing has to stand on the way or at the end. -/
inductive Resolves (t : FileTree) : Location → List String → ℕ → Location → Prop
  | done {here : Location} : Resolves t here [] 0 here
  | up {here there : Location} {rest : List String} {n : ℕ}
      (h : Resolves t here.dropLast rest n there) : Resolves t here (".." :: rest) n there
  | enter {here there : Location} {name : String} {rest : List String} {n : ℕ}
      (hup : name ≠ "..") (hnull : Char.ofNat 0 ∉ name.toList)
      (hlink : ∀ target, t.entry? (here ++ [name]) ≠ some (.link target))
      (h : Resolves t (here ++ [name]) rest n there) : Resolves t here (name :: rest) n there
  | follow {here mid there : Location} {name target : String} {rest : List String} {k n : ℕ}
      (hup : name ≠ "..") (hnull : Char.ofNat 0 ∉ name.toList)
      (hlink : t.entry? (here ++ [name]) = some (.link target))
      (htarget : Resolves t (start here (.parse target)) (Path.parse target).parts k mid)
      (h : Resolves t mid rest n there) : Resolves t here (name :: rest) (k + n + 1) there

/-- Names are resolved to one location, through one number of links. -/
theorem Resolves.unique (h : t.Resolves here names n there) (h' : t.Resolves here names m there') :
    n = m ∧ there = there' := by
  induction h generalizing m there' with
  | done =>
    cases h'
    exact ⟨rfl, rfl⟩
  | up _ ih =>
    cases h' with
    | up h' => exact ih h'
    | enter hup => exact absurd rfl hup
    | follow hup => exact absurd rfl hup
  | enter hup _ hlink _ ih =>
    cases h' with
    | up => exact absurd rfl hup
    | enter _ _ _ h' => exact ih h'
    | follow _ _ hlink' => exact absurd hlink' (hlink _)
  | follow hup _ hlink _ _ ihtarget ih =>
    cases h' with
    | up => exact absurd rfl hup
    | enter _ _ hlink' => exact absurd hlink (hlink' _)
    | follow _ _ hlink' htarget' h' =>
      cases hlink.symm.trans hlink'
      obtain ⟨rfl, rfl⟩ := ihtarget htarget'
      obtain ⟨rfl, rfl⟩ := ih h'
      exact ⟨rfl, rfl⟩

/-- Names are resolved alike in trees with the same links. -/
theorem Resolves.congr {t' : FileTree} (h : t.Resolves here names n there)
    (hframe : t.SameFrame t') : t'.Resolves here names n there := by
  induction h with
  | done => exact .done
  | up _ ih => exact .up ih
  | enter hup hnull hlink _ ih =>
    exact .enter hup hnull (fun target => mt (hframe.link _ _).2 (hlink target)) ih
  | follow hup hnull hlink _ _ ihtarget ih =>
    exact .follow hup hnull ((hframe.link _ _).1 hlink) ihtarget ih

/-- The link at a location is replaced, through a number of further links. -/
def Replaced (t : FileTree) (place : Location) (n : ℕ) : Prop :=
  ∃ above name target there, place = above ++ [name] ∧ t.entry? place = some (.link target) ∧
    t.Resolves (start above (.parse target)) (Path.parse target).parts n there

theorem Replaced.unique (h : t.Replaced place n) (h' : t.Replaced place m) : n = m := by
  obtain ⟨above, name, target, there, rfl, hlink, hresolves⟩ := h
  obtain ⟨above', name', target', there', hat, hlink', hresolves'⟩ := h'
  obtain ⟨rfl, -⟩ := List.append_inj' hat rfl
  cases hlink.symm.trans hlink'
  exact (hresolves.unique hresolves').1

/-! ## What resolution gives -/

theorem length_le_of_links (hlinks : ∀ place ∈ opened, ∃ n, t.Replaced place n)
    (hnodup : opened.Nodup) : opened.length ≤ t.entries.length := by
  have hsub : opened ⊆ t.toList.map Prod.fst := by
    intro place hplace
    obtain ⟨-, above, name, target, -, rfl, hlink, -⟩ := hlinks place hplace
    exact List.mem_map.2 ⟨_, mem_of_entry?_eq (by simp) hlink, rfl⟩
  simpa [toList] using (List.subperm_of_subset hnodup hsub).length_le

/-- Each link that is being replaced has at least as many links to replace as are left here. -/
theorem resolveFrom_of_resolves (h : t.Resolves here names n there)
    (hopened : ∀ place ∈ opened, ∃ m ≥ n, t.Replaced place m) (hnodup : opened.Nodup)
    (hdepth : depth + opened.length = t.entries.length + 1) :
    t.resolveFrom depth opened here names = .ok (.complete there) := by
  induction h generalizing depth opened with
  | done => rw [resolveFrom]
  | up _ ih =>
    rw [resolveFrom, if_pos BEq.rfl]
    exact ih hopened hnodup hdepth
  | @enter here _ name _ _ hup hnull hlink _ ih =>
    rw [resolveFrom, if_neg (by simpa using hup), if_neg (by simpa using hnull)]
    have hrest := ih hopened hnodup hdepth
    cases hentry : t.entry? (here ++ [name]) with
    | none => simpa [hentry] using hrest
    | some entry =>
      cases entry with
      | link target => exact absurd hentry (hlink target)
      | directory => simpa [hentry] using hrest
      | file bytes => simpa [hentry] using hrest
  | @follow here mid there name target rest k n hup hnull hlink htarget _ ihtarget ih =>
    have hreplaced : t.Replaced (here ++ [name]) k := ⟨_, _, _, _, rfl, hlink, htarget⟩
    -- a link that is being replaced has more links to replace than this one has
    have hfresh : here ++ [name] ∉ opened := by
      intro hmem
      obtain ⟨m, hm, hreplaced'⟩ := hopened _ hmem
      have hk : k = m := hreplaced.unique hreplaced'
      omega
    -- the links that are being replaced are different entries, so the depth is not used up
    have hlength : opened.length ≤ t.entries.length :=
      length_le_of_links (fun place hplace => (hopened place hplace).imp fun _ hm => hm.2) hnodup
    obtain ⟨depth, rfl⟩ : ∃ d, depth = d + 1 := ⟨depth - 1, by omega⟩
    have hopened' : ∀ place ∈ (here ++ [name]) :: opened, ∃ m ≥ k, t.Replaced place m := by
      intro place hplace
      rcases List.mem_cons.1 hplace with rfl | hplace
      · exact ⟨k, Nat.le_refl k, hreplaced⟩
      · obtain ⟨m, hm, hreplaced'⟩ := hopened place hplace
        exact ⟨m, by omega, hreplaced'⟩
    have hdepth' : depth + ((here ++ [name]) :: opened).length = t.entries.length + 1 := by
      rw [List.length_cons]
      omega
    have hinner := ihtarget hopened' (List.nodup_cons.2 ⟨hfresh, hnodup⟩) hdepth'
    have houter : t.resolveFrom (depth + 1) opened mid rest = .ok (.complete there) := by
      refine ih (fun place hplace => ?_) hnodup hdepth
      obtain ⟨m, hm, hreplaced'⟩ := hopened place hplace
      exact ⟨m, by omega, hreplaced'⟩
    rw [resolveFrom, if_neg (by simpa using hup), if_neg (by simpa using hnull)]
    simp [hlink, hfresh, hinner, houter]

/-- A path whose names are resolved is resolved. -/
theorem resolve_of_resolves (h : t.Resolves (start cwd p) p.parts n location) :
    t.resolve cwd p = .ok location := by
  have hnone : ∀ place ∈ ([] : List Location), ∃ m ≥ n, t.Replaced place m := by simp
  rw [resolve, resolveFrom_of_resolves h hnone List.nodup_nil rfl]

/-! ## Trees without loops -/

/-- Resolving names meets a link: it stands on the way, behind links that have been replaced. -/
inductive Meets (t : FileTree) : Location → List String → Location → Prop
  | stand {here : Location} {name target : String} {rest : List String} (hup : name ≠ "..")
      (hlink : t.entry? (here ++ [name]) = some (.link target)) :
      Meets t here (name :: rest) (here ++ [name])
  | up {here place : Location} {rest : List String} (h : Meets t here.dropLast rest place) :
      Meets t here (".." :: rest) place
  | enter {here place : Location} {name : String} {rest : List String} (hup : name ≠ "..")
      (hlink : ∀ target, t.entry? (here ++ [name]) ≠ some (.link target))
      (h : Meets t (here ++ [name]) rest place) : Meets t here (name :: rest) place
  | past {here mid place : Location} {name target : String} {rest : List String} {k : ℕ}
      (hup : name ≠ "..") (hlink : t.entry? (here ++ [name]) = some (.link target))
      (htarget : Resolves t (start here (.parse target)) (Path.parse target).parts k mid)
      (h : Meets t mid rest place) : Meets t here (name :: rest) place

/-- Replacing the link at one location meets the link at another. -/
def Needs (t : FileTree) (place other : Location) : Prop :=
  ∃ above name target, place = above ++ [name] ∧ t.entry? place = some (.link target) ∧
    t.Meets (start above (.parse target)) (Path.parse target).parts other

/-- No link is met again while it is being replaced. -/
def LoopFree (t : FileTree) : Prop := ∀ place, ¬Relation.TransGen t.Needs place place

theorem Meets.link (h : t.Meets here names place) :
    ∃ above name target, place = above ++ [name] ∧ t.entry? place = some (.link target) := by
  induction h with
  | stand _ hlink => exact ⟨_, _, _, rfl, hlink⟩
  | up _ ih => exact ih
  | enter _ _ _ ih => exact ih
  | past _ _ _ _ ih => exact ih

/-- Names are resolved if each link that they meet is replaced. -/
theorem exists_resolves_of_meets (hnull : ∀ name ∈ names, Char.ofNat 0 ∉ name.toList)
    (hmeets : ∀ place, t.Meets here names place → ∃ n, t.Replaced place n) :
    ∃ n there, t.Resolves here names n there := by
  induction names generalizing here with
  | nil => exact ⟨0, here, .done⟩
  | cons name rest ih =>
    rw [List.forall_mem_cons] at hnull
    by_cases hup : name = ".."
    · subst hup
      obtain ⟨n, there, h⟩ := ih hnull.2 fun place hplace => hmeets place (.up hplace)
      exact ⟨n, there, .up h⟩
    by_cases hlink : ∃ target, t.entry? (here ++ [name]) = some (.link target)
    · obtain ⟨target, hlink⟩ := hlink
      obtain ⟨k, above, name', target', mid, hat, hlink', htarget⟩ :=
        hmeets _ (.stand hup hlink)
      obtain ⟨rfl, -⟩ := List.append_inj' hat rfl
      cases hlink.symm.trans hlink'
      obtain ⟨n, there, h⟩ := ih hnull.2 fun place hplace =>
        hmeets place (.past hup hlink htarget hplace)
      exact ⟨k + n + 1, there, .follow hup hnull.1 hlink htarget h⟩
    · rw [not_exists] at hlink
      obtain ⟨n, there, h⟩ := ih hnull.2 fun place hplace => hmeets place (.enter hup hlink hplace)
      exact ⟨n, there, .enter hup hnull.1 hlink h⟩

/-- A link that names meet is replaced through fewer links than the names. -/
theorem Meets.replaced (hmeets : t.Meets here names place) (h : t.Resolves here names n there) :
    ∃ m < n, t.Replaced place m := by
  induction hmeets generalizing n with
  | stand hup hlink =>
    cases h with
    | up => exact absurd rfl hup
    | enter _ _ hlink' => exact absurd hlink (hlink' _)
    | @follow _ _ _ _ _ _ k n _ _ hlink' htarget =>
      cases hlink.symm.trans hlink'
      exact ⟨k, by omega, _, _, _, _, rfl, hlink, htarget⟩
  | up _ ih =>
    cases h with
    | up h => exact ih h
    | enter hup => exact absurd rfl hup
    | follow hup => exact absurd rfl hup
  | enter hup hlink _ ih =>
    cases h with
    | up => exact absurd rfl hup
    | enter _ _ _ h => exact ih h
    | follow _ _ hlink' => exact absurd hlink' (hlink _)
  | past hup hlink htarget _ ih =>
    cases h with
    | up => exact absurd rfl hup
    | enter _ _ hlink' => exact absurd hlink (hlink' _)
    | follow _ _ hlink' htarget' h =>
      cases hlink.symm.trans hlink'
      obtain ⟨rfl, rfl⟩ := htarget.unique htarget'
      obtain ⟨m, hm, hreplaced⟩ := ih h
      exact ⟨m, by omega, hreplaced⟩

theorem Replaced.of_needs (h : t.Replaced place n)
    (hneeds : Relation.TransGen t.Needs place other) : ∃ m < n, t.Replaced other m := by
  have hone : ∀ {place other n}, t.Replaced place n → t.Needs place other →
      ∃ m < n, t.Replaced other m := by
    rintro _ _ _ ⟨above, name, target, there, rfl, hlink, hresolves⟩
      ⟨above', name', target', hat, hlink', hmeets⟩
    obtain ⟨rfl, -⟩ := List.append_inj' hat rfl
    cases hlink.symm.trans hlink'
    exact hmeets.replaced hresolves
  induction hneeds with
  | single hneeds => exact hone h hneeds
  | tail _ hneeds ih =>
    obtain ⟨m, hm, hreplaced⟩ := ih
    obtain ⟨k, hk, hreplaced'⟩ := hone hreplaced hneeds
    exact ⟨k, by omega, hreplaced'⟩

theorem finite_links (t : FileTree) :
    {place | ∃ target, t.entry? place = some (.link target)}.Finite := by
  refine (t.toList.map Prod.fst).finite_toSet.subset ?_
  rintro place ⟨target, hlink⟩
  have hne : place ≠ [] := by
    rintro rfl
    cases hlink
  exact List.mem_map.2 ⟨_, mem_of_entry?_eq hne hlink, rfl⟩

theorem no_null_of_link (h : t.Sound) (hlink : t.entry? place = some (.link target)) :
    ∀ name ∈ (Path.parse target).parts, Char.ofNat 0 ∉ name.toList := by
  have hne : place ≠ [] := by
    rintro rfl
    cases hlink
  exact fun name hname hnull =>
    h.targets _ (mem_of_entry?_eq hne hlink) target rfl (Path.mem_of_mem_parts hname hnull)

/-- Without loops every link is replaced: there are only so many, so one cannot need another without
end. -/
theorem LoopFree.exists_replaced (h : t.Sound) (hloop : t.LoopFree)
    (hlink : t.entry? place = some (.link target)) : ∃ n, t.Replaced place n := by
  have : IsStrictOrder Location fun other place => Relation.TransGen t.Needs place other :=
    { irrefl := hloop, trans := fun _ _ _ hfirst hsecond => hsecond.trans hfirst }
  have hwf := t.finite_links.wellFoundedOn
    (r := fun other place => Relation.TransGen t.Needs place other)
  refine hwf.induction (P := fun place => ∃ n, t.Replaced place n) ⟨target, hlink⟩ ?_
  rintro place ⟨target, hlink⟩ ih
  obtain ⟨above, name, rfl⟩ : ∃ above name, place = above ++ [name] := by
    refine (List.eq_nil_or_concat' place).resolve_left ?_
    rintro rfl
    cases hlink
  obtain ⟨n, there, hresolves⟩ := exists_resolves_of_meets (no_null_of_link h hlink)
    fun other hmeets => by
      obtain ⟨_, _, _, -, hlink'⟩ := hmeets.link
      exact ih other ⟨_, hlink'⟩ (.single ⟨above, name, target, rfl, hlink, hmeets⟩)
  exact ⟨n, above, name, target, there, rfl, hlink, hresolves⟩

/-- A tree is without loops if and only if each of its links is replaced. -/
theorem loopFree_iff (h : t.Sound) : t.LoopFree ↔
    ∀ place target, t.entry? place = some (.link target) → ∃ n, t.Replaced place n := by
  refine ⟨fun hloop place target => hloop.exists_replaced h, fun hlinks place hneeds => ?_⟩
  obtain ⟨target, hlink⟩ : ∃ target, t.entry? place = some (.link target) := by
    obtain ⟨_, ⟨_, _, target, rfl, hlink, -⟩, -⟩ := Relation.TransGen.head'_iff.1 hneeds
    exact ⟨target, hlink⟩
  obtain ⟨n, hreplaced⟩ := hlinks place target hlink
  obtain ⟨m, hm, hreplaced'⟩ := hreplaced.of_needs hneeds
  exact absurd (hreplaced.unique hreplaced') (by omega)

section

variable (h : t.Sound) (hloop : t.LoopFree)

include h hloop

/-- In a tree without loops all names are resolved. -/
theorem LoopFree.exists_resolves (hnull : ∀ name ∈ names, Char.ofNat 0 ∉ name.toList)
    (here : Location) : ∃ n there, t.Resolves here names n there :=
  exists_resolves_of_meets hnull fun _ hmeets =>
    have ⟨_, _, _, _, hlink⟩ := hmeets.link
    hloop.exists_replaced h hlink

theorem LoopFree.exists_resolve (hnull : ∀ name ∈ p.parts, Char.ofNat 0 ∉ name.toList)
    (cwd : Location) : ∃ location, t.resolve cwd p = .ok location := by
  obtain ⟨n, there, hresolves⟩ := hloop.exists_resolves h hnull (start cwd p)
  exact ⟨there, resolve_of_resolves hresolves⟩

/-- Whatever has been resolved before, a name that is none is an error. -/
theorem LoopFree.resolveFrom_of_null (hname : name ∈ names) (hnull : Char.ofNat 0 ∈ name.toList) :
    t.resolveFrom (t.entries.length + 1) [] here names = .error .badName := by
  induction names generalizing here with
  | nil => cases hname
  | cons first rest ih =>
    by_cases hup : first = ".."
    · have hrest : name ∈ rest := by
        refine (List.mem_cons.1 hname).resolve_left ?_
        rintro rfl
        rw [hup] at hnull
        revert hnull
        decide
      rw [resolveFrom, if_pos (by simpa using hup)]
      exact ih hrest
    by_cases hbad : Char.ofNat 0 ∈ first.toList
    · rw [resolveFrom, if_neg (by simpa using hup), if_pos (by simpa using hbad)]
    have hrest : name ∈ rest := by
      refine (List.mem_cons.1 hname).resolve_left ?_
      rintro rfl
      exact hbad hnull
    rw [resolveFrom, if_neg (by simpa using hup), if_neg (by simpa using hbad)]
    cases hentry : t.entry? (here ++ [first]) with
    | none => simpa [hentry] using ih hrest
    | some entry =>
      cases entry with
      | directory => simpa [hentry] using ih hrest
      | file bytes => simpa [hentry] using ih hrest
      | link target =>
        obtain ⟨n, above, name', target', there, hat, hlink, hresolves⟩ :=
          hloop.exists_replaced h hentry
        obtain ⟨rfl, -⟩ := List.append_inj' hat rfl
        cases hentry.symm.trans hlink
        have htarget : t.resolveFrom t.entries.length [here ++ [first]] (start here (.parse target))
            (Path.parse target).parts = .ok (.complete there) := by
          refine resolveFrom_of_resolves hresolves (fun place hplace => ?_) (List.nodup_singleton _)
            rfl
          rw [List.mem_singleton.1 hplace]
          exact ⟨n, Nat.le_refl n, here, first, target, there, rfl, hentry, hresolves⟩
        simpa [hentry, htarget] using ih hrest

theorem LoopFree.resolve_of_null (hname : name ∈ p.parts) (hnull : Char.ofNat 0 ∈ name.toList) :
    t.resolve cwd p = .error .badName := by
  rw [resolve, hloop.resolveFrom_of_null h hname hnull]

end

/-! ## Locations without links on the way -/

/-- No link stands at a location or on the way to it. -/
def IsDirect (t : FileTree) (location : Location) : Prop :=
  ∀ place, place <+: location → ∀ target, t.entry? place ≠ some (.link target)

theorem isDirect_nil : t.IsDirect [] := by
  intro place hplace target hlink
  rw [List.prefix_nil.1 hplace] at hlink
  cases hlink

theorem IsDirect.of_prefix (h : t.IsDirect location) (hfront : place <+: location) :
    t.IsDirect place :=
  fun other hother => h other (hother.trans hfront)

theorem IsDirect.concat (h : t.IsDirect location)
    (hlink : ∀ target, t.entry? (location ++ [name]) ≠ some (.link target)) :
    t.IsDirect (location ++ [name]) := by
  intro place hplace
  rcases List.prefix_concat_iff.1 hplace with rfl | hplace
  · exact hlink
  · exact h place hplace

theorem isDirect_of_directory (h : t.WellFormed) (hdir : t.entry? location = some .directory) :
    t.IsDirect location := by
  rintro place ⟨rest, rfl⟩ target hlink
  by_cases hrest : rest = []
  · rw [hrest, List.append_nil, hlink] at hdir
    cases hdir
  · cases hlink.symm.trans (entry?_of_append h hrest hdir)

theorem isDirect_start (hhere : t.IsDirect here) (p : Path) : t.IsDirect (start here p) := by
  rw [start]
  split
  · exact isDirect_nil
  · exact hhere

/-- What names are resolved to has no link on its way. -/
theorem Resolves.isDirect (h : t.Resolves here names n there) (hhere : t.IsDirect here) :
    t.IsDirect there := by
  induction h with
  | done => exact hhere
  | up _ ih => exact ih (hhere.of_prefix (List.dropLast_prefix _))
  | enter _ _ hlink _ ih => exact ih (hhere.concat hlink)
  | follow _ _ _ _ _ ihtarget ih => exact ih (ihtarget (isDirect_start hhere _))

/-- Names without links on the way are resolved to the location where they lead down. -/
theorem IsDirect.resolves (h : t.IsDirect (here ++ names)) (hreal : Location.IsReal names) :
    t.Resolves here names 0 (here ++ names) := by
  induction names generalizing here with
  | nil =>
    rw [List.append_nil]
    exact .done
  | cons name rest ih =>
    rw [List.append_cons] at h ⊢
    have hname := hreal name List.mem_cons_self
    refine .enter hname.ne_up hname.no_null (h _ (List.prefix_append _ _)) (ih h ?_)
    exact fun other hother => hreal other (List.mem_cons_of_mem _ hother)

/-- A location without links on its way is resolved to itself. -/
theorem IsDirect.resolve_eq (h : t.IsDirect location) (hreal : Location.IsReal location)
    (cwd : Location) : t.resolve cwd (.absolute location) = .ok location := by
  have hresolves : t.Resolves [] location 0 ([] ++ location) := IsDirect.resolves h hreal
  exact resolve_of_resolves hresolves

end LineLint.FileTree
