import LineLint.Proofs.Names
import Mathlib.Data.List.Induction
import Mathlib.Data.List.Nodup

/-!
# Walking down a tree

A sound tree is one that a file system can hold. In it the names of an entry lead to that entry
and to no other, and a walk along real directories goes exactly where its names say. Main
statements: `FileTree.locate_eq_ok_iff`, a path is located where its steps lead, and
`FileTree.locate_absolute`, a path without links leads to its own location.
-/

namespace LineLint

/-- The target of a link. -/
def Entry.target? : Entry → Option String
  | link target => some target
  | _ => none

theorem Entry.eq_link_of_mem_target? {entry : Entry} {target : String}
    (h : target ∈ entry.target?) : entry = .link target := by
  cases entry <;> cases h
  rfl

namespace FileTree

/-- A tree that a file system can hold: every entry has a fitting name, and no link's target
holds the null character. -/
structure Sound (t : FileTree) : Prop extends t.WellFormed where
  names : ∀ row ∈ t.toList, ∀ name ∈ row.1, IsName name ∧ name.utf8ByteSize ≤ maxNameBytes
  targets : ∀ row ∈ t.toList, ∀ target, row.2 = .link target → Char.ofNat 0 ∉ target.toList

instance (t : FileTree) : Decidable t.WellFormed :=
  decidable_of_iff ((t.toList.map Prod.fst).Nodup ∧ (∀ row ∈ t.toList, row.1 ≠ []) ∧
      ∀ row ∈ t.toList, t.entry? row.1.dropLast = some .directory)
    ⟨fun ⟨hnodup, htop, hparent⟩ => ⟨hnodup, htop, hparent⟩,
      fun h => ⟨h.nodup, h.ne_top, h.parent⟩⟩

instance (t : FileTree) : Decidable t.Sound :=
  decidable_of_iff (t.WellFormed ∧
      (∀ row ∈ t.toList, ∀ name ∈ row.1, IsName name ∧ name.utf8ByteSize ≤ maxNameBytes) ∧
      ∀ row ∈ t.toList, ∀ target ∈ row.2.target?, Char.ofNat 0 ∉ target.toList)
    ⟨fun ⟨hwell, hnames, htargets⟩ => ⟨hwell, hnames, fun row hrow target hlink =>
        htargets row hrow target (by rw [hlink]; rfl)⟩,
      fun h => ⟨h.toWellFormed, h.names, fun row hrow target hlink =>
        h.targets row hrow target (Entry.eq_link_of_mem_target? hlink)⟩⟩

variable {t : FileTree}

/-! ## Entries -/

@[simp] theorem entry?_nil : t.entry? [] = some .directory := rfl

theorem mem_of_entry?_eq {location : Location} {entry : Entry} (hne : location ≠ [])
    (h : t.entry? location = some entry) : (location, entry) ∈ t.toList := by
  simp only [ entry?, List.isEmpty_iff, hne, if_false] at h
  obtain ⟨before, after, hrows, -⟩ := List.lookup_eq_some_iff.1 h
  rw [toList, hrows]
  simp

theorem lookup_of_mem {κ β : Type} [BEq κ] [LawfulBEq κ] {rows : List (κ × β)} {key : κ} {value : β}
    (h : (rows.map Prod.fst).Nodup) (hrow : (key, value) ∈ rows) :
    rows.lookup key = some value := by
  induction rows with
  | nil => simp at hrow
  | cons row rest ih =>
    rw [List.map_cons, List.nodup_cons] at h
    rcases List.mem_cons.1 hrow with rfl | hrow
    · simp
    · have hne : key ≠ row.1 := by
        rintro rfl
        exact h.1 (List.mem_map.2 ⟨_, hrow, rfl⟩)
      rw [List.lookup_cons, beq_eq_false_iff_ne.2 hne]
      exact ih h.2 hrow

theorem entry?_of_mem (h : t.WellFormed) {location : Location} {entry : Entry}
    (hrow : (location, entry) ∈ t.toList) : t.entry? location = some entry := by
  have hne : location ≠ [] := h.ne_top _ hrow
  have hnodup : (t.entries.map Prod.fst).Nodup := by
    refine List.Nodup.of_map Array.toList ?_
    simpa [toList, Function.comp_def] using h.nodup
  simp only [ entry?, List.isEmpty_iff, hne, if_false]
  refine lookup_of_mem hnodup ?_
  obtain ⟨row, hmem, hrow⟩ := List.mem_map.1 hrow
  cases hrow
  simpa using hmem

/-- Whatever an entry stands in is a directory. -/
theorem entry?_of_append (h : t.WellFormed) {above names : List String} {entry : Entry}
    (hne : names ≠ []) (he : t.entry? (above ++ names) = some entry) :
    t.entry? above = some .directory := by
  induction names using List.reverseRecOn generalizing entry with
  | nil => exact absurd rfl hne
  | append_singleton names name ih =>
    have hrow := mem_of_entry?_eq (by simp) he
    have hparent := h.parent _ hrow
    simp only [← List.append_assoc, List.dropLast_concat] at hparent
    by_cases hnil : names = []
    · simpa [hnil] using hparent
    · exact ih hnil hparent

theorem Sound.name_of_entry?_eq (h : t.Sound) {location : Location} {entry : Entry}
    (he : t.entry? location = some entry) :
    ∀ name ∈ location, IsName name ∧ name.utf8ByteSize ≤ maxNameBytes := by
  intro name hname
  exact h.names _ (mem_of_entry?_eq (List.ne_nil_of_mem hname) he) name hname

theorem Sound.isReal_of_entry?_eq (h : t.Sound) {location : Location} {entry : Entry}
    (he : t.entry? location = some entry) : Location.IsReal location :=
  fun name hname => (h.name_of_entry?_eq he name hname).1

theorem Sound.isReal_below (h : t.Sound) {above names : List String} {entry : Entry}
    (hrow : (above ++ names, entry) ∈ t.toList) : Location.IsReal names :=
  fun name hname => (h.names _ hrow name (List.mem_append_right _ hname)).1

/-! ## What a walk does -/

/-- A step that looks up a name. -/
structure IsStep (name : String) : Prop where
  ne_up : name ≠ ".."
  ne_slash : name ≠ slashStep
  ne_dot : name ≠ dotStep
  size : name.utf8ByteSize ≤ maxNameBytes

theorem IsStep.of_not {name : String} (hup : ¬(name == "..") = true)
    (hstay : ¬(name == slashStep || name == dotStep) = true)
    (hsize : ¬maxNameBytes < name.utf8ByteSize) : IsStep name := by
  simp only [Bool.or_eq_true, beq_iff_eq, not_or] at hup hstay
  exact ⟨hup, hstay.1, hstay.2, Nat.not_lt.1 hsize⟩

theorem IsStep.of_isName {name : String} (h : IsName name)
    (hsize : name.utf8ByteSize ≤ maxNameBytes) : IsStep name :=
  ⟨h.ne_up, h.ne_empty, h.ne_dot, hsize⟩

theorem IsStep.not_stay {name : String} (h : IsStep name) :
    ¬(name = slashStep ∨ name = dotStep) :=
  not_or.2 ⟨h.ne_slash, h.ne_dot⟩

/-- The steps lead from one location to another through a number of links. Only the last of them
may miss an entry or come to a file. -/
inductive Leads (t : FileTree) : Location → List String → Nat → Location → Prop
  | done {here : Location} : Leads t here [] 0 here
  | up {here there : Location} {rest : List String} {n : Nat}
      (h : Leads t here.dropLast rest n there) : Leads t here (".." :: rest) n there
  | stay {here there : Location} {step : String} {rest : List String} {n : Nat}
      (hstep : step = slashStep ∨ step = dotStep) (h : Leads t here rest n there) :
      Leads t here (step :: rest) n there
  | enter {here there : Location} {name : String} {rest : List String} {n : Nat}
      (hname : IsStep name) (hdir : t.entry? (here ++ [name]) = some .directory)
      (h : Leads t (here ++ [name]) rest n there) : Leads t here (name :: rest) n there
  | reach {here : Location} {name : String} (hname : IsStep name)
      (hdir : t.entry? (here ++ [name]) ≠ some .directory)
      (hlink : ∀ target, t.entry? (here ++ [name]) ≠ some (.link target)) :
      Leads t here [name] 0 (here ++ [name])
  | follow {here there : Location} {name target : String} {rest : List String} {n : Nat}
      (hname : IsStep name) (hlink : t.entry? (here ++ [name]) = some (.link target))
      (h : Leads t (start here (.parse target))
        ((Path.parse target).parts ++ endSteps target ++ rest) n there) :
      Leads t here (name :: rest) (n + 1) there

variable {here there mid : Location} {steps names rest : List String} {links n m : Nat}

/-- A walk that succeeds ends where its steps lead, with few enough links on the way. -/
theorem leads_of_walkFrom {purpose : Purpose} {place : Place} (hp : purpose ≠ .entry)
    (h : t.walkFrom purpose links here steps = .ok place) :
    place.entry = t.entry? place.location ∧
      ∃ n ≤ links, t.Leads here steps n place.location := by
  fun_induction walkFrom t purpose links here steps with
  | case1 links here =>
    cases h
    exact ⟨rfl, 0, Nat.zero_le _, .done⟩
  | case2 links here name rest hup ih =>
    obtain ⟨hentry, n, hn, hleads⟩ := ih h
    rw [beq_iff_eq.1 hup]
    exact ⟨hentry, n, hn, .up hleads⟩
  | case3 links here name rest hup hstay ih =>
    obtain ⟨hentry, n, hn, hleads⟩ := ih h
    exact ⟨hentry, n, hn, .stay (by simpa using hstay) hleads⟩
  | case5 links here name rest hup hstay hsize place hnone hlast =>
    cases h
    rw [List.isEmpty_iff.1 hlast]
    exact ⟨hnone.symm, 0, Nat.zero_le _,
      .reach (.of_not hup hstay hsize) (by simp [place, hnone]) (by simp [place, hnone])⟩
  | case8 links here name rest hup hstay hsize place hdir ih =>
    obtain ⟨hentry, n, hn, hleads⟩ := ih h
    exact ⟨hentry, n, hn,
      .enter (.of_not hup hstay hsize) hdir hleads⟩
  | case9 links here name rest hup hstay hsize place bytes hfile hlast =>
    cases h
    rw [List.isEmpty_iff.1 hlast]
    exact ⟨hfile.symm, 0, Nat.zero_le _,
      .reach (.of_not hup hstay hsize) (by simp [place, hfile]) (by simp [place, hfile])⟩
  | case12 links here name rest hup hstay hsize place target hlink hlast =>
    simp [hp] at hlast
  | case14 here name rest hup hstay hsize place target hlink hlast links path ih =>
    obtain ⟨hentry, n, hn, hleads⟩ := ih h
    exact ⟨hentry, n + 1, Nat.succ_le_succ hn,
      .follow (.of_not hup hstay hsize) hlink hleads⟩
  | _ => cases h

theorem walkFrom_of_leads {purpose : Purpose} (hp : purpose ≠ .entry)
    (h : t.Leads here steps n there) (hn : n ≤ links) :
    t.walkFrom purpose links here steps = .ok ⟨there, t.entry? there⟩ := by
  induction h generalizing links with
  | done => rw [walkFrom]
  | up h ih => rw [walkFrom]; simpa using ih hn
  | stay hstep h ih =>
    rw [walkFrom]
    rcases hstep with rfl | rfl <;> simpa [slashStep, dotStep] using ih hn
  | enter hname hdir h ih =>
    rw [walkFrom]
    simpa [hname.ne_up, hname.ne_slash, hname.ne_dot, Nat.not_lt.2 hname.size, hdir] using ih hn
  | @reach here name hname hdir hlink =>
    rw [walkFrom]
    cases hentry : t.entry? (here ++ [name]) with
    | none => simp [hname.ne_up, hname.ne_slash, hname.ne_dot, Nat.not_lt.2 hname.size, hentry]
    | some entry =>
      cases entry with
      | directory => exact absurd hentry hdir
      | link target => exact absurd hentry (hlink target)
      | file bytes =>
        simp [hname.ne_up, hname.ne_slash, hname.ne_dot, Nat.not_lt.2 hname.size, hentry]
  | follow hname hlink h ih =>
    obtain ⟨links, rfl⟩ : ∃ k, links = k + 1 := ⟨links - 1, by omega⟩
    rw [walkFrom]
    simpa [hname.ne_up, hname.ne_slash, hname.ne_dot, Nat.not_lt.2 hname.size, hlink, hp] using
      ih (Nat.le_of_succ_le_succ hn)

/-! ## Joining and splitting -/

theorem Leads.append (h : t.Leads here steps n mid) (hmid : t.entry? mid = some .directory)
    (hrest : t.Leads mid rest m there) : t.Leads here (steps ++ rest) (n + m) there := by
  induction h with
  | done => simpa using hrest
  | up h ih => exact .up (ih hmid hrest)
  | stay hstep h ih => exact .stay hstep (ih hmid hrest)
  | enter hname hdir h ih => exact .enter hname hdir (ih hmid hrest)
  | reach hname hdir hlink => exact absurd hmid hdir
  | follow hname hlink h ih =>
    -- the link's target stands before the steps that are left, and these are now longer
    rw [Nat.add_right_comm]
    refine .follow hname hlink ?_
    have h' := ih hmid hrest
    rwa [List.append_assoc] at h'

theorem Leads.split (h : t.Leads here (steps ++ rest) n there) :
    ∃ mid k l, n = k + l ∧ t.Leads here steps k mid ∧ t.Leads mid rest l there := by
  -- a link puts its target's steps in front, so the steps get fewer only between two links
  induction n using Nat.strongRecOn generalizing here steps with
  | ind n ihn =>
  induction steps generalizing here with
  | nil => exact ⟨here, 0, n, (Nat.zero_add n).symm, .done, h⟩
  | cons step steps ih =>
    rw [List.cons_append] at h
    generalize hall : steps ++ rest = all at h
    cases h with
    | up h =>
      obtain ⟨mid, k, l, hn, hk, hl⟩ := ih (hall ▸ h)
      exact ⟨mid, k, l, hn, .up hk, hl⟩
    | stay hstep h =>
      obtain ⟨mid, k, l, hn, hk, hl⟩ := ih (hall ▸ h)
      exact ⟨mid, k, l, hn, .stay hstep hk, hl⟩
    | enter hname hdir h =>
      obtain ⟨mid, k, l, hn, hk, hl⟩ := ih (hall ▸ h)
      exact ⟨mid, k, l, hn, .enter hname hdir hk, hl⟩
    | reach hname hdir hlink =>
      obtain ⟨rfl, rfl⟩ := List.append_eq_nil_iff.1 hall
      exact ⟨_, 0, 0, rfl, .reach hname hdir hlink, .done⟩
    | @follow _ _ _ _ _ n hname hlink h =>
      rw [← hall, ← List.append_assoc] at h
      obtain ⟨mid, k, l, hn, hk, hl⟩ := ihn n (Nat.lt_succ_self n) h
      exact ⟨mid, k + 1, l, by omega, .follow hname hlink hk, hl⟩

/-- Steps lead to one location, through one number of links. -/
theorem Leads.unique {there' : Location} (h : t.Leads here steps n there)
    (h' : t.Leads here steps m there') : n = m ∧ there = there' := by
  induction h generalizing m there' with
  | done => cases h'; exact ⟨rfl, rfl⟩
  | up h ih =>
    cases h' with
    | up h' => exact ih h'
    | stay hstep => rcases hstep with h | h <;> simp [slashStep, dotStep] at h
    | enter hname | reach hname | follow hname => exact absurd rfl hname.ne_up
  | stay hstep h ih =>
    cases h' with
    | up => rcases hstep with h | h <;> simp [slashStep, dotStep] at h
    | stay _ h' => exact ih h'
    | enter hname | reach hname | follow hname =>
      exact absurd hstep hname.not_stay
  | enter hname hdir h ih =>
    cases h' with
    | up => exact absurd rfl hname.ne_up
    | stay hstep => exact absurd hstep hname.not_stay
    | enter _ _ h' => exact ih h'
    | reach _ hdir' => exact absurd hdir hdir'
    | follow _ hlink => simp [hdir] at hlink
  | reach hname hdir hlink =>
    cases h' with
    | up => exact absurd rfl hname.ne_up
    | stay hstep => exact absurd hstep hname.not_stay
    | enter _ hdir' => exact absurd hdir' hdir
    | reach => exact ⟨rfl, rfl⟩
    | follow _ hlink' => exact absurd hlink' (hlink _)
  | follow hname hlink h ih =>
    cases h' with
    | up => exact absurd rfl hname.ne_up
    | stay hstep => exact absurd hstep hname.not_stay
    | enter _ hdir => simp [hlink] at hdir
    | reach _ _ hlink' => exact absurd hlink (hlink' _)
    | follow _ hlink' h' =>
      cases hlink.symm.trans hlink'
      obtain ⟨rfl, rfl⟩ := ih h'
      exact ⟨rfl, rfl⟩

/-! ## Where paths lead -/

theorem leads_directories (h : t.Sound) (hdir : t.entry? (here ++ names) = some .directory) :
    t.Leads here names 0 (here ++ names) := by
  induction names generalizing here with
  | nil => simpa using .done
  | cons name names ih =>
    rw [List.append_cons] at hdir ⊢
    have hfirst : t.entry? (here ++ [name]) = some .directory := by
      by_cases hnil : names = []
      · simpa [hnil] using hdir
      · exact entry?_of_append h.toWellFormed hnil hdir
    obtain ⟨hname, hsize⟩ := h.name_of_entry?_eq hfirst name (by simp)
    exact .enter (.of_isName hname hsize) hfirst (ih hdir)

/-- The names of an entry that is no link lead to it. -/
theorem leads_entry (h : t.Sound) {entry : Entry} (hentry : t.entry? (here ++ names) = some entry)
    (hlink : ∀ target, entry ≠ .link target) : t.Leads here names 0 (here ++ names) := by
  by_cases hdir : entry = .directory
  · exact leads_directories h (hdir ▸ hentry)
  induction names using List.reverseRecOn with
  | nil => simpa using .done
  | append_singleton names name =>
    rw [← List.append_assoc] at hentry ⊢
    have hparent : t.entry? (here ++ names) = some .directory :=
      entry?_of_append h.toWellFormed (by simp) hentry
    obtain ⟨hname, hsize⟩ := h.name_of_entry?_eq hentry name (by simp)
    refine (leads_directories h hparent).append hparent (.reach (.of_isName hname hsize) ?_ ?_)
    · rw [hentry]
      exact fun he => hdir (Option.some.inj he)
    · rw [hentry]
      exact fun target he => hlink target (Option.some.inj he)

/-- A path is walked to where its steps lead, be it to use or to write what stands there. -/
theorem walk_eq_ok_iff {purpose : Purpose} {cwd : Location} {p : Path} {place : Place}
    (hp : purpose ≠ .entry) :
    t.walk purpose cwd p = .ok place ↔
      (∀ name ∈ p.parts, Char.ofNat 0 ∉ name.toList) ∧ p.toString.utf8ByteSize < maxPathBytes ∧
      place.entry = t.entry? place.location ∧
      ∃ n ≤ maxLinks, t.Leads (start cwd p) p.parts n place.location := by
  rw [walk]
  constructor
  · intro h
    split at h
    · cases h
    · split at h
      · cases h
      · rename_i hnull hsize
        obtain ⟨hentry, hleads⟩ := leads_of_walkFrom hp h
        exact ⟨by simpa using hnull, Nat.not_le.1 hsize, hentry, hleads⟩
  · rintro ⟨hnull, hsize, hentry, n, hn, hleads⟩
    have hnull' : ¬ (p.parts.any fun name => name.toList.contains (Char.ofNat 0)) = true := by
      simpa using hnull
    rw [if_neg hnull', if_neg (Nat.not_le.2 hsize), walkFrom_of_leads hp hleads hn, ← hentry]

theorem locate_eq_ok_iff {cwd : Location} {p : Path} {place : Place} :
    t.locate cwd p = .ok place ↔
      (∀ name ∈ p.parts, Char.ofNat 0 ∉ name.toList) ∧ p.toString.utf8ByteSize < maxPathBytes ∧
      place.entry = t.entry? place.location ∧
      ∃ n ≤ maxLinks, t.Leads (start cwd p) p.parts n place.location :=
  walk_eq_ok_iff (by decide)

theorem entry?_of_locate {cwd : Location} {p : Path} {place : Place}
    (hlocate : t.locate cwd p = .ok place) : t.entry? place.location = place.entry :=
  (locate_eq_ok_iff.1 hlocate).2.2.1.symm

/-- Paths that lead to one location lead to one place. -/
theorem place_of_location {cwd cwd' : Location} {p p' : Path} {place place' : Place}
    (hlocate : t.locate cwd p = .ok place) (hlocate' : t.locate cwd' p' = .ok place')
    (hsame : place.location = place'.location) : place = place' := by
  have hentry := entry?_of_locate hlocate
  have hentry' := entry?_of_locate hlocate'
  obtain ⟨location, entry⟩ := place
  obtain ⟨location', entry'⟩ := place'
  cases hsame
  cases hentry.symm.trans hentry'
  rfl

/-- The location of an entry that is no link leads to it, unless the path is too long. -/
theorem locate_absolute (h : t.Sound) {location : Location} {entry : Entry}
    (hentry : t.entry? location = some entry) (hlink : ∀ target, entry ≠ .link target)
    (hsize : (Path.absolute location).toString.utf8ByteSize < maxPathBytes) (cwd : Location) :
    t.locate cwd (.absolute location) = .ok ⟨location, some entry⟩ := by
  refine locate_eq_ok_iff.2 ⟨fun name hname => ?_, hsize, hentry.symm, 0, Nat.zero_le _, ?_⟩
  · exact (h.isReal_of_entry?_eq hentry name hname).no_null
  · have hleads : t.Leads [] location 0 ([] ++ location) := leads_entry h hentry hlink
    simpa [start, Path.absolute, Path.isAbsolute] using hleads

/-- A name that stands for nothing in a directory leads to its place there. -/
theorem locate_missing (h : t.Sound) {above : Location} {name : String}
    (hdir : t.entry? above = some .directory) (hnone : t.entry? (above ++ [name]) = none)
    (hname : IsName name) (hlength : name.utf8ByteSize ≤ maxNameBytes)
    (hsize : (Path.absolute (above ++ [name])).toString.utf8ByteSize < maxPathBytes)
    (cwd : Location) :
    t.locate cwd (.absolute (above ++ [name])) = .ok ⟨above ++ [name], none⟩ := by
  have hreal := (h.isReal_of_entry?_eq hdir).concat hname
  have hreach : t.Leads above [name] 0 (above ++ [name]) :=
    .reach (.of_isName hname hlength) (by simp [hnone]) (by simp [hnone])
  refine locate_eq_ok_iff.2 ⟨fun other hother => (hreal other hother).no_null, hsize, hnone.symm, 0,
    Nat.zero_le _, ?_⟩
  have habove : t.Leads [] above 0 ([] ++ above) := leads_directories h hdir
  simpa [start, Path.absolute, Path.isAbsolute] using habove.append hdir hreach

/-- A link to an entry that is no link leads there. -/
theorem locate_link (h : t.Sound) (above : Location) {location : Location} {name : String}
    (target : String) {entry : Entry} (hlink : t.entry? (above ++ [name]) = some (.link target))
    (htarget : start above (.parse target) ++ ((Path.parse target).parts ++ endSteps target) =
      location)
    (hentry : t.entry? location = some entry) (hnot : ∀ further, entry ≠ .link further)
    (hsize : (Path.absolute (above ++ [name])).toString.utf8ByteSize < maxPathBytes)
    (cwd : Location) :
    t.locate cwd (.absolute (above ++ [name])) = .ok ⟨location, some entry⟩ := by
  have hdir : t.entry? above = some .directory := entry?_of_append h.toWellFormed (by simp) hlink
  obtain ⟨hname, hlength⟩ := h.name_of_entry?_eq hlink name (by simp)
  have hleads : t.Leads above [name] 1 location := by
    refine .follow (.of_isName hname hlength) hlink ?_
    rw [List.append_nil, ← htarget]
    exact leads_entry h (htarget ▸ hentry) hnot
  have hreal := h.isReal_of_entry?_eq hlink
  have habove : t.Leads [] above 0 ([] ++ above) := leads_directories h hdir
  refine locate_eq_ok_iff.2 ⟨fun other hother => (hreal other hother).no_null, hsize,
    hentry.symm, 1, by decide, ?_⟩
  simpa [start, Path.absolute, Path.isAbsolute] using habove.append hdir hleads

end FileTree

end LineLint
