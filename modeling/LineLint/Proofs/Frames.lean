import LineLint.Proofs.Walks

/-!
# Trees that differ in their files only

A path goes through directories and links, so in trees with the same directories and links it leads
to the same location, whatever files there are. Main statements: `FileTree.SameFrame.locate_eq` and
`FileTree.SameFrame.tooLong_iff`.
-/

namespace LineLint.FileTree

variable {t t' : FileTree} {cwd here there : Location} {steps : List String} {links n : ℕ}
  {p : Path} {place : Place}

/-- Two trees have the same directories and links. -/
structure SameFrame (t t' : FileTree) : Prop where
  directory : ∀ location,
    t.entry? location = some .directory ↔ t'.entry? location = some .directory
  link : ∀ location target,
    t.entry? location = some (.link target) ↔ t'.entry? location = some (.link target)

theorem SameFrame.refl (t : FileTree) : t.SameFrame t := ⟨fun _ => .rfl, fun _ _ => .rfl⟩

theorem SameFrame.symm (h : t.SameFrame t') : t'.SameFrame t :=
  ⟨fun location => (h.directory location).symm,
    fun location target => (h.link location target).symm⟩

theorem Leads.congr (hleads : t.Leads here steps n there) (h : t.SameFrame t') :
    t'.Leads here steps n there := by
  induction hleads with
  | done => exact .done
  | up _ ih => exact .up ih
  | stay hstep _ ih => exact .stay hstep ih
  | enter hname hdir _ ih => exact .enter hname ((h.directory _).1 hdir) ih
  | reach hname hdir hlink =>
    exact .reach hname (mt (h.directory _).2 hdir)
      fun target => mt (h.link _ target).2 (hlink target)
  | follow hname hlink _ ih => exact .follow hname ((h.link _ _).1 hlink) ih

/-- A path leads to the same location, where something else may stand. -/
theorem SameFrame.locate_eq (h : t.SameFrame t') (hlocate : t.locate cwd p = .ok place) :
    t'.locate cwd p = .ok ⟨place.location, t'.entry? place.location⟩ := by
  obtain ⟨hnull, hsize, -, n, hn, hleads⟩ := locate_eq_ok_iff.1 hlocate
  exact locate_eq_ok_iff.2 ⟨hnull, hsize, rfl, n, hn, hleads.congr h⟩

/-- A walk that comes to a name that is too long comes to it in both trees. -/
theorem SameFrame.walkFrom_tooLong (h : t.SameFrame t')
    (hwalk : t.walkFrom .target links here steps = .error .nameTooLong) :
    t'.walkFrom .target links here steps = .error .nameTooLong := by
  fun_induction walkFrom t .target links here steps with
  | case2 links here name rest hup ih =>
    rw [walkFrom, if_pos hup]
    exact ih hwalk
  | case3 links here name rest hup hstay ih =>
    rw [walkFrom, if_neg hup, if_pos hstay]
    exact ih hwalk
  | case4 links here name rest hup hstay hsize =>
    rw [walkFrom, if_neg hup, if_neg hstay, if_pos hsize]
  | case8 links here name rest hup hstay hsize place hdir ih =>
    have hdir' : t'.entry? (here ++ [name]) = some .directory := (h.directory _).1 hdir
    rw [walkFrom, if_neg hup, if_neg hstay, if_neg hsize]
    simpa only [hdir'] using ih hwalk
  | case14 here name rest hup hstay hsize place target hlink hlast links path ih =>
    have hlink' : t'.entry? (here ++ [name]) = some (.link target) := (h.link _ _).1 hlink
    rw [walkFrom, if_neg hup, if_neg hstay, if_neg hsize]
    simpa [hlink'] using ih hwalk
  | _ => cases hwalk

theorem SameFrame.tooLong_iff (h : t.SameFrame t') :
    t.locate cwd p = .error .nameTooLong ↔ t'.locate cwd p = .error .nameTooLong := by
  have himp : ∀ {t t' : FileTree}, t.SameFrame t' →
      t.locate cwd p = .error .nameTooLong → t'.locate cwd p = .error .nameTooLong := by
    intro t t' h hlocate
    rw [locate, walk] at hlocate ⊢
    split at hlocate
    · cases hlocate
    · rename_i hnull
      rw [if_neg hnull]
      split at hlocate
      · rename_i hsize
        rw [if_pos hsize]
      · rename_i hsize
        rw [if_neg hsize]
        exact h.walkFrom_tooLong hlocate
  exact ⟨himp h, himp h.symm⟩

end LineLint.FileTree
