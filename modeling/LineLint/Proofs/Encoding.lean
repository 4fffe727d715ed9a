import LineLint.Proofs.DetailedReport
import LineLint.Proofs.Outputs
import LineLint.Proofs.TextOutput

/-!
# Texts that are no UTF-8

A name may hold bytes that are no UTF-8, but what a command shows and what it writes in its reports
is UTF-8. A command ends where it comes to a text that it cannot write: a lint in
`Command.Run.fails_lintText` and a triage in `Command.Run.fails_triageText` and
`Command.Run.fails_writeReports`.
-/

namespace LineLint

/-! ## Names in reports -/

namespace Report

variable {s : TriageSummary} {item : TriagedViolation} {lines : List String} {line : String}

/-- A text has all characters of its lines. -/
theorem subset_text (h : line ∈ lines) : line.toList ⊆ (text lines).toList := by
  induction lines with
  | nil => cases h
  | cons first rest ih =>
    cases rest with
    | nil =>
      rw [List.mem_singleton.1 h, text, String.intercalate_singleton]
      exact List.Subset.refl _
    | cons next rest =>
      rw [text, String.intercalate_cons_cons, String.toList_append, String.toList_append]
      rcases List.mem_cons.1 h with rfl | h
      · exact List.subset_append_of_subset_left _ (List.subset_append_left _ _)
      · exact List.subset_append_of_subset_right _ (ih h)

/-- The detailed report names the file of every violation. -/
theorem file_subset_render (generated : String) (h : item ∈ s.items) :
    item.violation.file.toList ⊆ (render s generated .detailed).toList := by
  obtain ⟨group, hgroup, hitem⟩ : ∃ group ∈ groupBy (·.category) s.items, item ∈ group.2 :=
    List.mem_flatMap.1 ((perm_groupBy (·.category) s.items).mem_iff.2 h)
  obtain ⟨entry, hentry, rfl⟩ : ∃ entry ∈ numbered group.2, entry.2 = item :=
    List.mem_map.1 (by rwa [map_snd_numbered])
  have hline : s!"**File**: `{place entry.2.violation}`" ∈ lines s generated .detailed := by
    refine List.mem_append_right _ (List.mem_flatMap.2 ⟨group, hgroup, ?_⟩)
    refine List.mem_append_right _ (List.mem_flatMap.2 ⟨entry, hentry, ?_⟩)
    exact List.mem_cons_of_mem _ (List.mem_cons_of_mem _ List.mem_cons_self)
  have hplace : entry.2.violation.file.toList ⊆ (place entry.2.violation).toList := by
    rw [place]
    cases entry.2.violation.line with
    | none => exact List.Subset.refl _
    | some line => simp [toString]
  refine List.Subset.trans (List.Subset.trans hplace fun c hc => ?_) (subset_text hline)
  simp [toString, hc]

end Report

namespace Command

variable {env : Environment} {t t' : FileTree} {s s' : Session} {choice : ProjectChoice}
  {p : Project} {r : LintResult} {output reports : Option Path} {limit : ℤ} {undecoded : Bool}

namespace Run

variable {α : Type} {shown last lines : List String}

/-! ## Commands that fail -/

/-- The step ends because a text cannot be written. -/
def Fails (x : Run α) (s : Session) : Prop := ∃ s', x.run s = (.error (.crashed .encoding), s')

theorem Fails.bind {β : Type} {x : Run α} (h : Fails x s) (f : α → Run β) : Fails (x >>= f) s := by
  obtain ⟨s', hrun⟩ := h
  exact ⟨s', run_bind_error hrun⟩

theorem Fails.after {β : Type} {x : Run α} {f : α → Run β} {a : α} (hx : x.run s = (.ok a, s'))
    (h : Fails (f a) s') : Fails (x >>= f) s := by
  obtain ⟨last, hrun⟩ := h
  exact ⟨last, (run_bind_ok hx).trans hrun⟩

/-- Showing lines fails if they cannot be written, or else if what follows does. -/
theorem fails_display {output : Except Markup.MarkupError (List String)} {f : Unit → Run α}
    (h : output = .ok lines) (hrest : lines.all s.encodes = true →
      Fails (f ()) { s with lines := s.lines ++ lines }) : Fails (display output >>= f) s := by
  by_cases hlines : lines.all s.encodes = true
  · exact .after (run_display_ok h hlines) (hrest hlines)
  · exact Fails.bind ⟨s, by rw [run_display h, if_neg hlines]⟩ f

/-- A lint as text fails if it cannot write all that it shows. -/
theorem fails_lintText (hshown : Screen.violations r = .ok shown)
    (hlast : closing r output = .ok last) (h : (shown ++ last).all s.encodes = false) :
    Fails (lintText r output) s := by
  have hno : shown.all s.encodes = true → last.all s.encodes = true → False := by
    intro hfirst hsecond
    rw [List.all_append, hfirst, hsecond] at h
    cases h
  rw [lintText]
  refine fails_display rfl fun _ => ?_
  by_cases hempty : r.violations.isEmpty = true
  · rw [closing, if_pos hempty] at hlast
    rw [Screen.violations, byFile_of_isEmpty hempty] at hshown
    cases hshown
    rw [if_pos hempty]
    exact fails_display hlast fun hsecond => (hno rfl hsecond).elim
  · rw [closing, if_neg hempty] at hlast
    obtain ⟨summary, hsummary, hlast⟩ := bind_eq_ok_iff.1 hlast
    rw [if_neg hempty]
    refine fails_display hshown fun hfirst => fails_display hsummary fun hsecond => ?_
    cases output with
    | none =>
      cases hlast
      exact (hno hfirst hsecond).elim
    | some file =>
      obtain ⟨info, hinfo, hlast⟩ := bind_eq_ok_iff.1 hlast
      cases hlast
      refine fails_display hinfo fun hthird => (hno hfirst ?_).elim
      rw [List.all_append, Bool.and_eq_true]
      exact ⟨hsecond, hthird⟩

/-! ## Reports -/

/-- Texts of which one is no UTF-8 are written only up to that one. -/
theorem fails_writeTexts (place : α → Path) (text : α → String) {items : List α}
    (hwritten : s.tree.writeAll env.cwd
      (items.map fun item => (place item, Text.Utf8.encode (text item).toList)) = (t', .ok ()))
    (h : (items.map text).all s.encodes = false) :
    Fails (items.forM fun item => writeText env (place item) (text item)) s := by
  induction items generalizing s with
  | nil => cases h
  | cons item rest ih =>
    rw [List.map_cons, FileTree.writeAll] at hwritten
    cases hwrite : s.tree.write env.cwd (place item) (Text.Utf8.encode (text item).toList) with
    | error e =>
      rw [hwrite] at hwritten
      cases hwritten
    | ok tree =>
      rw [hwrite] at hwritten
      cases hencodes : s.encodes (text item) with
      | true =>
        have hrest : (rest.map text).all s.encodes = false := by
          simpa [hencodes] using h
        have hfirst : (writeText env (place item) (text item)).run s =
            (.ok (), { s with tree }) := by
          rw [run_writeText hencodes, hwrite]
        exact .after hfirst (ih hwritten hrest)
      | false =>
        obtain ⟨spot, hspot, hplace, -⟩ := FileTree.write_eq_ok_iff.1 hwrite
        have hempty : s.tree.write env.cwd (place item) [] =
            .ok (s.tree.insert spot.location (.file [])) :=
          FileTree.write_eq_ok_iff.2 ⟨spot, hspot, hplace, rfl⟩
        refine Fails.bind ⟨{ s with tree := s.tree.insert spot.location (.file []) }, ?_⟩ _
        rw [run_writeText_unencoded hencodes, hempty]

/-- Reports of which one is no UTF-8 fail, and so does a message on them that is none. -/
theorem fails_writeReports {directory : Path} {summary : TriageSummary}
    (hdeliver : s.tree.deliver env.cwd (triageDelivery env directory summary) = (t', .ok ()))
    (hinfo : Screen.info s!"{Report.all.length} report(s) written to {directory}" = .ok lines)
    (h : (reportTexts env summary ++ lines).all s.encodes = false) :
    Fails (writeReports env directory summary) s := by
  cases htexts : (reportTexts env summary).all s.encodes with
  | true =>
    have hlines : lines.all s.encodes = false := by
      simpa [List.all_append, htexts] using h
    have hdone : (deliver env (triageDelivery env directory summary)).run s =
        (.ok (), { s with tree := t' }) := by
      rw [run_deliver, hdeliver]
    refine ⟨{ s with tree := t' }, ?_⟩
    rw [run_writeReports_eq directory htexts, run_bind_ok hdone, run_display hinfo, if_neg]
    exact ne_true_of_eq_false hlines
  | false =>
    rw [FileTree.deliver, triageDelivery] at hdeliver
    cases hmade : s.tree.makeDirectories (FileTree.maxLevels - 10) env.cwd directory with
    | mk made made? =>
      rw [hmade] at hdeliver
      cases made? with
      | error e => cases hdeliver
      | ok =>
        let start : Session := { s with tree := made }
        have hdone : (makeDirectories env 10 directory).run s = (.ok (), start) := by
          rw [run_makeDirectories, hmade]
        exact .after hdone ((fails_writeTexts (s := start) _ _ hdeliver htexts).bind _)

/-- What a triage shows of its result. -/
def triageShown (r : LintResult) (limit : ℤ) : Except Markup.MarkupError (List String) :=
  if r.violations = [] then Screen.success "No violations to triage."
  else Screen.triage (TriageSummary.ofViolations [] r.violations) limit

theorem triageText_eq (r : LintResult) (limit : ℤ) : triageText r limit = (do
    display (triageShown r limit)
    throw (.finished r.exitCode)) := by
  rw [triageText, triageShown]
  by_cases hnone : r.violations = []
  · have hcode : r.exitCode = 0 := exitCode_of_isEmpty (by rw [hnone]; rfl)
    rw [if_pos (by rw [hnone]; rfl), if_pos hnone, hcode]
    rfl
  · have htotal : (TriageSummary.ofViolations [] r.violations).total ≠ 0 := by
      simpa [TriageSummary.ofViolations, TriageSummary.total] using hnone
    rw [if_neg htotal, if_neg hnone]

/-- A triage ends with the code of its result if it can write all that it shows. -/
theorem run_triageText (hshown : triageShown r limit = .ok lines) : (triageText r limit).run s =
    if lines.all s.encodes then
      (.error (.finished r.exitCode), { s with lines := s.lines ++ lines })
    else (.error (.crashed .encoding), s) := by
  rw [triageText_eq, run_bind, run_display hshown]
  cases lines.all s.encodes <;> rfl

theorem fails_triageText (hshown : triageShown r limit = .ok shown)
    (h : shown.all s.encodes = false) : Fails (triageText r limit) s :=
  ⟨s, (run_triageText hshown).trans (if_neg (ne_true_of_eq_false h))⟩

/-- A triage with its reports fails if it cannot write all of them and all that it shows. -/
theorem fails_reports {directory : Path} {info : List String}
    (hdeliver : s.tree.deliver env.cwd (triageDelivery env directory
      (TriageSummary.ofViolations [] r.violations)) = (t', .ok ()))
    (hinfo : Screen.info s!"{Report.all.length} report(s) written to {directory}" = .ok info)
    (hshown : triageShown r limit = .ok shown)
    (h : ((reportTexts env (TriageSummary.ofViolations [] r.violations) ++ info) ++ shown).all
      s.encodes = false) :
    Fails (do
      writeReports env directory (TriageSummary.ofViolations [] r.violations)
      triageText r limit) s := by
  cases hwritten : (reportTexts env (TriageSummary.ofViolations [] r.violations) ++ info).all
      s.encodes with
  | true =>
    have hfirst := hwritten
    rw [List.all_append, Bool.and_eq_true] at hfirst
    have hrest : shown.all s.encodes = false := by
      rwa [List.all_append, hwritten, Bool.true_and] at h
    exact .after (run_writeReports hdeliver hinfo hfirst.1 hfirst.2) (fails_triageText hshown hrest)
  | false => exact (fails_writeReports hdeliver hinfo hwritten).bind _

end Run

end Command

end LineLint
