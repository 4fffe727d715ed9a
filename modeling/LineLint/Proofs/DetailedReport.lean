import LineLint.Proofs.Numerals
import LineLint.Proofs.ReportLines
import LineLint.Proofs.Tallies
import LineLint.Report.Basic

/-!
# What the detailed report says

A rule, a file and a message can be any texts, and look like headings, numbers or labels. Still the
report can be read back if each fits on a line: a heading says how many violations follow, each of
them has as many lines as any other, and each line has its label. So two reports are the same text
if and only if they say the same of the same violations. Main statement:
`TriageSummary.detailed_lossless`.
-/

namespace LineLint

/-! ## Names -/

theorem Category.heading_inj {c d : Category} (h : c.heading = d.heading) : c = d := by
  cases c <;> cases d <;> first | rfl | exact absurd h (by decide)

theorem Severity.name_inj {s t : Severity} (h : s.name = t.name) : s = t := by
  cases s <;> cases t <;> first | rfl | exact absurd h (by decide)

theorem Priority.name_inj {p q : Priority} (h : p.name = q.name) : p = q := by
  cases p <;> cases q <;> first | rfl | exact absurd h (by decide)

theorem Effort.name_inj {e f : Effort} (h : e.name = f.name) : e = f := by
  cases e <;> cases f <;> first | rfl | exact absurd h (by decide)

namespace Report

/-! ## One violation -/

/-- What the detailed report says of a violation. -/
structure Detail where
  rule : String
  severity : Severity
  place : String
  priority : Priority
  effort : Effort
  message : String
  deriving DecidableEq

namespace Detail

def ofItem (item : TriagedViolation) : Detail where
  rule := item.violation.rule
  severity := item.violation.severity
  place := Report.place item.violation
  priority := item.priority
  effort := item.effort
  message := item.violation.message

def heading (index : ℕ) (d : Detail) : String := s!"#### {index}. {d.rule} ({d.severity.name})"

/-- The lines of a violation. -/
def lines (index : ℕ) (d : Detail) : List String :=
  [d.heading index, "", s!"**File**: `{d.place}`", s!"**Priority**: {d.priority.name}",
    s!"**Effort**: {d.effort.name}", s!"**Issue**: {d.message}", ""]

theorem heading_inj {m n : ℕ} {d e : Detail} (h : d.heading m = e.heading n) :
    m = n ∧ d.rule = e.rule ∧ d.severity = e.severity := by
  have hend : ∀ severity : Severity, '(' ∉ severity.name.toList ++ [')'] := by
    intro severity
    cases severity <;> decide
  have hchars : Nat.toDigits 10 m ++ '.' ::
        (' ' :: d.rule.toList ++ [' '] ++ '(' :: (d.severity.name.toList ++ [')'])) =
      Nat.toDigits 10 n ++ '.' ::
        (' ' :: e.rule.toList ++ [' '] ++ '(' :: (e.severity.name.toList ++ [')'])) := by
    simpa [heading, toString] using congrArg String.toList h
  obtain ⟨hnumeral, hrest⟩ := Text.eq_of_first_separator (not_mem_toDigits m rfl)
    (not_mem_toDigits n rfl) hchars
  -- a rule may hold parentheses, so the severity is behind the last one
  obtain ⟨hrule, hseverity⟩ := Text.eq_of_last_separator (hend _) (hend _) hrest
  refine ⟨toDigits_inj hnumeral, String.toList_inj.1 ?_, Severity.name_inj ?_⟩
  · simpa using hrule
  · exact String.toList_inj.1 (List.append_cancel_right hseverity)

/-- A violation can be read back from its lines, whatever comes after them. -/
theorem eq_of_lines {m n : ℕ} {d e : Detail} {rest rest' : List String}
    (h : d.lines m ++ rest = e.lines n ++ rest') : (m = n ∧ d = e) ∧ rest = rest' := by
  obtain ⟨hlines, hrest⟩ := List.append_inj h rfl
  simp only [lines, List.cons.injEq] at hlines
  obtain ⟨hheading, -, hplace, hpriority, heffort, hmessage, -⟩ := hlines
  obtain ⟨hindex, hrule, hseverity⟩ := heading_inj hheading
  have hplace := (String.append_right_inj _).1 ((String.append_left_inj _).1 hplace)
  have hpriority := Priority.name_inj ((String.append_right_inj _).1 hpriority)
  have heffort := Effort.name_inj ((String.append_right_inj _).1 heffort)
  have hmessage := (String.append_right_inj _).1 hmessage
  refine ⟨⟨hindex, ?_⟩, hrest⟩
  cases d
  cases e
  rw [mk.injEq]
  exact ⟨hrule, hseverity, hplace, hpriority, heffort, hmessage⟩

end Detail

/-! ## One category -/

/-- A category with what the detailed report says of its violations. -/
structure DetailedSection where
  category : Category
  details : List Detail
  deriving DecidableEq

namespace DetailedSection

def heading (c : DetailedSection) : String :=
  s!"## {c.category.heading} ({c.details.length} violations)"

/-- The lines above the violations. -/
def opening (c : DetailedSection) : List String :=
  [c.heading, "", "### Priority Breakdown", ""] ++
  (Priority.all.map fun p => s!"- {p.title}: {c.details.countP (·.priority == p)}") ++
  ["", "### Effort Breakdown", ""] ++
  (Effort.all.map fun e => s!"- {e.title}: {c.details.countP (·.effort == e)}") ++
  ["", "### Violations", ""]

/-- The lines of a section, with the violations numbered from one. -/
def lines (c : DetailedSection) : List String :=
  c.opening ++ (numbered c.details).flatMap fun entry => entry.2.lines entry.1

theorem length_opening (c : DetailedSection) : c.opening.length = 17 := rfl

theorem length_lines (c : DetailedSection) : c.lines.length = 17 + 7 * c.details.length := by
  have hentries : ∀ entries : List (ℕ × Detail),
      (entries.flatMap fun entry => entry.2.lines entry.1).length = 7 * entries.length := by
    intro entries
    induction entries with
    | nil => rfl
    | cons entry rest ih =>
      rw [List.flatMap_cons, List.length_append, ih, List.length_cons]
      show 7 + 7 * rest.length = _
      omega
  rw [lines, List.length_append, length_opening, hentries, numbered, List.length_map,
    List.length_zipIdx]

theorem heading_inj {c d : DetailedSection} (h : c.heading = d.heading) :
    c.category = d.category ∧ c.details.length = d.details.length := by
  have hstart : ∀ category : Category, '(' ∉ category.heading.toList ++ [' '] := by
    intro category
    cases category <;> decide
  have hchars : c.category.heading.toList ++ [' '] ++ '(' ::
        (Nat.toDigits 10 c.details.length ++ " violations)".toList) =
      d.category.heading.toList ++ [' '] ++ '(' ::
        (Nat.toDigits 10 d.details.length ++ " violations)".toList) := by
    simpa [heading, toString] using congrArg String.toList h
  obtain ⟨hcategory, hcount⟩ := Text.eq_of_first_separator (hstart _) (hstart _) hchars
  constructor
  · apply Category.heading_inj
    exact String.toList_inj.1 (List.append_cancel_right hcategory)
  · exact toDigits_inj (List.append_cancel_right hcount)

theorem numbered_inj {ds es : List Detail}
    (h : ((numbered ds).flatMap fun entry => entry.2.lines entry.1) =
      (numbered es).flatMap fun entry => entry.2.lines entry.1) : ds = es := by
  have hpairs : numbered ds = numbered es := by
    refine flatMap_inj (fun entry => List.cons_ne_nil _ _) (fun hlines => ?_) h
    obtain ⟨⟨hindex, hdetail⟩, hrest⟩ := Detail.eq_of_lines hlines
    exact ⟨Prod.ext hindex hdetail, hrest⟩
  rw [← map_snd_numbered ds, ← map_snd_numbered es, hpairs]

/-- A section can be read back from its lines, whatever comes after them: its heading says how many
violations it has. -/
theorem eq_of_lines {c d : DetailedSection} {rest rest' : List String}
    (h : c.lines ++ rest = d.lines ++ rest') : c = d ∧ rest = rest' := by
  have hheading : c.heading = d.heading := (List.cons.inj h).1
  obtain ⟨hcategory, hcount⟩ := heading_inj hheading
  have hlength : c.lines.length = d.lines.length := by
    rw [length_lines, length_lines, hcount]
  obtain ⟨hlines, hrest⟩ := List.append_inj h hlength
  have hdetails : c.details = d.details := numbered_inj (List.append_inj hlines rfl).2
  refine ⟨?_, hrest⟩
  cases c
  cases d
  rw [mk.injEq]
  exact ⟨hcategory, hdetails⟩

end DetailedSection

/-! ## The report -/

/-- The sections of the detailed report, one for each category that occurs. -/
def sections (s : TriageSummary) : List DetailedSection :=
  (groupBy (·.category) s.items).map fun group => ⟨group.1, group.2.map Detail.ofItem⟩

theorem categoryLines_eq (category : Category) (items : List TriagedViolation) :
    categoryLines category items =
      (DetailedSection.mk category (items.map Detail.ofItem)).lines := by
  have hentries : ((numbered (items.map Detail.ofItem)).flatMap fun entry =>
      entry.2.lines entry.1) = (numbered items).flatMap fun entry =>
        detailLines entry.1 entry.2 := by
    rw [numbered, List.zipIdx_map, List.map_map, numbered, List.flatMap_map, List.flatMap_map]
    rfl
  rw [DetailedSection.lines, hentries, DetailedSection.opening, DetailedSection.heading]
  simp only [List.length_map, List.countP_map]
  rfl

/-- The lines of the detailed report depend on its sections alone. -/
theorem lines_detailed (s : TriageSummary) (generated : String) :
    Report.lines s generated .detailed =
      head "Detailed Violations Report" generated "Total Violations" s.total ++
        (sections s).flatMap DetailedSection.lines := by
  rw [Report.lines, detailedLines, sections, List.flatMap_map]
  simp only [categoryLines_eq]

theorem total_eq (s : TriageSummary) :
    s.total = ((sections s).map fun c => c.details.length).sum := by
  rw [sections, List.map_map, TriageSummary.total, ← (perm_groupBy (·.category) s.items).length_eq,
    List.length_flatMap]
  simp [Function.comp_def]

theorem lines_detailed_inj {s t : TriageSummary} {generated generated' : String} :
    Report.lines s generated .detailed = Report.lines t generated' .detailed ↔
      generated = generated' ∧ sections s = sections t := by
  rw [lines_detailed, lines_detailed]
  constructor
  · intro h
    obtain ⟨hhead, hsections⟩ := List.append_inj h rfl
    simp only [head, List.cons.injEq] at hhead
    refine ⟨(String.append_right_inj _).1 hhead.2.2.1, ?_⟩
    exact flatMap_inj (fun c => List.cons_ne_nil _ _) DetailedSection.eq_of_lines hsections
  · rintro ⟨rfl, hsections⟩
    rw [total_eq, total_eq, hsections]

end Report

/-- What the detailed report shows of a violation fits on lines. -/
structure Violation.FitsLines (v : Violation) : Prop where
  rule : '\n' ∉ v.rule.toList
  file : '\n' ∉ v.file.toList
  message : '\n' ∉ v.message.toList

instance (v : Violation) : Decidable v.FitsLines :=
  decidable_of_iff ('\n' ∉ v.rule.toList ∧ '\n' ∉ v.file.toList ∧ '\n' ∉ v.message.toList)
    ⟨fun ⟨hrule, hfile, hmessage⟩ => ⟨hrule, hfile, hmessage⟩,
      fun h => ⟨h.rule, h.file, h.message⟩⟩

namespace Report

theorem not_mem_place {v : Violation} (h : v.FitsLines) : '\n' ∉ (place v).toList := by
  rw [place]
  cases v.line with
  | none => exact h.file
  | some line =>
    have hnumeral := not_mem_numeral_int (c := '\n') line rfl (by decide)
    show '\n' ∉ (v.file ++ ":" ++ toString line).toList
    rw [String.toList_append, String.toList_append]
    exact List.not_mem_append (List.not_mem_append h.file (by decide)) hnumeral

theorem not_mem_detail {item : TriagedViolation} (h : item.violation.FitsLines) (index : ℕ) :
    ∀ line ∈ (Detail.ofItem item).lines index, '\n' ∉ line.toList := by
  have hnumeral := not_mem_toDigits (c := '\n') index rfl
  have hseverity : '\n' ∉ item.violation.severity.name.toList := by
    cases item.violation.severity <;> decide
  have hpriority : '\n' ∉ item.priority.name.toList := by
    cases item.priority <;> decide
  have heffort : '\n' ∉ item.effort.name.toList := by
    cases item.effort <;> decide
  simp [Detail.lines, Detail.heading, Detail.ofItem, toString, h.rule, h.message, not_mem_place h,
    hnumeral, hseverity, hpriority, heffort]

theorem not_mem_opening (c : DetailedSection) : ∀ line ∈ c.opening, '\n' ∉ line.toList := by
  have hnumeral : ∀ n, '\n' ∉ Nat.toDigits 10 n := fun n => not_mem_toDigits n rfl
  have hheading : '\n' ∉ c.category.heading.toList := by
    cases c.category <;> decide
  simp [DetailedSection.opening, DetailedSection.heading, Priority.all, Priority.title, Effort.all,
    Effort.title, toString, hnumeral, hheading]

/-- Each line of the report is one line of its text. -/
theorem not_mem_lines {s : TriageSummary} {generated : String}
    (hitems : ∀ item ∈ s.items, item.violation.FitsLines) (hgenerated : '\n' ∉ generated.toList) :
    ∀ line ∈ Report.lines s generated .detailed, '\n' ∉ line.toList := by
  have hhead : ∀ line ∈ head "Detailed Violations Report" generated "Total Violations" s.total,
      '\n' ∉ line.toList := by
    simp [head, toString, hgenerated, not_mem_toDigits]
  have hsection : ∀ c ∈ sections s, ∀ line ∈ c.lines, '\n' ∉ line.toList := by
    intro c hc line hline
    obtain ⟨group, hgroup, rfl⟩ := List.mem_map.1 hc
    rcases List.mem_append.1 hline with hline | hline
    · exact not_mem_opening _ line hline
    · obtain ⟨entry, hentry, hline⟩ := List.mem_flatMap.1 hline
      obtain ⟨item, hitem, hdetail⟩ := List.mem_map.1 (mem_of_mem_numbered hentry)
      rw [← hdetail] at hline
      exact not_mem_detail (hitems item ((key_of_mem_groupBy hgroup).2 item hitem)) _ line hline
  rw [lines_detailed]
  intro line hline
  rcases List.mem_append.1 hline with hline | hline
  · exact hhead line hline
  · obtain ⟨c, hc, hline⟩ := List.mem_flatMap.1 hline
    exact hsection c hc line hline

theorem linesOf_render {s : TriageSummary} {generated : String}
    (hitems : ∀ item ∈ s.items, item.violation.FitsLines) (hgenerated : '\n' ∉ generated.toList) :
    linesOf (Report.render s generated .detailed) = Report.lines s generated .detailed :=
  linesOf_text (List.cons_ne_nil _ _) (not_mem_lines hitems hgenerated)

/-! ## What is listed -/

/-- Whether a line is the heading of a category or of a violation. -/
def isHeading (line : String) : Bool := begins "## " line || begins "#### " line

/-- The headings in a section: its own and those of its violations, numbered from one. -/
def DetailedSection.headings (c : DetailedSection) : List String :=
  c.heading :: (numbered c.details).map fun entry => entry.2.heading entry.1

theorem filter_isHeading (s : TriageSummary) (generated : String) :
    (Report.lines s generated .detailed).filter isHeading =
      (sections s).flatMap DetailedSection.headings := by
  have hdetail : ∀ (index : ℕ) (d : Detail),
      (d.lines index).filter isHeading = [d.heading index] := by
    intro index d
    simp [Detail.lines, Detail.heading, isHeading, begins, toString]
  have hsection : ∀ c : DetailedSection, c.lines.filter isHeading = c.headings := by
    intro c
    have hopening : c.opening.filter isHeading = [c.heading] := by
      simp [DetailedSection.opening, DetailedSection.heading, Priority.all, Priority.title,
        Effort.all, Effort.title, isHeading, begins, toString]
    rw [DetailedSection.lines, List.filter_append, hopening, List.filter_flatMap]
    simp only [hdetail, ← List.map_eq_flatMap]
    rfl
  have hhead : (head "Detailed Violations Report" generated "Total Violations" s.total).filter
      isHeading = [] := by
    simp [head, isHeading, begins, toString]
  rw [lines_detailed, List.filter_append, hhead, List.nil_append, List.filter_flatMap]
  simp only [hsection]

/-- Each violation of a summary is listed once, in the section of its category. -/
structure ListsAll (s : TriageSummary) (report : String) : Prop where
  /-- The categories come in the order in which they first occur. -/
  order : ((sections s).map (·.category)).Pairwise fun c d =>
    (s.items.map (·.category)).idxOf c < (s.items.map (·.category)).idxOf d
  categories : ∀ category, category ∈ (sections s).map (·.category) ↔
    ∃ item ∈ s.items, item.category = category
  /-- A section holds the violations of its category, in their order. -/
  details : ∀ c ∈ sections s,
    c.details = (s.items.filter (·.category = c.category)).map Detail.ofItem
  once : ((sections s).flatMap (·.details)).Perm (s.items.map Detail.ofItem)
  /-- Nothing but the categories and their violations has a heading. -/
  headings : (linesOf report).filter isHeading = (sections s).flatMap (·.headings)

theorem listsAll {s : TriageSummary} {generated : String}
    (hitems : ∀ item ∈ s.items, item.violation.FitsLines) (hgenerated : '\n' ∉ generated.toList) :
    ListsAll s (Report.render s generated .detailed) := by
  have hcategories : (sections s).map (·.category) = (s.items.map (·.category)).eraseDups := by
    rw [sections, List.map_map, groupBy, List.map_map]
    exact List.map_id _
  constructor
  case order =>
    rw [hcategories]
    exact pairwise_eraseDups _
  case categories =>
    intro category
    rw [hcategories, List.mem_eraseDups, List.mem_map]
  case details =>
    intro c hc
    obtain ⟨group, hgroup, rfl⟩ := List.mem_map.1 hc
    obtain ⟨category, -, rfl⟩ := List.mem_map.1 hgroup
    rfl
  case once =>
    have hflat : (sections s).flatMap (·.details) =
        ((groupBy (·.category) s.items).flatMap Prod.snd).map Detail.ofItem := by
      rw [sections, List.flatMap_map, List.map_flatMap]
    rw [hflat]
    exact (perm_groupBy _ _).map _
  case headings =>
    rw [linesOf_render hitems hgenerated, filter_isHeading]

end Report

namespace TriageSummary

/-- Detailed reports on violations whose texts fit on lines are the same text if and only if they
have the same sections, in each of which the same is said of the same violations. -/
theorem detailed_lossless {vs ws : List Violation} {generated generated' : String}
    (overrides overrides' : List (String × Category))
    (hvs : ∀ v ∈ vs, v.FitsLines) (hws : ∀ v ∈ ws, v.FitsLines)
    (hgenerated : '\n' ∉ generated.toList) (hgenerated' : '\n' ∉ generated'.toList) :
    let s := ofViolations overrides vs
    let t := ofViolations overrides' ws
    Report.ListsAll s (Report.render s generated .detailed) ∧
    (Report.render s generated .detailed = Report.render t generated' .detailed ↔
      generated = generated' ∧ Report.sections s = Report.sections t) := by
  intro s t
  have hs : ∀ item ∈ s.items, item.violation.FitsLines := List.forall_mem_map.2 hvs
  have ht : ∀ item ∈ t.items, item.violation.FitsLines := List.forall_mem_map.2 hws
  refine ⟨Report.listsAll hs hgenerated, ?_⟩
  rw [← Report.lines_detailed_inj]
  constructor
  · intro htext
    rw [← Report.linesOf_render hs hgenerated, htext, Report.linesOf_render ht hgenerated']
  · intro hlines
    exact congrArg Report.text hlines

/-- Three violations of two categories, with texts that look like lines of the report. -/
def mixedTexts : List Violation := [
  { rule := "Configuration Management", file := "a.ts", line := some 3,
    message := "#### 2. Configuration Management (error)" },
  { rule := "1. Local (warning)", file := "b.ts:7", message := "## SECURITY (9 violations)" },
  { rule := "Configuration Management", file := "a.ts:3", message := "m", severity := .error }]

/-- The same violations by category, and a suggestion, of which the report says nothing. -/
def sortedTexts : List Violation := [
  { rule := "Configuration Management", file := "a.ts:3",
    message := "#### 2. Configuration Management (error)" },
  { rule := "Configuration Management", file := "a.ts", line := some 3, message := "m",
    severity := .error },
  { rule := "1. Local (warning)", file := "b.ts", line := some 7, suggestion := some "s",
    message := "## SECURITY (9 violations)" }]

/-- Lists that differ in what the report leaves out have one report. -/
theorem detailed_lossless_mixed :
    ((∀ v ∈ mixedTexts, v.FitsLines) ∧ (∀ v ∈ sortedTexts, v.FitsLines) ∧
      '\n' ∉ "now".toList) ∧
    Report.ListsAll (ofViolations [] mixedTexts)
      (Report.render (ofViolations [] mixedTexts) "now" .detailed) ∧
    mixedTexts ≠ sortedTexts ∧
    Report.render (ofViolations [] mixedTexts) "now" .detailed =
      Report.render (ofViolations [] sortedTexts) "now" .detailed := by
  have hmixed : ∀ v ∈ mixedTexts, v.FitsLines := by decide
  have hsorted : ∀ v ∈ sortedTexts, v.FitsLines := by decide
  have hnow : '\n' ∉ "now".toList := by decide
  obtain ⟨hlists, hsame⟩ := detailed_lossless [] [] hmixed hsorted hnow hnow
  exact ⟨⟨hmixed, hsorted, hnow⟩, hlists, by decide, hsame.2 ⟨rfl, by decide +kernel⟩⟩

end TriageSummary

end LineLint
