import LineLint.Proofs.Numerals
import LineLint.Proofs.Reorderings
import LineLint.Proofs.ReportLines

/-!
# The tables of the executive summary

A rule can have any name, with bars, backslashes and line feeds in it. Still its row is one line
with two cells, as a bar in a name is escaped and a line feed is written as a blank. So the tables
can be read back. Main statement: `TriageSummary.tables_intact`.
-/

namespace LineLint.Report

/-! ## Reading a row -/

/-- The pieces between the bars of a row. A bar directly behind a backslash puts nothing apart;
`escaped` says that a backslash was read last. -/
def cutBars (escaped : Bool) : List Char → List (List Char)
  | [] => [[]]
  | c :: rest =>
    if c = '|' ∧ escaped = false then [] :: cutBars false rest
    else (cutBars (c == '\\') rest).modifyHead (c :: ·)

/-- A row has cells if they are all that stands between its outer bars, each with one blank before
it and one behind. -/
def HasCells (row : String) (cells : List String) : Prop :=
  (cutBars false row.toList).map String.ofList =
    "" :: (cells.map fun cell => s!" {cell} ") ++ [""]

/-- A text with a bar for each escaped bar. -/
def unescapeBars : List Char → List Char
  | [] => []
  | '\\' :: '|' :: rest => '|' :: unescapeBars rest
  | c :: rest => c :: unescapeBars rest

/-- A text with a blank for each line feed. -/
def onLine (text : String) : String :=
  String.ofList (text.toList.map fun c => if c = '\n' then ' ' else c)

/-! ## Writing a cell -/

/-- The characters of a cell. -/
def cellChars : List Char → List Char
  | [] => []
  | '|' :: rest => '\\' :: '|' :: cellChars rest
  | '\n' :: rest => ' ' :: cellChars rest
  | c :: rest => c :: cellChars rest

theorem toList_cell (text : String) : (cell text).toList = cellChars text.toList := by
  rw [cell, String.toList_ofList]
  fun_induction cellChars text.toList with
  | case1 => rfl
  | case2 rest ih => rw [List.flatMap_cons, ih, if_pos rfl, List.cons_append, List.singleton_append]
  | case3 rest ih =>
    rw [List.flatMap_cons, ih, if_neg (by decide), if_pos rfl, List.singleton_append]
  | case4 c rest hbar hfeed ih =>
    rw [List.flatMap_cons, ih, if_neg hbar, if_neg hfeed, List.singleton_append]

section

variable {c : Char} (text rest : List Char)

theorem cutBars_cons (escaped : Bool) (hbar : c ≠ '|') :
    cutBars escaped (c :: rest) = (cutBars (c == '\\') rest).modifyHead (c :: ·) := by
  rw [cutBars, if_neg (by simp [hbar])]

theorem cutBars_bar : cutBars false ('|' :: rest) = [] :: cutBars false rest := by
  rw [cutBars, if_pos ⟨rfl, rfl⟩]

theorem cutBars_escaped (escaped : Bool) : cutBars escaped ('\\' :: '|' :: rest) =
    (cutBars false rest).modifyHead ('\\' :: '|' :: ·) := by
  rw [cutBars_cons _ _ (by decide), cutBars, if_neg (by decide), List.modifyHead_modifyHead]
  rfl

/-- A cell is not cut: each of its bars is directly behind a backslash. -/
theorem cutBars_cell (escaped : Bool) :
    cutBars escaped (cellChars text ++ ' ' :: '|' :: rest) =
      (cellChars text ++ [' ']) :: cutBars false rest := by
  fun_induction cellChars text generalizing escaped with
  | case1 =>
    rw [List.nil_append, cutBars_cons _ _ (by decide), beq_eq_false_iff_ne.2 (by decide),
      cutBars_bar]
    rfl
  | case2 text ih =>
    rw [List.cons_append, List.cons_append, cutBars_escaped, ih]
    rfl
  | case3 text ih =>
    rw [List.cons_append, cutBars_cons _ _ (by decide), ih]
    rfl
  | case4 c text hbar hfeed ih =>
    rw [List.cons_append, cutBars_cons _ _ hbar, ih]
    rfl

/-- No cell begins with a bar, so none is taken for the second half of an escaped one. -/
theorem head?_cellChars : (cellChars text).head? ≠ some '|' := by
  fun_cases cellChars text with
  | case1 => exact nofun
  | case2 rest => exact fun h => absurd (Option.some.inj h) (by decide)
  | case3 rest => exact fun h => absurd (Option.some.inj h) (by decide)
  | case4 c rest hbar hfeed => exact fun h => hbar (Option.some.inj h)

theorem unescapeBars_cons (h : rest.head? ≠ some '|') :
    unescapeBars (c :: rest) = c :: unescapeBars rest := by
  rw [unescapeBars.eq_def]
  split
  · contradiction
  · rename_i heq
    cases heq
    exact absurd rfl h
  · rename_i heq
    cases heq
    rfl

/-- A cell says what it was made from, but for the line feeds. -/
theorem unescapeBars_cellChars :
    unescapeBars (cellChars text) = text.map fun c => if c = '\n' then ' ' else c := by
  fun_induction cellChars text with
  | case1 => rfl
  | case2 rest ih => rw [unescapeBars, ih, List.map_cons, if_neg (by decide)]
  | case3 rest ih =>
    rw [unescapeBars_cons _ (head?_cellChars rest), ih, List.map_cons, if_pos rfl]
  | case4 c rest hbar hfeed ih =>
    rw [unescapeBars_cons _ (head?_cellChars rest), ih, List.map_cons, if_neg hfeed]

theorem not_mem_cellChars : '\n' ∉ cellChars text := by
  fun_induction cellChars text with
  | case1 => exact List.not_mem_nil
  | case2 rest ih => simpa using ih
  | case3 rest ih => simpa using ih
  | case4 c rest hbar hfeed ih => simpa [ih] using Ne.symm hfeed

/-- A text without bars and line feeds is its own cell. -/
theorem cellChars_eq_self (hbar : '|' ∉ text) (hfeed : '\n' ∉ text) : cellChars text = text := by
  fun_induction cellChars text with
  | case1 => rfl
  | case2 rest ih => exact absurd List.mem_cons_self hbar
  | case3 rest ih => exact absurd List.mem_cons_self hfeed
  | case4 c rest _ _ ih =>
    rw [ih (fun h => hbar (List.mem_cons_of_mem _ h)) fun h => hfeed (List.mem_cons_of_mem _ h)]

end

/-! ## Rows -/

/-- The row of some texts. -/
def rowOf (texts : List String) : String :=
  "|" ++ String.join (texts.map fun text => s!" {cell text} |")

theorem toList_rowOf (texts : List String) : (rowOf texts).toList =
    '|' :: texts.flatMap fun text => ' ' :: (cellChars text.toList ++ [' ', '|']) := by
  rw [rowOf, String.toList_append, String.toList_join, List.flatMap_map]
  simp [toList_cell, toString]

theorem hasCells_rowOf (texts : List String) : HasCells (rowOf texts) (texts.map cell) := by
  have hcut : cutBars false (texts.flatMap fun text =>
        ' ' :: (cellChars text.toList ++ [' ', '|'])) =
      (texts.map fun text => ' ' :: (cellChars text.toList ++ [' '])) ++ [[]] := by
    induction texts with
    | nil => rfl
    | cons text rest ih =>
      rw [List.flatMap_cons, List.cons_append, List.append_assoc, List.cons_append,
        List.singleton_append, cutBars_cons _ _ (by decide), cutBars_cell, ih]
      rfl
  rw [HasCells, toList_rowOf, cutBars_bar, hcut]
  simp [← toList_cell, toString, String.append_assoc]

example : HasCells "| a\\|b\\ | 3 |" ["a\\|b\\", "3"] := by
  unfold HasCells
  decide +kernel

/-- A text without bars and line feeds is its own cell. -/
theorem cell_eq_self {text : String} (hbar : '|' ∉ text.toList) (hfeed : '\n' ∉ text.toList) :
    cell text = text := by
  rw [← String.toList_inj, toList_cell, cellChars_eq_self _ hbar hfeed]

theorem cell_toString (n : ℕ) : cell (toString n) = toString n :=
  cell_eq_self (not_mem_numeral_nat n rfl) (not_mem_numeral_nat n rfl)

theorem cell_name (category : Category) : cell category.name = category.name := by
  cases category <;> exact cell_eq_self (by decide) (by decide)

theorem cell_riskLevel (category : String) (count : ℤ) :
    cell (riskLevel category count) = riskLevel category count := by
  rw [riskLevel]
  split
  · exact cell_eq_self (by decide) (by decide)
  · split
    · exact cell_eq_self (by decide) (by decide)
    · exact cell_eq_self (by decide) (by decide)

theorem ruleRow_eq (row : String × ℕ) : ruleRow row = rowOf [row.1, toString row.2] := by
  rw [rowOf, List.map_cons, List.map_singleton, cell_toString, ← String.toList_inj]
  simp [ruleRow, toString]

theorem categoryRow_eq {row : String × ℕ} (hname : cell row.1 = row.1) :
    categoryRow row = rowOf [row.1, toString row.2, riskLevel row.1 row.2] := by
  rw [rowOf, List.map_cons, List.map_cons, List.map_singleton, hname, cell_toString,
    cell_riskLevel, ← String.toList_inj]
  simp [categoryRow, toString]

/-- A line that is the row of some texts. -/
def IsRow (line : String) : Prop := ∃ texts, line = rowOf texts

theorem IsRow.begins_eq_false {line : String} (h : IsRow line) : begins "## " line = false := by
  obtain ⟨texts, rfl⟩ := h
  rw [begins, toList_rowOf]
  rfl

theorem IsRow.ne_blank {line : String} (h : IsRow line) : line ≠ "" := by
  obtain ⟨texts, rfl⟩ := h
  rw [ne_eq, ← String.toList_inj, toList_rowOf]
  simp

theorem IsRow.not_mem {line : String} (h : IsRow line) : '\n' ∉ line.toList := by
  obtain ⟨texts, rfl⟩ := h
  simp [toList_rowOf, not_mem_cellChars]

theorem filter_rows {rows : List String} (h : ∀ line ∈ rows, IsRow line) :
    rows.filter (begins "## ") = [] := by
  rw [List.filter_eq_nil_iff]
  intro line hline
  rw [(h line hline).begins_eq_false]
  exact Bool.false_ne_true

/-! ## Tables -/

/-- The rows of the table under a title. They stand behind the first line that is the title, a blank
line and the lines for the columns, and go as far as the next blank line. -/
def TableUnder (title : String) (columns rows lines : List String) : Prop :=
  ∃ before after, lines = before ++ title :: "" :: columns ++ rows ++ "" :: after ∧
    title ∉ before ∧ "" ∉ rows

/-- A line shows a rule if it has two cells, of which the first says the name, with a blank for each
line feed, and the second the count. -/
def ShowsRule (line : String) (row : String × ℕ) : Prop :=
  ∃ name, HasCells line [name, toString row.2] ∧
    String.ofList (unescapeBars name.toList) = onLine row.1

/-- A line shows a category if its cells are the name, the count and the risk. -/
def ShowsCategory (line : String) (row : String × ℕ) : Prop :=
  HasCells line [row.1, toString row.2, riskLevel row.1 row.2]

theorem showsRule_ruleRow (row : String × ℕ) : ShowsRule (ruleRow row) row := by
  refine ⟨cell row.1, ?_, ?_⟩
  · have hcells := hasCells_rowOf [row.1, toString row.2]
    rwa [List.map_cons, List.map_singleton, cell_toString, ← ruleRow_eq] at hcells
  · rw [toList_cell, unescapeBars_cellChars, onLine]

theorem showsCategory_categoryRow {row : String × ℕ} (hname : cell row.1 = row.1) :
    ShowsCategory (categoryRow row) row := by
  have hcells := hasCells_rowOf [row.1, toString row.2, riskLevel row.1 row.2]
  rwa [List.map_cons, List.map_cons, List.map_singleton, hname, cell_toString, cell_riskLevel,
    ← categoryRow_eq hname] at hcells

/-! ## The lines of the summary -/

variable {s : TriageSummary} {generated : String}

/-- The lines above the first table that can hold a name. -/
def overviewLines (s : TriageSummary) (generated : String) : List String :=
  head "Violations Executive Summary" generated "Total Violations" s.total ++
  ["## Overview", "", "| Metric | Count |", "|--------|-------|",
    s!"| Critical Issues | {s.critical.length} |", s!"| Errors | {s.ofSeverity .error} |",
    s!"| Warnings | {s.ofSeverity .warning} |", s!"| Quick Wins | {s.quickWins.length} |", ""]

def assessmentLines (s : TriageSummary) : List String :=
  [s!"## Overall Assessment: {(assess s).verdict}", "",
    s!"**Recommended Action**: {(assess s).action}", ""]

def ruleColumns : List String := ["| Rule | Violations |", "|------|------------|"]

def categoryColumns : List String :=
  ["| Category | Violations | Risk Level |", "|----------|------------|------------|"]

theorem summaryLines_eq (s : TriageSummary) (generated : String) : summaryLines s generated =
    overviewLines s generated ++ "## Top Rules" :: "" :: ruleColumns ++
      (s.topRules 5).map ruleRow ++ "" :: "## Impact Assessment" :: "" :: categoryColumns ++
      s.sortedCategories.map categoryRow ++ "" :: assessmentLines s := by
  simp [summaryLines, overviewLines, assessmentLines, ruleColumns, categoryColumns]

/-- Names of categories hold neither bars nor line feeds. -/
theorem cell_of_mem_sortedCategories {row : String × ℕ} (hrow : row ∈ s.sortedCategories) :
    cell row.1 = row.1 := by
  obtain ⟨item, -, hname⟩ := key_of_mem_tally (TriageSummary.sortedCategories_perm.mem_iff.1 hrow)
  rw [← hname]
  exact cell_name item.category

theorem isRow_of_mem_rules : ∀ line ∈ (s.topRules 5).map ruleRow, IsRow line := by
  rw [List.forall_mem_map]
  intro row _
  exact ⟨_, ruleRow_eq row⟩

theorem isRow_of_mem_categories : ∀ line ∈ s.sortedCategories.map categoryRow, IsRow line := by
  rw [List.forall_mem_map]
  intro row hrow
  exact ⟨_, categoryRow_eq (cell_of_mem_sortedCategories hrow)⟩

theorem not_mem_overview (hgenerated : '\n' ∉ generated.toList) :
    ∀ line ∈ overviewLines s generated, '\n' ∉ line.toList := by
  have hnumeral : ∀ n, '\n' ∉ Nat.toDigits 10 n := fun n => not_mem_toDigits n rfl
  simp [overviewLines, head, toString, hgenerated, hnumeral]

theorem not_mem_assessment : ∀ line ∈ assessmentLines s, '\n' ∉ line.toList := by
  have hverdict : '\n' ∉ (assess s).verdict.toList ∧ '\n' ∉ (assess s).action.toList := by
    rw [assess]
    split
    · decide
    · split <;> decide
  simp [assessmentLines, toString, hverdict]

theorem filter_overview : (overviewLines s generated).filter (begins "## ") = ["## Overview"] := by
  simp [overviewLines, head, begins, toString]

theorem filter_assessment : (assessmentLines s).filter (begins "## ") =
    [s!"## Overall Assessment: {(assess s).verdict}"] := by
  simp [assessmentLines, begins, toString]

/-- No row of a table looks like a title. -/
theorem filter_summaryLines (s : TriageSummary) (generated : String) :
    (summaryLines s generated).filter (begins "## ") =
      ["## Overview", "## Top Rules", "## Impact Assessment",
        s!"## Overall Assessment: {(assess s).verdict}"] := by
  rw [summaryLines_eq]
  simp only [List.filter_append, List.filter_cons, filter_overview, filter_assessment,
    filter_rows isRow_of_mem_rules, filter_rows isRow_of_mem_categories]
  rfl

/-- Each line of the summary is one line of its text. -/
theorem not_mem_summaryLines (hgenerated : '\n' ∉ generated.toList) :
    ∀ line ∈ summaryLines s generated, '\n' ∉ line.toList := by
  have hrules : ∀ line ∈ (s.topRules 5).map ruleRow, '\n' ∉ line.toList := fun line hline =>
    (isRow_of_mem_rules line hline).not_mem
  have hcategories : ∀ line ∈ s.sortedCategories.map categoryRow, '\n' ∉ line.toList :=
    fun line hline => (isRow_of_mem_categories line hline).not_mem
  rw [summaryLines_eq]
  simp only [List.forall_mem_append, List.forall_mem_cons, ruleColumns, categoryColumns]
  exact ⟨⟨⟨⟨⟨not_mem_overview hgenerated, by decide⟩, hrules⟩, by decide⟩, hcategories⟩, by decide,
    not_mem_assessment⟩

theorem linesOf_summary (hgenerated : '\n' ∉ generated.toList) :
    linesOf (Report.render s generated .summary) = summaryLines s generated :=
  linesOf_text (List.cons_ne_nil _ _) (not_mem_summaryLines hgenerated)

/-- A title stands nowhere among lines of which it is not one of the titles. -/
theorem not_mem_of_filter {title : String} {titles lines : List String}
    (hfilter : lines.filter (begins "## ") = titles) (htitle : begins "## " title = true)
    (hne : title ∉ titles) : title ∉ lines := by
  intro hmem
  exact hne (hfilter ▸ List.mem_filter.2 ⟨hmem, htitle⟩)

theorem tableUnder_rules (s : TriageSummary) (generated : String) :
    TableUnder "## Top Rules" ruleColumns ((s.topRules 5).map ruleRow)
      (summaryLines s generated) := by
  refine ⟨overviewLines s generated, "## Impact Assessment" :: "" :: categoryColumns ++
    s.sortedCategories.map categoryRow ++ "" :: assessmentLines s, ?_, ?_, ?_⟩
  · simp [summaryLines_eq]
  · exact not_mem_of_filter filter_overview (by decide) (by decide)
  · exact fun hblank => (isRow_of_mem_rules "" hblank).ne_blank rfl

theorem tableUnder_categories (s : TriageSummary) (generated : String) :
    TableUnder "## Impact Assessment" categoryColumns (s.sortedCategories.map categoryRow)
      (summaryLines s generated) := by
  refine ⟨overviewLines s generated ++ "## Top Rules" :: "" :: ruleColumns ++
    (s.topRules 5).map ruleRow ++ [""], assessmentLines s, ?_, ?_, ?_⟩
  · simp [summaryLines_eq]
  · have hfilter : (overviewLines s generated ++ "## Top Rules" :: "" :: ruleColumns ++
        (s.topRules 5).map ruleRow ++ [""]).filter (begins "## ") =
          ["## Overview", "## Top Rules"] := by
      simp only [List.filter_append, List.filter_cons, filter_overview,
        filter_rows isRow_of_mem_rules]
      rfl
    exact not_mem_of_filter hfilter (by decide) (by decide)
  · exact fun hblank => (isRow_of_mem_categories "" hblank).ne_blank rfl

/-! ## What the tables say -/

/-- What can be read off the tables of the executive summary on some violations. -/
structure SummaryTables (s : TriageSummary) (vs : List Violation) (lines : List String) :
    Prop where
  /-- Nothing but the titles looks like one. -/
  titles : lines.filter (begins "## ") = ["## Overview", "## Top Rules", "## Impact Assessment",
    s!"## Overall Assessment: {(assess s).verdict}"]
  /-- The most frequent rules have one row each. -/
  rules : ∃ rows, TableUnder "## Top Rules" ["| Rule | Violations |", "|------|------------|"] rows
      lines ∧
    rows.length = min 5 (TriageSummary.ruleCount (vs.map (·.rule))) ∧
    List.Forall₂ ShowsRule rows (s.topRules 5)
  /-- The count of a rule is that of its violations. -/
  counts : ∀ row ∈ s.topRules 5, row.2 = vs.countP (·.rule == row.1)
  /-- The categories have one row each. -/
  categories : ∃ rows, TableUnder "## Impact Assessment"
      ["| Category | Violations | Risk Level |", "|----------|------------|------------|"] rows
      lines ∧
    List.Forall₂ ShowsCategory rows s.sortedCategories
  /-- They are those that occur. -/
  occurs : ∀ row, row ∈ s.sortedCategories ↔
    0 < row.2 ∧ row.2 = s.items.countP (·.category.name == row.1)
  ascending : (s.sortedCategories.map Prod.fst).Pairwise fun a b =>
    Text.codes a.toList < Text.codes b.toList

end LineLint.Report

namespace LineLint.TriageSummary

/-- Whatever the rules are called, the tables of the executive summary can be read back. -/
theorem tables_intact (overrides : List (String × Category)) (vs : List Violation)
    {generated : String} (hgenerated : '\n' ∉ generated.toList) :
    let s := ofViolations overrides vs
    Report.SummaryTables s vs (Report.linesOf (Report.render s generated .summary)) := by
  intro s
  rw [Report.linesOf_summary hgenerated]
  constructor
  case titles => exact Report.filter_summaryLines s generated
  case rules =>
    refine ⟨_, Report.tableUnder_rules s generated, ?_, ?_⟩
    · rw [List.length_map, ← rules_ofViolations overrides vs]
      exact length_topRules s 5
    · exact List.forall₂_map_left_iff.2
        (List.forall₂_same.2 fun row _ => Report.showsRule_ruleRow row)
  case counts =>
    intro row hrow
    have hranked : row ∈ s.rankedRules := List.mem_of_mem_take (topRules_natCast 5 ▸ hrow)
    rw [(mem_rankedRules.1 hranked).2]
    exact List.countP_map
  case categories =>
    refine ⟨_, Report.tableUnder_categories s generated, ?_⟩
    refine List.forall₂_map_left_iff.2 (List.forall₂_same.2 fun row hrow => ?_)
    exact Report.showsCategory_categoryRow (Report.cell_of_mem_sortedCategories hrow)
  case occurs => exact fun _ => mem_sortedCategories
  case ascending => exact pairwise_names_sortedCategories s

/-- Names with bars, backslashes and a line feed, in the way in which they are hardest to read. -/
def barredNames : List Violation := [
  { rule := "a|b\\", file := "a.ts", message := "m" },
  { rule := "\\|\n", file := "a.ts", message := "m" },
  { rule := "| a | 9 |", file := "a.ts", message := "m" },
  { rule := "\\|\n", file := "b.ts", message := "m" },
  { rule := "\n## Top Rules\n", file := "b.ts", message := "m" }]

/-- Each of the four different names has its row. -/
theorem tables_intact_barred :
    '\n' ∉ "now".toList ∧ ruleCount (barredNames.map (·.rule)) = 4 ∧
    Report.SummaryTables (ofViolations [] barredNames) barredNames
      (Report.linesOf (Report.render (ofViolations [] barredNames) "now" .summary)) := by
  have hnow : '\n' ∉ "now".toList := by decide
  exact ⟨hnow, by decide, tables_intact [] barredNames hnow⟩

end LineLint.TriageSummary
