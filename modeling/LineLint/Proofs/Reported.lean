import LineLint.Proofs.JsonReport
import LineLint.Proofs.RunOrder

/-!
# What a run reports

Whatever a run reports, some rule has found in a file that has a name. Main statement:
`Command.Run.yields_lintResult`.
-/

namespace LineLint

/-- A violation of a file with a name that tells of a check of a rule. -/
structure Violation.IsReported (v : Violation) : Prop where
  named : v.file ≠ ""
  tells : ∃ (settings : Settings) (r : Rule) (c : Check), r ∈ settings.allRules ∧ c ∈ r.checks ∧
    v.rule = r.name ∧ v.message = c.advice.message ∧ v.suggestion = some c.advice.suggestion

/-- Whatever is said of a text, some row of a rule says. -/
theorem Settings.exists_row_of_mem_lintText {s : Settings} {file content : String} {v : Violation}
    (hv : v ∈ s.lintText file content) :
    ∃ r ∈ s.allRules, ∃ c ∈ r.checks, v = r.violation file c.advice v.line := by
  obtain ⟨r, hr, hv⟩ := List.mem_flatMap.1 hv
  rw [Rule.validate_eq_map_findings] at hv
  obtain ⟨f, hf, rfl⟩ := List.mem_map.1 hv
  have hrow : r.checks[f.row]? = some f.check := by
    cases (Rule.mem_findings.1 hf).2 with
    | line hrow => exact hrow
    | file hrow => exact hrow
  exact ⟨r, (List.filter_sublist.map _).subset hr, f.check, List.mem_of_getElem? hrow, rfl⟩

theorem Path.toString_ne_empty {p : Path} (h : p.IsPlain) : p.toString ≠ "" := by
  intro hempty
  have hparse := Path.parse_toString h
  rw [hempty] at hparse
  rw [← hparse] at hempty
  exact absurd hempty (by decide)

theorem Path.IsPlain.join {p q : Path} (hp : p.IsPlain) (hq : q.IsPlain) : (p.join q).IsPlain := by
  rw [Path.join]
  split
  · exact hq
  · exact hp.append hq

namespace Project

variable {p : Project} {t : FileTree} {path : Path} {id : String}

/-- The name of a file is not empty. -/
theorem fileId_ne_empty (h : t.Sound) (hplain : path.IsPlain) (hid : p.fileId t path = .ok id) :
    id ≠ "" := by
  rw [fileId] at hid
  split at hid
  · rename_i location hresolve
    cases hid
    refine Path.toString_ne_empty ?_
    have hreal := FileTree.isReal_of_resolve h Location.isReal_nil hplain hresolve
    rw [Path.relativeTo?]
    split
    · exact fun name hname => hreal.plainNames name (List.drop_subset _ _ hname)
    · exact hplain
  · cases hid
    exact Path.toString_ne_empty hplain
  · cases hid

theorem isReported_of_lintText {s : Settings} {content : String} {v : Violation} (hid : id ≠ "")
    (hv : v ∈ s.lintText id content) : v.IsReported := by
  obtain ⟨r, hr, c, hc, htold⟩ := Settings.exists_row_of_mem_lintText hv
  refine ⟨?_, s, r, c, hr, hc, ?_⟩
  · rwa [Settings.file_of_mem_lintText hv]
  · rw [htold]
    exact ⟨rfl, rfl, rfl⟩

theorem isPlain_of_expand (h : t.Sound) (hroot : Location.IsReal p.root) {target : Path}
    (htarget : target.IsPlain) {files : List Path} (hexpand : p.expand t target = .ok files) :
    ∀ path ∈ files, path.IsPlain := by
  have hjoin := isPlain_join hroot htarget
  intro path hpath
  rcases expand_eq_ok_iff.1 hexpand with ⟨-, rfl⟩ | ⟨-, rfl⟩
  · exact FileTree.isPlain_of_mem_filesBelow h hjoin hpath
  · rwa [List.mem_singleton.1 hpath]

theorem isPlain_of_targets (h : t.Sound) (hroot : Location.IsReal p.root)
    {targets files : List Path} (htargets : ∀ target ∈ targets, target.IsPlain)
    (hfiles : p.targets t targets = .ok files) : ∀ path ∈ files, path.IsPlain := by
  intro path hpath
  cases targets with
  | nil =>
    cases hfiles
    exact FileTree.isPlain_of_mem_filesBelow h (isPlain_rootPath hroot) hpath
  | cons first rest =>
    change (do return (← (first :: rest).mapM (p.expand t)).flatten) = Except.ok files at hfiles
    obtain ⟨groups, hexpand, hflat⟩ := bind_eq_ok_iff.1 hfiles
    cases hflat
    obtain ⟨group, hgroup, hpath⟩ := List.mem_flatten.1 hpath
    obtain ⟨target, htarget, hone⟩ := exists_of_forall₂ (mapM_eq_ok_iff.1 hexpand).flip hgroup
    exact isPlain_of_expand h hroot (htargets target htarget) hone path hpath

/-- Whatever a run reports, the rules have found in the text of one of its targets. -/
theorem exists_of_mem_violations {targets : List Path} {run : LintResult × List Warning}
    (hrun : p.lint t targets = .ok run) {v : Violation} (hv : v ∈ run.1.violations) :
    ∃ files path bytes id, p.targets t targets = .ok files ∧ path ∈ files ∧
      t.read [] path = .ok bytes ∧ p.fileId t path = .ok id ∧
      v ∈ p.settings.lintText id (decodeSource bytes) := by
  obtain ⟨files, outcomes, hfiles, hgive, rfl⟩ := lint_eq_ok_iff.1 hrun
  obtain ⟨outcome, houtcome, hv⟩ := List.mem_flatMap.1 hv
  obtain ⟨path, hpath, hone⟩ := exists_of_forall₂ hgive.flip houtcome
  rcases lintFile_cases hone with ⟨bytes, id, hread, hid, rfl⟩ | ⟨-, rfl⟩
  · exact ⟨files, path, bytes, id, hfiles, hpath, hread, hid, hv⟩
  · cases hv

/-- Whatever a run reports, a rule has found in a file with a name. -/
theorem isReported_of_lint (h : t.Sound) (hroot : Location.IsReal p.root) {targets : List Path}
    (htargets : ∀ target ∈ targets, target.IsPlain) {run : LintResult × List Warning}
    (hrun : p.lint t targets = .ok run) : ∀ v ∈ run.1.violations, v.IsReported := by
  intro v hv
  obtain ⟨files, path, bytes, id, hfiles, hpath, -, hid, hv⟩ := exists_of_mem_violations hrun hv
  have hplain := isPlain_of_targets h hroot htargets hfiles path hpath
  exact isReported_of_lintText (fileId_ne_empty h hplain hid) hv

end Project

namespace Command

variable {env : Environment} {t : FileTree}

/-- The places that words can name are paths. -/
structure Environment.IsPlain (env : Environment) : Prop where
  cwd : Location.IsReal env.cwd
  home : env.home.IsPlain
  homes : ∀ row ∈ env.homes, row.2.IsPlain

instance (env : Environment) : Decidable env.IsPlain :=
  decidable_of_iff (Location.IsReal env.cwd ∧ env.home.IsPlain ∧ ∀ row ∈ env.homes, row.2.IsPlain)
    ⟨fun ⟨hcwd, hhome, hhomes⟩ => ⟨hcwd, hhome, hhomes⟩, fun h => ⟨h.cwd, h.home, h.homes⟩⟩

namespace Run

theorem yields_expandHome (henv : env.IsPlain) {p : Path} (hp : p.IsPlain) :
    Yields t Path.IsPlain (expandHome env p) := by
  unfold expandHome
  split
  · rename_i first rest _ hparts
    have hrest : (Path.mk .relative rest).IsPlain := by
      have hall : PlainNames (first :: rest) := hparts ▸ hp
      exact hall.tail
    split
    · exact yields_pure (henv.home.join hrest)
    · split
      · rename_i home hhome
        obtain ⟨before, after, hrows, -⟩ := List.lookup_eq_some_iff.1 hhome
        have hmem := hrows ▸ List.mem_append_right before List.mem_cons_self
        exact yields_pure ((henv.homes _ hmem).join hrest)
      · exact yields_throw _
    · exact yields_pure hp
  · exact yields_pure hp

section

variable (h : t.Sound) (henv : env.IsPlain)

include h henv

theorem yields_resolve {p : Path} (hp : p.IsPlain) : Yields t Path.IsPlain (resolve env p) :=
  (yields_expandHome henv hp).bind fun _ hnamed =>
    (yields_look fun _ hfound => FileTree.isReal_of_resolve h henv.cwd hnamed hfound).bind
      fun _ hreal => yields_pure hreal.plainNames

theorem yields_resolveTargets {targets : List Path} (htargets : ∀ p ∈ targets, p.IsPlain) :
    Yields t (fun found => ∀ p ∈ found, p.IsPlain) (resolveTargets env targets) := by
  refine (yields_mapM fun p hp => yields_resolve h henv (htargets p hp)).bind fun found hfound => ?_
  have hmissing : Yields t (fun _ => True) (found.filterM fun p =>
      return !(← look fun t => t.exists? env.cwd p)) := by
    refine yields_filterM (fun p => ?_) found
    exact Yields.bind (yields_look fun _ _ => trivial) fun _ _ => yields_pure trivial
  refine hmissing.bind fun missing _ => ?_
  split
  · exact yields_pure hfound
  · exact yields_refuse _

theorem yields_openProject {config : Option Path} {directory : Option String} :
    Yields t (fun p => Location.IsReal p.root)
      (openProject env ⟨config, directory.map Path.parse⟩) := by
  have hdirectory : ((directory.map Path.parse).getD (.absolute env.cwd)).IsPlain := by
    cases directory with
    | none => exact henv.cwd.plainNames
    | some text => exact Path.isPlain_parse text
  refine Yields.bind (yields_look fun root hroot =>
    FileTree.isReal_of_resolve h henv.cwd hdirectory hroot) fun root hreal => ?_
  refine Yields.bind yields_get fun session _ => ?_
  split
  · exact Yields.bind (yields_warn _) fun _ _ => yields_pure hreal
  · exact yields_refuseConfig _ _
  · exact yields_throw _

/-- Whatever a lint reports, a rule has found in a file with a name. -/
theorem yields_lintResult {targets : List String} {config : Option Path}
    {directory : Option String} : Yields t (fun r => ∀ v ∈ r.violations, v.IsReported)
      (lintResult env (targets.map Path.parse) ⟨config, directory.map Path.parse⟩) := by
  have htargets : ∀ p ∈ targets.map Path.parse, p.IsPlain := by
    intro p hp
    obtain ⟨word, -, rfl⟩ := List.mem_map.1 hp
    exact Path.isPlain_parse word
  refine (yields_resolveTargets h henv htargets).bind fun found hfound => ?_
  refine (yields_openProject h henv).bind fun p hroot => ?_
  exact yields_result fun r warnings hrun => Project.isReported_of_lint h hroot hfound hrun

end

end Run

end Command

end LineLint
