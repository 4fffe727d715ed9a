import LineLint.Proofs.Discovery
import LineLint.Proofs.Samples
import Mathlib.Data.List.TakeWhile

/-!
# Which files are listed

Below a path a project lists the files that stand at the end of a chain of real directories. None
of these has an excluded name, but the directory where the chain starts may be a link and have any
name. Main statement: `Project.filesIn_exact`. A directory that can only be reached by a path that
is too long cannot be opened, so `Project.filesIn_omits_deep` shows a file that is not listed.
-/

namespace LineLint

/-! ## Suffixes -/

/-- The suffix of a name is what it holds from its last dot on. There is none if that dot is the
first or the last character, or if there is no dot. -/
inductive HasSuffix (name : String) : String → Prop
  | dot {stem extension : List Char} (hname : name.toList = stem ++ '.' :: extension)
      (hlast : '.' ∉ extension) (hstem : stem ≠ []) (hextension : extension ≠ []) :
      HasSuffix name (String.ofList ('.' :: extension))
  | outer {stem extension : List Char} (hname : name.toList = stem ++ '.' :: extension)
      (hlast : '.' ∉ extension) (hend : stem = [] ∨ extension = []) : HasSuffix name ""
  | none (hname : '.' ∉ name.toList) : HasSuffix name ""

namespace Path

variable {name suffix : String} {stem extension : List Char}

theorem suffixOf_of_split (hname : name.toList = stem ++ '.' :: extension)
    (hlast : '.' ∉ extension) :
    suffixOf name =
      if stem = [] ∨ extension = [] then "" else String.ofList ('.' :: extension) := by
  have hreverse : name.toList.reverse = extension.reverse ++ '.' :: stem.reverse := by
    rw [hname]
    simp
  have htake : name.toList.reverse.takeWhile (· != '.') = extension.reverse := by
    have hall : ∀ c ∈ extension.reverse, (c != '.') = true := by
      intro c hc
      simpa using fun he : c = '.' => hlast (he ▸ List.mem_reverse.1 hc)
    rw [hreverse, List.takeWhile_append_of_pos hall]
    simp
  have hdrop : name.toList.reverse.drop extension.reverse.length = '.' :: stem.reverse := by
    rw [hreverse, List.drop_left]
  rw [suffixOf]
  simp only [htake, hdrop]
  cases hstem : stem.reverse with
  | nil => simp [List.reverse_eq_nil_iff.1 hstem]
  | cons c rest =>
    have hne : stem ≠ [] := by
      rintro rfl
      cases hstem
    simp [hne]

theorem suffixOf_of_not_mem (hname : '.' ∉ name.toList) : suffixOf name = "" := by
  have htake : name.toList.reverse.takeWhile (· != '.') = name.toList.reverse := by
    rw [List.takeWhile_eq_self_iff]
    intro c hc
    simpa using fun he : c = '.' => hname (he ▸ List.mem_reverse.1 hc)
  have hdrop : name.toList.reverse.drop name.toList.reverse.length = [] := List.drop_length
  rw [suffixOf]
  simp only [htake, hdrop]

theorem hasSuffix_iff : HasSuffix name suffix ↔ suffixOf name = suffix := by
  constructor
  · intro h
    cases h with
    | dot hname hlast hstem hextension => simp [suffixOf_of_split hname hlast, hstem, hextension]
    | outer hname hlast hend => rw [suffixOf_of_split hname hlast, if_pos hend]
    | none hname => exact suffixOf_of_not_mem hname
  · rintro rfl
    by_cases hdot : '.' ∈ name.toList
    · -- the last dot is the first one of the reversed name
      obtain ⟨last, first, hreverse, hlast⟩ :=
        List.eq_append_cons_of_mem (List.mem_reverse.2 hdot)
      have hname : name.toList = first.reverse ++ '.' :: last.reverse := by
        rw [← List.reverse_reverse name.toList, hreverse]
        simp
      have hlast' : '.' ∉ last.reverse := by simpa using hlast
      rw [suffixOf_of_split hname hlast']
      split
      · rename_i hend
        exact .outer hname hlast' hend
      · rename_i hend
        obtain ⟨hstem, hextension⟩ := not_or.1 hend
        exact .dot hname hlast' hstem hextension
    · rw [suffixOf_of_not_mem hdot]
      exact .none hdot

/-! ## The length of a path -/

theorem size_intercalate_le (parts more : List String) :
    ("/".intercalate parts).utf8ByteSize ≤ ("/".intercalate (parts ++ more)).utf8ByteSize := by
  induction parts with
  | nil => simp
  | cons name rest ih =>
    cases rest with
    | nil =>
      cases more with
      | nil => simp
      | cons next more =>
        simp only [List.cons_append, List.nil_append, String.intercalate_cons_cons,
          String.utf8ByteSize_append, String.intercalate_singleton]
        omega
    | cons next rest =>
      simp only [List.cons_append, String.intercalate_cons_cons, String.utf8ByteSize_append] at ih ⊢
      omega

/-- A path that goes on from another is as long, or the other is the single dot. -/
theorem size_le_append (root : PathRoot) (parts more : List String) :
    (Path.mk root parts).toString.utf8ByteSize ≤
      max 1 (Path.mk root (parts ++ more)).toString.utf8ByteSize := by
  have hbody := size_intercalate_le parts more
  cases root with
  | relative =>
    by_cases hparts : parts = []
    · have hdot : (Path.mk .relative parts).toString.utf8ByteSize = 1 := by
        rw [hparts]
        rfl
      exact hdot.le.trans (le_max_left _ _)
    · simp [toString, hparts, hbody]
  | slash =>
    simp only [toString, String.utf8ByteSize_append]
    omega
  | doubleSlash =>
    simp only [toString, String.utf8ByteSize_append]
    omega

/-- What goes on to a path that is not too long is not too long either. -/
theorem size_lt_of_append {root : PathRoot} {parts more : List String}
    (hsize : (Path.mk root (parts ++ more)).toString.utf8ByteSize < FileTree.maxPathBytes) :
    (Path.mk root parts).toString.utf8ByteSize < FileTree.maxPathBytes := by
  have hone : 1 < FileTree.maxPathBytes := by decide
  exact lt_of_le_of_lt (size_le_append root parts more) (max_lt hone hsize)

end Path

/-! ## Chains of directories -/

namespace FileTree

variable {t : FileTree} {top path : Path} {here there : Location} {dirs : List String}

/-- Real directories lead from a place down to another, each by its name in the one before, and the
paths of all of them can be opened. -/
inductive Descends (t : FileTree) : Path → Location → List String → Location → Prop
  | stay {top : Path} {here : Location} (hopen : top.toString.utf8ByteSize < maxPathBytes) :
      Descends t top here [] here
  | enter {top : Path} {here there : Location} {dir : String} {dirs : List String}
      (hopen : top.toString.utf8ByteSize < maxPathBytes)
      (hdir : t.entry? (here ++ [dir]) = some .directory)
      (h : Descends t (top.join ⟨.relative, [dir]⟩) (here ++ [dir]) dirs there) :
      Descends t top here (dir :: dirs) there

theorem Descends.eq_append (h : t.Descends top here dirs there) : there = here ++ dirs := by
  induction h with
  | stay => rw [List.append_nil]
  | enter _ _ _ ih => rw [ih, List.append_assoc, List.singleton_append]

theorem Descends.opened (h : t.Descends top here dirs there) :
    (top.join ⟨.relative, dirs⟩).toString.utf8ByteSize < maxPathBytes := by
  induction h with
  | stay hopen => simpa [Path.join, Path.isAbsolute] using hopen
  | enter _ _ _ ih => simpa [Path.join, Path.isAbsolute] using ih

/-- Whatever stands in a directory is reached from above through real directories, and if the last
of them can be opened then all of them can. -/
theorem descends_of_entry? (h : t.WellFormed)
    (hdir : t.entry? (here ++ dirs) = some .directory)
    (hopen : (top.join ⟨.relative, dirs⟩).toString.utf8ByteSize < maxPathBytes) :
    t.Descends top here dirs (here ++ dirs) := by
  induction dirs generalizing top here with
  | nil =>
    rw [List.append_nil]
    exact .stay (by simpa [Path.join, Path.isAbsolute] using hopen)
  | cons dir dirs ih =>
    rw [List.append_cons] at hdir ⊢
    have hfirst : t.entry? (here ++ [dir]) = some .directory := by
      by_cases hnil : dirs = []
      · simpa [hnil] using hdir
      · exact entry?_of_append h hnil hdir
    have hsize : top.toString.utf8ByteSize < maxPathBytes := Path.size_lt_of_append hopen
    exact .enter hsize hfirst (ih hdir (by simpa [Path.join, Path.isAbsolute] using hopen))

theorem leadsToDirectory_iff {cwd : Location} {entry : Entry} :
    t.leadsToDirectory cwd path entry = false ↔ entry ≠ .directory ∧
      ∀ target, entry = .link target →
        ∀ place, t.locate cwd path ≠ .ok ⟨place, some .directory⟩ := by
  cases entry with
  | directory => simp [leadsToDirectory]
  | file bytes => simp [leadsToDirectory]
  | link target =>
    have hnot : t.leadsToDirectory cwd path (.link target) = false ↔
        t.isDirectory cwd path ≠ .ok true := by
      rw [leadsToDirectory]
      cases t.isDirectory cwd path with
      | error e => simp
      | ok found => cases found <;> simp
    rw [hnot, ne_eq, isDirectory_eq_true_iff]
    simp

end FileTree

/-! ## What is listed -/

namespace Project

variable {p : Project} {t : FileTree} {top path : Path}

theorem wants_iff (s : Settings) (name : String) :
    s.wants name = true ↔ .text name ∈ s.manifestNames ∨
      ∃ suffix, HasSuffix name suffix ∧ .text suffix ∈ s.extensions := by
  simp [Settings.wants, Path.hasSuffix_iff]

theorem enters_iff (s : Settings) (name : String) :
    s.enters name = true ↔ .text name ∉ s.excludeDirs := by
  simp [Settings.enters]

/-- A file in a directory that is entered from the top is listed if its name is wanted. -/
theorem mem_filesIn {p : Project} {t : FileTree} {top : Path} {here there : Location}
    {dirs : List String} {name : String} {entry : Entry}
    (hlocate : t.locate [] top = .ok ⟨here, some .directory⟩)
    (hdescends : t.Descends top here dirs there)
    (hentered : ∀ dir ∈ dirs, .text dir ∉ p.settings.excludeDirs)
    (hentry : t.entry? (there ++ [name]) = some entry)
    (hnot : t.leadsToDirectory [] (top.join ⟨.relative, dirs ++ [name]⟩) entry = false)
    (hwanted : .text name ∈ p.settings.manifestNames ∨
      ∃ suffix, HasSuffix name suffix ∧ .text suffix ∈ p.settings.extensions) :
    top.join ⟨.relative, dirs ++ [name]⟩ ∈ p.filesIn t top := by
  rw [filesIn, FileTree.mem_filesBelow]
  have hrow : (here ++ (dirs ++ [name]), entry) ∈ t.toList := by
    rw [hdescends.eq_append, List.append_assoc] at hentry
    exact FileTree.mem_of_entry?_eq (by simp) hentry
  refine ⟨here, dirs ++ [name], entry, hlocate, hrow, rfl, by simp, ?_, ?_, hnot, ?_⟩
  · intro dir hdir
    rw [List.dropLast_concat] at hdir
    exact (enters_iff _ _).2 (hentered dir hdir)
  · intro last hlast
    rw [List.getLast?_concat, Option.mem_some_iff] at hlast
    exact (wants_iff _ _).2 (hlast ▸ hwanted)
  · rw [Path.parent, ← List.append_assoc, List.dropLast_concat]
    exact hdescends.opened

/-- A wanted file of the project is listed if the directory that it stands in can be opened. -/
theorem mem_files_of_entry (h : t.Sound) {dirs : List String} {name : String} {bytes : List UInt8}
    (hentry : t.entry? (p.root ++ (dirs ++ [name])) = some (.file bytes))
    (hdirs : ∀ dir ∈ dirs, p.settings.enters dir = true) (hname : p.settings.wants name = true)
    (hopened : (Path.absolute (p.root ++ dirs)).toString.utf8ByteSize < FileTree.maxPathBytes) :
    .absolute (p.root ++ (dirs ++ [name])) ∈ p.files t := by
  have hdir : t.entry? p.root = some .directory :=
    FileTree.entry?_of_append h.toWellFormed (by simp) hentry
  have hroot : t.locate [] p.rootPath = .ok ⟨p.root, some .directory⟩ :=
    FileTree.locate_absolute h hdir (by simp) (Path.size_lt_of_append hopened) []
  have hrow : (p.root ++ (dirs ++ [name]), .file bytes) ∈ t.toList :=
    FileTree.mem_of_entry?_eq (by simp) hentry
  refine FileTree.mem_filesBelow.2 ⟨p.root, dirs ++ [name], .file bytes, hroot, hrow, rfl, by simp,
    by simpa using hdirs, by simpa using hname, rfl, ?_⟩
  rw [Path.parent, ← List.append_assoc, List.dropLast_concat]
  exact hopened

/-- The files below a path are listed in the strict order of their components. Listed is what
stands at the end of a chain of real directories without excluded names, is neither a directory nor
a link to one, and is a manifest or has a chosen extension. -/
theorem filesIn_exact (p : Project) {t : FileTree} (h : t.Sound) (top : Path) :
    ((p.filesIn t top).Pairwise fun first second => first.parts < second.parts) ∧
    (∀ path, path ∈ p.filesIn t top ↔ ∃ here dirs there name entry,
      t.locate [] top = .ok ⟨here, some .directory⟩ ∧
      t.Descends top here dirs there ∧
      (∀ dir ∈ dirs, .text dir ∉ p.settings.excludeDirs) ∧
      path = top.join ⟨.relative, dirs ++ [name]⟩ ∧
      t.entry? (there ++ [name]) = some entry ∧ entry ≠ .directory ∧
      (∀ target, entry = .link target →
        ∀ place, t.locate [] path ≠ .ok ⟨place, some .directory⟩) ∧
      (.text name ∈ p.settings.manifestNames ∨
        ∃ suffix, HasSuffix name suffix ∧ .text suffix ∈ p.settings.extensions)) ∧
    ((∀ here, t.locate [] top ≠ .ok ⟨here, some .directory⟩) → p.filesIn t top = []) := by
  refine ⟨FileTree.filesBelow_pairwise h.toWellFormed, fun path => ?_, fun hnone => ?_⟩
  · rw [filesIn, FileTree.mem_filesBelow]
    constructor
    · rintro ⟨here, names, entry, hlocate, hrow, rfl, hfound⟩
      obtain ⟨dirs, name, rfl⟩ := List.eq_nil_or_concat' names |>.resolve_left hfound.ne_nil
      have hentry := FileTree.entry?_of_mem h.toWellFormed hrow
      rw [← List.append_assoc] at hentry
      have hopened :
          (top.join ⟨.relative, dirs⟩).toString.utf8ByteSize < FileTree.maxPathBytes := by
        have hparent := hfound.opened
        rw [Path.parent, ← List.append_assoc, List.dropLast_concat] at hparent
        exact hparent
      obtain ⟨hdirectory, hlink⟩ := FileTree.leadsToDirectory_iff.1 hfound.not_directory
      refine ⟨here, dirs, here ++ dirs, name, entry, hlocate, ?_, fun dir hdir => ?_, rfl, hentry,
        hdirectory, hlink, ?_⟩
      · exact FileTree.descends_of_entry? h.toWellFormed
          (FileTree.entry?_of_append h.toWellFormed (by simp) hentry) hopened
      · exact (enters_iff _ _).1 (hfound.entered dir (by simpa using hdir))
      · exact (wants_iff _ _).1 (hfound.wanted_last name (by simp))
    · rintro ⟨here, dirs, there, name, entry, hlocate, hdescends, hentered, rfl, hentry, hdirectory,
        hlink, hwanted⟩
      exact FileTree.mem_filesBelow.1 (mem_filesIn hlocate hdescends hentered hentry
        (FileTree.leadsToDirectory_iff.2 ⟨hdirectory, hlink⟩) hwanted)
  · rw [filesIn, FileTree.filesBelow]
    split
    · rename_i here hlocate
      exact absurd hlocate (hnone here)
    · rfl

/-! ## Paths that are too long -/

def loopName : String := letters 98

def deepName : String := letters 255

/-- A project with a file in a directory, and a link from the project to itself. -/
def loopedTree : FileTree :=
  ⟨[(#["proj"], .directory), (#["proj", loopName], .link "."),
    (#["proj", deepName], .directory), (#["proj", deepName, "x.ts"], .file [0x61])]⟩

theorem sound_loopedTree : loopedTree.Sound := by
  have hwell : loopedTree.WellFormed := by decide +kernel
  have hnames : ∀ row ∈ loopedTree.toList, ∀ name ∈ row.1,
      name ∈ ["proj", loopName, deepName, "x.ts"] := by
    decide +kernel
  have htargets : ∀ row ∈ loopedTree.toList, ∀ target ∈ row.2.target?,
      Char.ofNat 0 ∉ target.toList := by
    decide
  refine ⟨hwell, fun row hrow name hname => ?_, fun row hrow target hlink =>
    htargets row hrow target (by rw [hlink]; rfl)⟩
  have hname := hnames row hrow name hname
  simp only [List.mem_cons, List.not_mem_nil, or_false] at hname
  rcases hname with rfl | rfl | rfl | rfl
  · decide
  · exact fits_letters (by decide) (by decide)
  · exact fits_letters (by decide) (by decide)
  · decide

theorem entry?_deep : loopedTree.entry? (["proj", deepName] ++ ["x.ts"]) = some (.file [0x61]) := by
  decide +kernel

theorem filesIn_shallow :
    loopedTree.Sound ∧ .absolute ["proj", deepName, "x.ts"] ∈
      sampleProject.filesIn loopedTree sampleProject.rootPath := by
  have hroot : loopedTree.locate [] sampleProject.rootPath = .ok ⟨["proj"], some .directory⟩ :=
    FileTree.locate_absolute sound_loopedTree (by decide +kernel) (by simp) (by decide +kernel) []
  have hdescends :
      loopedTree.Descends sampleProject.rootPath ["proj"] [deepName] ["proj", deepName] :=
    FileTree.descends_of_entry? sound_loopedTree.toWellFormed (by decide +kernel)
      (by decide +kernel)
  have hentered : ∀ dir ∈ [deepName], .text dir ∉ sampleProject.settings.excludeDirs := by
    decide +kernel
  have hsuffix : HasSuffix "x.ts" ".ts" := Path.hasSuffix_iff.2 (by decide)
  refine ⟨sound_loopedTree,
    ((filesIn_exact sampleProject sound_loopedTree sampleProject.rootPath).2.1 _).2
      ⟨["proj"], [deepName], ["proj", deepName], "x.ts", .file [0x61], hroot, hdescends, hentered,
        rfl, entry?_deep, by simp, by simp, .inr ⟨".ts", hsuffix, by decide⟩⟩⟩

/-- The project through its own link, many times over. -/
def loopedPath : Path :=
  sampleProject.rootPath.join ⟨.relative, List.replicate 39 loopName⟩

theorem leads_loop (n : ℕ) :
    loopedTree.Leads ["proj"] (List.replicate n loopName) n ["proj"] := by
  induction n with
  | zero => exact .done
  | succ n ih =>
    have hname : FileTree.IsStep loopName := .of_isName (isName_letters (by decide))
      ((size_letters 98).le.trans (by decide))
    have hlink : loopedTree.entry? (["proj"] ++ [loopName]) = some (.link ".") := by decide
    refine .follow hname hlink ?_
    -- the target is a single dot, which leads from the project to itself
    have htarget : (Path.parse ".").parts ++ FileTree.endSteps "." = [FileTree.dotStep] := by
      decide
    rw [htarget]
    exact .stay (.inr rfl) ih

theorem locate_loopedPath :
    loopedTree.locate [] loopedPath = .ok ⟨["proj"], some .directory⟩ := by
  have hdir : loopedTree.entry? ["proj"] = some .directory := by decide
  refine FileTree.locate_eq_ok_iff.2 ⟨?_, by decide +kernel, hdir.symm, 39, by decide, ?_⟩
  · decide
  · have hname : FileTree.IsStep "proj" := .of_isName (by decide) (by decide)
    exact .enter hname hdir (leads_loop 39)

/-- A file in a real directory is not listed if only too long a path leads to the directory. -/
theorem filesIn_omits_deep :
    loopedTree.locate [] loopedPath = .ok ⟨["proj"], some .directory⟩ ∧
      loopedTree.entry? (["proj"] ++ [deepName]) = some .directory ∧
      .text deepName ∉ sampleProject.settings.excludeDirs ∧
      loopedTree.entry? (["proj", deepName] ++ ["x.ts"]) = some (.file [0x61]) ∧
      HasSuffix "x.ts" ".ts" ∧ .text ".ts" ∈ sampleProject.settings.extensions ∧
      loopedPath.join ⟨.relative, [deepName, "x.ts"]⟩ ∉
        sampleProject.filesIn loopedTree loopedPath := by
  refine ⟨locate_loopedPath, by decide +kernel, by decide +kernel, entry?_deep,
    Path.hasSuffix_iff.2 (by decide), by decide, fun hlisted => ?_⟩
  obtain ⟨here, names, entry, -, -, hpath, hfound⟩ := FileTree.mem_filesBelow.1 hlisted
  have hparts : loopedPath.parts ++ [deepName, "x.ts"] = loopedPath.parts ++ names :=
    congrArg Path.parts hpath
  have hopened := hfound.opened
  rw [← hparts] at hopened
  have hlong : FileTree.maxPathBytes ≤ (Path.mk loopedPath.root
      (loopedPath.parts ++ [deepName, "x.ts"])).parent.toString.utf8ByteSize := by
    decide +kernel
  exact Nat.not_lt.2 hlong hopened

end Project

end LineLint
