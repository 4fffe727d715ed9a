import LineLint.Command.Request
import LineLint.Proofs.Names
import LineLint.Proofs.Results

/-!
# The paths of a request

A request holds only paths that were read off the words of its command line, and no word with a null
character becomes a path. Main statement: `Command.Request.given_of_parse`.
-/

namespace LineLint

/-- A path as a command line gives it. -/
structure Path.IsGiven (p : Path) : Prop where
  plain : p.IsPlain
  no_null : ∀ name ∈ p.parts, Char.ofNat 0 ∉ name.toList

/-! ## Words -/

namespace Arguments

variable {specs : List OptionSpec} {mixed : Bool} {word key value : String} {rest : List String}
  {a : Arguments}

theorem parse_nil : parse specs mixed [] a = .ok a := by
  rw [parse]
  rfl

theorem ne_dashes_of_not_isOption (h : isOption word = false) : (word == "--") = false := by
  rw [beq_eq_false_iff_ne]
  rintro rfl
  exact absurd h (by decide)

/-- A word that is no option is positional. -/
theorem parse_positional (h : isOption word = false) : parse specs true (word :: rest) a =
    parse specs true rest { a with positional := a.positional ++ [word] } := by
  rw [parse, ne_dashes_of_not_isOption h, h]
  rfl

/-- The first word that is no option is the command, and all words after it are its own. -/
theorem parse_command (h : isOption word = false) : parse specs false (word :: rest) a =
    .ok { a with positional := a.positional ++ word :: rest } := by
  rw [parse, ne_dashes_of_not_isOption h, h]
  rfl

/-- An option that needs a value takes the next word, whatever it is. -/
theorem parse_option (h : isOption word = true) (hdashes : word ≠ "--")
    (hread : readOption specs word = .ok { open? := some key }) :
    parse specs mixed (word :: value :: rest) a =
      parse specs mixed rest (a.setOption key value) := by
  rw [parse, beq_eq_false_iff_ne.2 hdashes, h, hread]
  rfl

end Arguments

namespace Command

theorem Request.path_eq {word : String} (hnull : Char.ofNat 0 ∉ word.toList) :
    path word = .ok (.parse word) := by
  rw [path, if_neg (by simpa using hnull)]

/-- The paths of a choice. -/
def ProjectChoice.paths (choice : ProjectChoice) : List Path :=
  choice.config.toList ++ choice.directory.toList

namespace Request

/-- All paths of a request. -/
def paths : Request → List Path
  | .lint targets choice _ output => targets ++ (choice.paths ++ output.toList)
  | .checkFile file choice _ => file :: choice.paths
  | .triage choice _ reports => choice.paths ++ reports.toList
  | .rules choice => choice.paths

/-! ## Reading gives -/

section

variable {ε α β : Type} {P : α → Prop} {Q : β → Prop}

/-- Whatever a reader gives is of a kind. -/
def Gives (P : α → Prop) (x : Except ε α) : Prop := ∀ a, x = .ok a → P a

theorem gives_pure {a : α} (h : P a) : Gives P (pure a : Except ε α) := by
  intro b hb
  cases hb
  exact h

theorem gives_error (e : ε) : Gives P (.error e) := nofun

theorem Gives.bind {x : Except ε α} {f : α → Except ε β} (hx : Gives P x)
    (hf : ∀ a, P a → Gives Q (f a)) : Gives Q (x >>= f) := by
  intro b hb
  obtain ⟨a, hxa, hfb⟩ := bind_eq_ok_iff.1 hb
  exact hf a (hx a hxa) b hfb

theorem gives_any (x : Except ε α) : Gives (fun _ => True) x := fun _ _ => trivial

theorem gives_mapM {f : α → Except ε β} (hf : ∀ a, Gives Q (f a)) (items : List α) :
    Gives (fun results => ∀ result ∈ results, Q result) (items.mapM f) := by
  induction items with
  | nil => exact gives_pure (by simp)
  | cons item rest ih =>
    rw [List.mapM_cons]
    refine (hf item).bind fun result hresult => ih.bind fun results hresults => gives_pure ?_
    exact List.forall_mem_cons.2 ⟨hresult, hresults⟩

end

/-! ## Paths -/

theorem gives_path (word : String) : Gives Path.IsGiven (path word) := by
  intro p hp
  rw [path] at hp
  split at hp
  · cases hp
  · rename_i hnull
    cases hp
    refine ⟨Path.isPlain_parse word, fun name hname hmem => hnull ?_⟩
    simpa using Path.mem_of_mem_parts hname hmem

theorem gives_option (word : Option String) :
    Gives (fun found : Option Path => ∀ p ∈ found.toList, p.IsGiven) (word.mapM path) := by
  cases word with
  | none => exact gives_pure (by simp)
  | some word =>
    refine (gives_path word).bind fun p hp => gives_pure ?_
    simpa using hp

theorem gives_choice (a : Arguments) :
    Gives (fun choice => ∀ p ∈ choice.paths, p.IsGiven) (choice a) := by
  refine (gives_option _).bind fun config hconfig =>
    (gives_option _).bind fun directory hdirectory => gives_pure ?_
  exact List.forall_mem_append.2 ⟨hconfig, hdirectory⟩

/-! ## Requests -/

/-- All paths of a request could have been given. -/
def IsGiven (request : Request) : Prop := ∀ p ∈ request.paths, p.IsGiven

theorem gives_readLint (words : List String) : Gives IsGiven (readLint words) := by
  refine (gives_any _).bind fun a _ => (gives_mapM gives_path _).bind fun targets htargets =>
    (gives_choice a).bind fun choice hchoice => (gives_option _).bind fun output houtput =>
      gives_pure ?_
  exact List.forall_mem_append.2 ⟨htargets, List.forall_mem_append.2 ⟨hchoice, houtput⟩⟩

theorem gives_readCheckFile (words : List String) : Gives IsGiven (readCheckFile words) := by
  refine (gives_any _).bind fun a _ => (gives_choice a).bind fun choice hchoice => ?_
  split
  · exact gives_error _
  · rename_i file _
    refine (gives_path file).bind fun p hp => gives_pure ?_
    exact List.forall_mem_cons.2 ⟨hp, hchoice⟩
  · exact (gives_any _).bind fun _ _ => gives_error _

theorem gives_readTriage (words : List String) : Gives IsGiven (readTriage words) := by
  refine (gives_any _).bind fun a _ => (gives_choice a).bind fun choice hchoice =>
    (gives_any _).bind fun limit _ => (gives_option _).bind fun reports hreports =>
      (gives_any _).bind fun _ _ => gives_pure ?_
  exact List.forall_mem_append.2 ⟨hchoice, hreports⟩

theorem gives_readRules (words : List String) : Gives IsGiven (readRules words) :=
  (gives_any _).bind fun a _ => (gives_choice a).bind fun _ hchoice =>
    (gives_any _).bind fun _ _ => gives_pure hchoice

/-- Every path of a request that was read off words could have been given. -/
theorem given_of_parse {words : List String} {request : Request}
    (hwords : parse words = .ok request) : request.IsGiven := by
  have hgives : Gives IsGiven (parse words) := by
    refine (gives_any _).bind fun a _ => ?_
    split
    · exact gives_error _
    · exact gives_readLint _
    · exact gives_readCheckFile _
    · exact gives_readTriage _
    · exact gives_readRules _
    · exact gives_error _
  exact hgives request hwords

end Request

end Command

end LineLint
