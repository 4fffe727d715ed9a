import LineLint.Json.Printer
import LineLint.Json.Reader
import Mathlib.Data.Int.Notation
import Mathlib.Data.List.DropRight
import Mathlib.Data.Option.Basic

/-!
# Written JSON reads back

The reader undoes the printer piece by piece: digits, escapes, strings, and then values with their
items and fields, each with any text behind it that does not carry it on. Main statements:
`Json.parse?_write`, a document is read back from its text in either layout, and
`Json.isAscii_write`, the text holds no character beyond ASCII.
-/

namespace LineLint

/-! ## Digits -/

namespace Text

theorem toNat_digitChar {n : ℕ} (h : n < 10) : (digitChar n).toNat - 0x30 = n := by
  have hall : ∀ m < 10, (digitChar m).toNat - 0x30 = m := by decide
  exact hall n h

theorem ofDigits_digits (n : ℕ) : ofDigits 10 ((digits n).map (·.toNat - 0x30)) = n := by
  rw [digits]
  split
  · rename_i hn
    simp [ofDigits, toNat_digitChar hn]
  · have hfront := ofDigits_digits (n / 10)
    have hlast := toNat_digitChar (Nat.mod_lt n (show 0 < 10 by omega))
    rw [ofDigits] at hfront
    rw [ofDigits, List.map_append, List.foldl_append, hfront]
    simp only [List.map_cons, List.map_nil, List.foldl_cons, List.foldl_nil, hlast]
    omega
  termination_by n

/-- Only zero starts with a zero. -/
theorem eq_zero_of_head?_digits {n : ℕ} (h : (digits n).head? = some (digitChar 0)) : n = 0 := by
  rw [digits] at h
  split at h
  · rename_i hn
    have hdigit := congrArg (fun c => c.toNat - 0x30) (Option.some.inj h)
    rwa [toNat_digitChar hn, toNat_digitChar (by omega)] at hdigit
  · rename_i hn
    rw [List.head?_append, Option.or_of_isSome
      (List.isSome_head?.2 (by simpa using digits_ne_nil (n / 10)))] at h
    have hfront := eq_zero_of_head?_digits h
    omega
  termination_by n

end Text

namespace Json

variable {layout : Layout} {rest text : List Char} {fuel : ℕ}

/-- The text behind a number does not carry it on. -/
def EndsNumber (rest : List Char) : Prop :=
  ∀ c, rest.head? = some c → c.isDigit = false ∧ c ≠ '.' ∧ c ≠ 'e' ∧ c ≠ 'E'

theorem endsNumber_cons {c : Char} (h : c.isDigit = false ∧ c ≠ '.' ∧ c ≠ 'e' ∧ c ≠ 'E') :
    EndsNumber (c :: rest) := by
  intro d hd
  cases hd
  exact h

theorem readDigits_digits (n : ℕ) (h : ∀ c, rest.head? = some c → c.isDigit = false) :
    readDigits (Text.digits n ++ rest) =
      some ((Text.digits n).map (·.toNat - 0x30), rest) := by
  have hdigits := Text.isDigit_of_mem_digits n
  have hrest : rest.takeWhile Char.isDigit = [] ∧ rest.dropWhile Char.isDigit = rest := by
    cases rest with
    | nil => exact ⟨rfl, rfl⟩
    | cons c rest => simp [h c rfl]
  rw [readDigits, List.takeWhile_append_of_pos hdigits, List.dropWhile_append_of_pos hdigits,
    hrest.1, hrest.2, List.append_nil]
  simp [Text.digits_ne_nil n]

/-! ## Numbers -/

/-- What is read of the digits of a number has no zero in front of others. -/
theorem guard_digits (n : ℕ) :
    (((Text.digits n).map (·.toNat - 0x30)).head? != some 0 ||
      ((Text.digits n).map (·.toNat - 0x30)).length == 1) = true := by
  by_cases hn : n = 0
  · subst hn
    rw [Text.digits]
    rfl
  · have hhead : ((Text.digits n).map (·.toNat - 0x30)).head? ≠ some 0 := by
      intro hzero
      rw [List.head?_map, Option.map_eq_some_iff] at hzero
      obtain ⟨c, hc, hvalue⟩ := hzero
      have hdigit : c.isDigit = true :=
        Text.isDigit_of_mem_digits n c (List.mem_of_mem_head? (by simpa using hc))
      refine hn (Text.eq_zero_of_head?_digits (hc.trans (congrArg some ?_)))
      have hrange : 0x30 ≤ c.toNat ∧ c.toNat ≤ 0x39 := by
        simpa [Char.isDigit, UInt32.le_iff_toNat_le] using hdigit
      rw [← Char.ofNat_toNat c, show c.toNat = 0x30 by omega]
      rfl
    rw [bne_iff_ne.2 hhead, Bool.true_or]

theorem digits_append_ne_cons {c : Char} (n : ℕ) (hc : c.isDigit = false) :
    Text.digits n ++ rest ≠ c :: text := by
  intro heq
  cases hdigits : Text.digits n with
  | nil => exact Text.digits_ne_nil n hdigits
  | cons d more =>
    rw [hdigits, List.cons_append] at heq
    have hd : d.isDigit = true := Text.isDigit_of_mem_digits n d (by simp [hdigits])
    rw [(List.cons.inj heq).1, hc] at hd
    cases hd

/-- A whole number at the start of a text is its mantissa unless a point follows. -/
theorem readNumber_append (n : ℤ) (hdigit : ∀ c, rest.head? = some c → c.isDigit = false)
    (hpoint : rest.head? ≠ some '.') :
    readNumber (Text.decimal n ++ rest) = (readExponent rest).map fun (exponent?, rest) =>
      match exponent? with
      | none => (int n, rest)
      | some exponent => (decimal n exponent, rest) := by
  have hfraction : readFraction rest = some (none, rest) := by
    cases rest with
    | nil => rfl
    | cons c rest =>
      rw [readFraction]
      rintro more heq
      exact hpoint (congrArg some (List.cons.inj heq).1)
  cases n with
  | ofNat n =>
    rw [Text.decimal, readNumber, readDigits_digits n hdigit]
    · simp only [guard_digits, hfraction, Text.ofDigits_digits, bind, Option.bind, guard, pure,
        if_true]
      cases readExponent rest with
      | none => rfl
      | some found =>
        obtain ⟨_ | exponent, rest⟩ := found <;>
          simp [Text.ofDigits_digits]
    · exact fun text => digits_append_ne_cons n rfl
  | negSucc n =>
    rw [Text.decimal, List.cons_append, readNumber, readDigits_digits _ hdigit]
    simp only [guard_digits, hfraction, Text.ofDigits_digits, bind, Option.bind, guard, pure,
      if_true]
    cases readExponent rest with
    | none => rfl
    | some found =>
      obtain ⟨_ | exponent, rest⟩ := found <;>
        simp [Text.ofDigits_digits, Int.negSucc_eq]

theorem readNumber_int (n : ℤ) (h : EndsNumber rest) :
    readNumber (Text.decimal n ++ rest) = some (int n, rest) := by
  have hpoint : rest.head? ≠ some '.' := fun hc => (h '.' hc).2.1 rfl
  have hexponent : readExponent rest = some (none, rest) := by
    cases rest with
    | nil => rfl
    | cons c rest =>
      obtain ⟨-, -, hlower, hupper⟩ := h c rfl
      simp [readExponent, hlower, hupper]
  rw [readNumber_append n (fun c hc => (h c hc).1) hpoint, hexponent]
  rfl

theorem readExponent_decimal (n : ℤ) (h : EndsNumber rest) :
    readExponent ('e' :: (Text.decimal n ++ rest)) = some (some n, rest) := by
  have hdigit : ∀ c, rest.head? = some c → c.isDigit = false := fun c hc => (h c hc).1
  cases n with
  | ofNat n =>
    have hsign : Text.splitSign (Text.digits n ++ rest) = (1, Text.digits n ++ rest) := by
      rw [Text.splitSign]
      · exact fun text => digits_append_ne_cons n rfl
      · exact fun text => digits_append_ne_cons n rfl
    simp [readExponent, Text.decimal, hsign, readDigits_digits n hdigit, Text.ofDigits_digits]
  | negSucc n =>
    simp [readExponent, Text.decimal, Text.splitSign, readDigits_digits _ hdigit,
      Text.ofDigits_digits, Int.negSucc_eq]

theorem readNumber_decimal (mantissa exponent : ℤ) (h : EndsNumber rest) :
    readNumber (Text.decimal mantissa ++ 'e' :: (Text.decimal exponent ++ rest)) =
      some (decimal mantissa exponent, rest) := by
  have hdigit : ∀ c, ('e' :: (Text.decimal exponent ++ rest)).head? = some c →
      c.isDigit = false := by
    intro c hc
    cases hc
    rfl
  rw [readNumber_append mantissa hdigit (by simp), readExponent_decimal exponent h]
  rfl

/-! ## Strings -/

theorem hexValue?_hexDigit {n : ℕ} (h : n < 16) : hexValue? (hexDigit n) = some n := by
  have hall : ∀ m < 16, hexValue? (hexDigit m) = some m := by decide
  exact hall n h

theorem readUnit_digits {n : ℕ} (h : n < 0x10000) :
    readUnit (hexDigit (n / 4096 % 16) :: hexDigit (n / 256 % 16) :: hexDigit (n / 16 % 16) ::
      hexDigit (n % 16) :: rest) = some (n, rest) := by
  have hvalue : n / 4096 % 16 * 4096 + n / 256 % 16 * 256 + n / 16 % 16 * 16 + n % 16 = n := by
    omega
  simp only [readUnit, hexValue?_hexDigit (Nat.mod_lt _ (show 0 < 16 by omega)), bind, Option.bind,
    pure, hvalue]

/-- The string that starts with a character that has been read. -/
def readThen (fuel : ℕ) (c : Char) (rest : List Char) : Option (List Char × List Char) := do
  let (s, rest) ← readString fuel rest
  return (c :: s, rest)

theorem readString_plain {c : Char} (hrange : 0x20 ≤ c.toNat) (hquote : c ≠ '"')
    (hbackslash : c ≠ '\\') : readString (fuel + 1) (c :: rest) = readThen fuel c rest := by
  rw [readString]
  · simp [hrange, hbackslash, guard, readThen]
  · exact hquote
  · exact fun _ heq _ => hbackslash heq
  · exact fun _ _ heq _ => hbackslash heq

theorem readString_short {mark c : Char} (hshort : shortEscape? mark = some c) :
    readString (fuel + 1) ('\\' :: mark :: rest) = readThen fuel c rest := by
  rw [readString, hshort]
  · rfl
  · rintro rfl
    cases hshort

theorem readString_unit {n : ℕ} (h : n < 0x10000) :
    readString (fuel + 1) (escapeUnit n ++ rest) =
      (joinUnits n rest).bind fun (c, rest) => readThen fuel c rest := by
  simp only [escapeUnit, List.cons_append, List.nil_append, readString, readUnit_digits h]
  rfl

/-- A unit that is no half of a pair stands for its character. -/
theorem joinUnits_single {n : ℕ} (h : n < 0xD800 ∨ 0xDFFF < n) :
    joinUnits n rest = some (Char.ofNat n, rest) := by
  unfold joinUnits
  rw [if_neg (by simp; omega), if_neg (by simp; omega)]

/-- Two units that form a pair are read as one character. -/
theorem joinUnits_pair {high low : ℕ} (hhigh : 0xD800 ≤ high ∧ high < 0xDC00)
    (hlow : 0xDC00 ≤ low ∧ low < 0xE000) :
    joinUnits high (escapeUnit low ++ rest) =
      some (Char.ofNat (0x10000 + (high - 0xD800) * 0x400 + (low - 0xDC00)), rest) := by
  unfold joinUnits
  rw [if_pos (by simpa using hhigh)]
  simp only [escapeUnit, List.cons_append, List.nil_append,
    readUnit_digits (show low < 0x10000 by omega), bind, Option.bind]
  rw [if_pos (by simpa using hlow)]
  rfl

/-- One character is read back from its escape, whatever follows. -/
theorem readString_escapeChar (c : Char) :
    readString (fuel + 1) (escapeChar c ++ rest) = readThen fuel c rest := by
  unfold escapeChar
  split
  · exact readString_short rfl
  · exact readString_short rfl
  · exact readString_short rfl
  · exact readString_short rfl
  · exact readString_short rfl
  · exact readString_short rfl
  · exact readString_short rfl
  · rename_i hquote hbackslash _ _ _ _ _
    have hvalid : c.toNat < 0xD800 ∨ 0xDFFF < c.toNat ∧ c.toNat < 0x110000 := c.valid
    simp only
    split
    · rename_i hplain
      simp only [Bool.and_eq_true, decide_eq_true_eq] at hplain
      exact readString_plain hplain.1 hquote hbackslash
    split
    · rename_i hshort
      rw [readString_unit hshort, joinUnits_single (by omega), Char.ofNat_toNat]
      rfl
    · rename_i hlong
      have hvalue : 0x10000 + (0xD800 + (c.toNat - 0x10000) / 0x400 - 0xD800) * 0x400 +
          (0xDC00 + (c.toNat - 0x10000) % 0x400 - 0xDC00) = c.toNat := by omega
      rw [List.append_assoc, readString_unit (by omega), joinUnits_pair (by omega) (by omega),
        hvalue, Char.ofNat_toNat]
      rfl

theorem readString_escape (s : List Char) (h : s.length < fuel) :
    readString fuel (s.flatMap escapeChar ++ '"' :: rest) = some (s, rest) := by
  induction s generalizing fuel with
  | nil =>
    obtain ⟨fuel, rfl⟩ := Nat.exists_eq_add_one.2 h
    rfl
  | cons c s ih =>
    obtain ⟨fuel, rfl⟩ := Nat.exists_eq_add_one.2 (Nat.zero_lt_of_lt h)
    rw [List.length_cons] at h
    rw [List.flatMap_cons, List.append_assoc, readString_escapeChar, readThen, ih (by omega)]
    rfl

/-- No escape is shorter than its character. -/
theorem length_le_length_escape (s : List Char) : s.length ≤ (s.flatMap escapeChar).length := by
  induction s with
  | nil => exact Nat.le_refl 0
  | cons c s ih =>
    have hpos : 0 < (escapeChar c).length := by
      rw [List.length_pos_iff]
      unfold escapeChar escapeUnit
      split <;> try simp only [ne_eq, reduceCtorEq, not_false_eq_true]
      split
      · simp
      · split <;> simp
    rw [List.flatMap_cons, List.length_append, List.length_cons]
    omega

/-! ## Blanks -/

theorem skipBlank_cons {c : Char} (h : c ∉ [' ', '\n', '\r', '\t']) :
    skipBlank (c :: text) = c :: text := by
  simp only [List.mem_cons, List.not_mem_nil, or_false, not_or] at h
  simp [skipBlank, h]

theorem skipBlank_lineBreak (layout : Layout) (text : List Char) :
    skipBlank (layout.lineBreak ++ text) = skipBlank text := by
  cases layout with
  | flat => rfl
  | spread depth =>
    refine List.dropWhile_append_of_pos fun c hc => ?_
    rcases List.mem_cons.1 hc with rfl | hc
    · rfl
    · rw [List.eq_of_mem_replicate hc]
      rfl

/-- Two items stand apart by a comma and blanks. -/
theorem separator_eq (layout : Layout) : ∃ gap, layout.separator = ',' :: gap ∧
    1 ≤ gap.length ∧ ∀ text, skipBlank (gap ++ text) = skipBlank text := by
  cases layout with
  | flat => exact ⟨[' '], rfl, Nat.le_refl 1, fun _ => rfl⟩
  | spread depth => exact ⟨_, rfl, by simp [Layout.lineBreak], skipBlank_lineBreak _⟩

theorem endsNumber_lineBreak {c : Char} (h : EndsNumber (c :: rest)) :
    EndsNumber (layout.lineBreak ++ c :: rest) := by
  cases layout with
  | flat => exact h
  | spread depth => exact endsNumber_cons (by decide)

theorem readValue_congr {other : List Char} (h : skipBlank text = skipBlank other) :
    readValue fuel text = readValue fuel other := by
  cases fuel with
  | zero => rfl
  | succ fuel => rw [readValue, readValue, h]

theorem readValue_space : readValue fuel (' ' :: text) = readValue fuel text :=
  readValue_congr rfl

theorem readItems_congr {other : List Char} (h : skipBlank text = skipBlank other) :
    readItems fuel text = readItems fuel other := by
  cases fuel with
  | zero => rfl
  | succ fuel => rw [readItems, readItems, readValue_congr h]

theorem readFields_congr {other : List Char} (h : skipBlank text = skipBlank other) :
    readFields fuel text = readFields fuel other := by
  cases fuel with
  | zero => rfl
  | succ fuel => rw [readFields, readFields, h]

/-! ## Values -/

theorem decimal_start (n : ℤ) : ∃ c more, Text.decimal n = c :: more ∧
    (c = '-' ∨ c.isDigit = true) := by
  cases n with
  | ofNat n =>
    obtain ⟨c, more, hdigits⟩ := List.exists_cons_of_ne_nil (Text.digits_ne_nil n)
    exact ⟨c, more, hdigits, .inr (Text.isDigit_of_mem_digits n c (by simp [hdigits]))⟩
  | negSucc n => exact ⟨'-', _, rfl, .inl rfl⟩

/-- What a number starts with is no blank and closes no list. -/
theorem not_mem_of_numeral {c : Char} (h : c = '-' ∨ c.isDigit = true) :
    c ∉ [' ', '\n', '\r', '\t', ']'] := by
  intro hmem
  simp only [List.mem_cons, List.not_mem_nil, or_false] at hmem
  rcases hmem with rfl | rfl | rfl | rfl | rfl <;> exact absurd h (by decide)

/-- What a value starts with is no blank and closes no list. -/
theorem write_start (layout : Layout) (v : Json) : ∃ c more, write layout v = c :: more ∧
    c ∉ [' ', '\n', '\r', '\t', ']'] := by
  unfold write
  split
  case h_4 n =>
    obtain ⟨c, more, hdecimal, hstart⟩ := decimal_start n
    exact ⟨c, more, hdecimal, not_mem_of_numeral hstart⟩
  case h_5 mantissa exponent =>
    obtain ⟨c, more, hdecimal, hstart⟩ := decimal_start mantissa
    exact ⟨c, more ++ 'e' :: Text.decimal exponent, by rw [hdecimal, List.cons_append],
      not_mem_of_numeral hstart⟩
  all_goals exact ⟨_, _, rfl, by decide⟩

/-- A text that starts with a number is read as one. -/
theorem readValue_decimal (n : ℤ) :
    readValue (fuel + 1) (Text.decimal n ++ rest) = readNumber (Text.decimal n ++ rest) := by
  obtain ⟨c, more, hdecimal, hstart⟩ := decimal_start n
  have hblank : skipBlank (c :: (more ++ rest)) = c :: (more ++ rest) :=
    skipBlank_cons fun hmem => not_mem_of_numeral hstart (List.mem_append_left [']'] hmem)
  rw [hdecimal, List.cons_append, readValue, hblank]
  split
  case h_7 => rfl
  all_goals
    rename_i heq
    obtain ⟨rfl, -⟩ := List.cons.inj heq
    exact absurd hstart (by decide)

theorem length_lt_quote (s : String) : s.toList.length + 1 < (quote s).length := by
  have hle := length_le_length_escape s.toList
  simp only [quote, List.length_cons, List.length_append, List.length_nil]
  omega

theorem readValue_quote (s : String) (h : s.toList.length < fuel) :
    readValue (fuel + 1) (quote s ++ rest) = some (string s, rest) := by
  have hblank : skipBlank (quote s ++ rest) =
      '"' :: (s.toList.flatMap escapeChar ++ '"' :: rest) := by
    simp [quote, skipBlank]
  rw [readValue, hblank]
  simp only [readString_escape s.toList h, bind, Option.bind, pure, String.ofList_toList]

theorem readValue_array {items : List Json} (h : readItems fuel text = some (items, rest))
    (hopen : ∀ more, skipBlank text ≠ ']' :: more) :
    readValue (fuel + 1) ('[' :: text) = some (array items, rest) := by
  have hblank : skipBlank ('[' :: text) = '[' :: text := rfl
  have hsame : readItems fuel (skipBlank text) = readItems fuel text := by
    refine readItems_congr ?_
    exact List.dropWhile_idempotent _ _
  rw [readValue, hblank]
  simp only [hsame, h]
  rfl

theorem readValue_object {fields : List (String × Json)}
    (h : readFields fuel text = some (fields, rest))
    (hopen : ∀ more, skipBlank text ≠ '}' :: more) :
    readValue (fuel + 1) ('{' :: text) = some (object fields, rest) := by
  have hblank : skipBlank ('{' :: text) = '{' :: text := rfl
  have hsame : readFields fuel (skipBlank text) = readFields fuel text := by
    refine readFields_congr ?_
    exact List.dropWhile_idempotent _ _
  rw [readValue, hblank]
  simp only [hsame, h]
  rfl

theorem readItems_last {item : Json} {more : List Char}
    (hitem : readValue fuel text = some (item, rest)) (hrest : skipBlank rest = ']' :: more) :
    readItems (fuel + 1) text = some ([item], more) := by
  simp only [readItems, hitem, bind, Option.bind, hrest, pure]

theorem readItems_more {item : Json} {items : List Json} {more left : List Char}
    (hitem : readValue fuel text = some (item, rest)) (hrest : skipBlank rest = ',' :: more)
    (hitems : readItems fuel more = some (items, left)) :
    readItems (fuel + 1) text = some (item :: items, left) := by
  simp only [readItems, hitem, bind, Option.bind, hrest, hitems, pure]

section

variable {name : String} {value : Json} {more : List Char} (hname : name.toList.length < fuel)
  (hvalue : readValue fuel text = some (value, rest))

include hname hvalue

theorem readFields_last (hrest : skipBlank rest = '}' :: more) :
    readFields (fuel + 1) (quote name ++ ':' :: text) = some ([(name, value)], more) := by
  have hquote : skipBlank (quote name ++ ':' :: text) =
      '"' :: (name.toList.flatMap escapeChar ++ '"' :: ':' :: text) := by
    simp [quote, skipBlank]
  simp only [readFields, hquote, readString_escape name.toList hname, bind, Option.bind,
    skipBlank_cons (show ':' ∉ [' ', '\n', '\r', '\t'] by decide), hvalue, hrest, pure,
    String.ofList_toList]

theorem readFields_more {fields : List (String × Json)} {left : List Char}
    (hrest : skipBlank rest = ',' :: more) (hfields : readFields fuel more = some (fields, left)) :
    readFields (fuel + 1) (quote name ++ ':' :: text) = some ((name, value) :: fields, left) := by
  have hquote : skipBlank (quote name ++ ':' :: text) =
      '"' :: (name.toList.flatMap escapeChar ++ '"' :: ':' :: text) := by
    simp [quote, skipBlank]
  simp only [readFields, hquote, readString_escape name.toList hname, bind, Option.bind,
    skipBlank_cons (show ':' ∉ [' ', '\n', '\r', '\t'] by decide), hvalue, hrest, hfields, pure,
    String.ofList_toList]

end

/-! ## Documents -/

/-- Items after the first start with a comma, so they do not carry a number on. -/
theorem endsNumber_items (layout outer : Layout) (items : List Json) (rest : List Char) :
    EndsNumber (writeItems layout items ++ (outer.lineBreak ++ ']' :: rest)) := by
  cases items with
  | nil => exact endsNumber_lineBreak (endsNumber_cons (by decide))
  | cons item items =>
    obtain ⟨gap, hsep, -⟩ := separator_eq layout
    rw [writeItems, hsep]
    exact endsNumber_cons (by decide)

theorem endsNumber_fields (layout outer : Layout) (fields : List (String × Json))
    (rest : List Char) :
    EndsNumber (writeFields layout fields ++ (outer.lineBreak ++ '}' :: rest)) := by
  cases fields with
  | nil => exact endsNumber_lineBreak (endsNumber_cons (by decide))
  | cons field fields =>
    obtain ⟨gap, hsep, -⟩ := separator_eq layout
    rw [writeFields, hsep]
    exact endsNumber_cons (by decide)

mutual

/-- A value is read back, whatever stands behind it that does not carry it on. -/
theorem readValue_write (layout : Layout) (v : Json) (fuel : ℕ) (rest : List Char)
    (hends : EndsNumber rest) (hfuel : 2 * (write layout v).length ≤ fuel) :
    readValue fuel (write layout v ++ rest) = some (v, rest) := by
  obtain ⟨c, more, hstart, -⟩ := write_start layout v
  have hpos : 0 < (write layout v).length := by simp [hstart]
  obtain ⟨fuel, rfl⟩ := Nat.exists_eq_add_one.2 (show 0 < fuel by omega)
  match v with
  | null => rfl
  | bool true => rfl
  | bool false => rfl
  | int n =>
    rw [write, readValue_decimal, readNumber_int n hends]
  | decimal mantissa exponent =>
    rw [write, List.append_assoc, readValue_decimal, List.cons_append,
      readNumber_decimal mantissa exponent hends]
  | string s =>
    have hlength := length_lt_quote s
    rw [write] at hfuel ⊢
    exact readValue_quote s (by omega)
  | array [] => rfl
  | array (item :: items) =>
    simp only [write, List.length_cons, List.length_append] at hfuel
    have hitems := readItems_write layout.inner layout item items fuel rest (by omega)
    obtain ⟨c, more, hstart, hfirst⟩ := write_start layout.inner item
    simp only [write, List.cons_append, List.append_assoc, List.nil_append]
    refine readValue_array ?_ fun more heq => ?_
    · rw [readItems_congr (skipBlank_lineBreak _ _)]
      exact hitems
    · rw [skipBlank_lineBreak, hstart, List.cons_append,
        skipBlank_cons fun hmem => hfirst (List.mem_append_left [']'] hmem)] at heq
      obtain ⟨rfl, -⟩ := List.cons.inj heq
      simp at hfirst
  | object [] => rfl
  | object ((name, value) :: fields) =>
    simp only [write, List.length_cons, List.length_append] at hfuel
    have hfields := readFields_write layout.inner layout name value fields fuel rest (by omega)
    simp only [write, List.cons_append, List.append_assoc, List.nil_append]
    refine readValue_object ?_ fun more heq => ?_
    · rw [readFields_congr (skipBlank_lineBreak _ _)]
      exact hfields
    · rw [skipBlank_lineBreak, writeField, quote, List.cons_append, List.cons_append,
        skipBlank_cons (by decide)] at heq
      cases heq
  termination_by fuel

theorem readItems_write (layout outer : Layout) (item : Json) (items : List Json) (fuel : ℕ)
    (rest : List Char)
    (hfuel : 2 * ((write layout item).length + (writeItems layout items).length) < fuel) :
    readItems fuel (write layout item ++ (writeItems layout items ++
      (outer.lineBreak ++ ']' :: rest))) = some (item :: items, rest) := by
  obtain ⟨fuel, rfl⟩ := Nat.exists_eq_add_one.2 (Nat.zero_lt_of_lt hfuel)
  have hitem := readValue_write layout item fuel _ (endsNumber_items layout outer items rest)
    (by omega)
  match items with
  | [] => exact readItems_last hitem (skipBlank_lineBreak outer _)
  | second :: others =>
    obtain ⟨gap, hsep, hgap, hskip⟩ := separator_eq layout
    simp only [writeItems, hsep, List.length_append, List.length_cons] at hfuel
    have hothers := readItems_write layout outer second others fuel rest (by omega)
    simp only [writeItems, hsep, List.cons_append, List.append_assoc] at hitem ⊢
    refine readItems_more hitem (skipBlank_cons (by decide)) ?_
    rw [readItems_congr (hskip _)]
    exact hothers
  termination_by fuel

theorem readFields_write (layout outer : Layout) (name : String) (value : Json)
    (fields : List (String × Json)) (fuel : ℕ) (rest : List Char)
    (hfuel : 2 * ((writeField layout (name, value)).length +
      (writeFields layout fields).length) < fuel) :
    readFields fuel (writeField layout (name, value) ++ (writeFields layout fields ++
      (outer.lineBreak ++ '}' :: rest))) = some ((name, value) :: fields, rest) := by
  obtain ⟨fuel, rfl⟩ := Nat.exists_eq_add_one.2 (Nat.zero_lt_of_lt hfuel)
  have hname := length_lt_quote name
  simp only [writeField, List.length_append, List.length_cons] at hfuel
  have hvalue := readValue_write layout value fuel _
    (endsNumber_fields layout outer fields rest) (by omega)
  rw [← readValue_space] at hvalue
  simp only [writeField, List.cons_append, List.append_assoc]
  match fields with
  | [] => exact readFields_last (by omega) hvalue (skipBlank_lineBreak outer _)
  | (second, other) :: others =>
    obtain ⟨gap, hsep, hgap, hskip⟩ := separator_eq layout
    simp only [writeFields, hsep, List.length_append, List.length_cons] at hfuel
    have hothers := readFields_write layout outer second other others fuel rest (by omega)
    simp only [writeFields, hsep, List.cons_append, List.append_assoc] at hvalue ⊢
    refine readFields_more (by omega) hvalue (skipBlank_cons (by decide)) ?_
    rw [readFields_congr (hskip _)]
    exact hothers
  termination_by fuel

end

/-- The text of a document, with blanks behind it, reads back as the document. -/
theorem parse?_write (layout : Layout) (v : Json) {blanks : List Char}
    (hblanks : ∀ c ∈ blanks, c ∈ [' ', '\n', '\r', '\t']) :
    parse? (String.ofList (write layout v ++ blanks)) = some v := by
  have hskip : skipBlank blanks = [] := by
    refine List.dropWhile_eq_nil_iff.2 fun c hc => ?_
    simpa [or_assoc] using hblanks c hc
  have hends : EndsNumber blanks := by
    intro c hc
    have hblank := hblanks c (List.mem_of_mem_head? hc)
    simp only [List.mem_cons, List.not_mem_nil, or_false] at hblank
    rcases hblank with rfl | rfl | rfl | rfl <;> decide
  have hread := readValue_write layout v (2 * ((write layout v ++ blanks).length + 1)) blanks hends
    (by rw [List.length_append]; omega)
  simp only [parse?, String.toList_ofList, hread, bind, Option.bind, hskip]
  rfl

/-! ## Characters -/

/-- All characters of a text are ASCII. -/
def IsAscii (text : List Char) : Prop := ∀ c ∈ text, c.toNat < 0x80

theorem isAscii_append {other : List Char} :
    IsAscii (text ++ other) ↔ IsAscii text ∧ IsAscii other := by
  simp [IsAscii, or_imp, forall_and]

theorem isAscii_cons {c : Char} : IsAscii (c :: text) ↔ c.toNat < 0x80 ∧ IsAscii text := by
  simp [IsAscii]

theorem isAscii_nil : IsAscii [] := by
  intro c hc
  cases hc

theorem isAscii_escapeUnit (n : ℕ) : IsAscii (escapeUnit n) := by
  have hdigit : ∀ m < 16, (hexDigit m).toNat < 0x80 := by decide
  have hmod : ∀ m, (hexDigit (m % 16)).toNat < 0x80 := fun m =>
    hdigit _ (Nat.mod_lt m (by omega))
  simp [escapeUnit, isAscii_cons, isAscii_nil, hmod]

theorem isAscii_escapeChar (c : Char) : IsAscii (escapeChar c) := by
  unfold escapeChar
  split
  case h_8 =>
    simp only
    split
    · rename_i hplain
      simp only [Bool.and_eq_true, decide_eq_true_eq] at hplain
      exact isAscii_cons.2 ⟨by omega, isAscii_nil⟩
    split
    · exact isAscii_escapeUnit _
    · exact isAscii_append.2 ⟨isAscii_escapeUnit _, isAscii_escapeUnit _⟩
  all_goals simp [isAscii_cons, isAscii_nil]

theorem isAscii_quote (s : String) : IsAscii (quote s) := by
  have hescape : IsAscii (s.toList.flatMap escapeChar) := by
    intro c hc
    obtain ⟨d, -, hc⟩ := List.mem_flatMap.1 hc
    exact isAscii_escapeChar d c hc
  simp [quote, isAscii_cons, isAscii_append, hescape, isAscii_nil]

theorem isAscii_decimal (n : ℤ) : IsAscii (Text.decimal n) := by
  have hdigits : ∀ n, IsAscii (Text.digits n) := by
    intro n c hc
    have hdigit : 0x30 ≤ c.toNat ∧ c.toNat ≤ 0x39 := by
      simpa [Char.isDigit, UInt32.le_iff_toNat_le] using Text.isDigit_of_mem_digits n c hc
    omega
  cases n with
  | ofNat n => exact hdigits n
  | negSucc n => exact isAscii_cons.2 ⟨by decide, hdigits _⟩

theorem isAscii_lineBreak (layout : Layout) : IsAscii layout.lineBreak := by
  cases layout with
  | flat => exact isAscii_nil
  | spread depth =>
    refine isAscii_cons.2 ⟨by decide, fun c hc => ?_⟩
    rw [List.eq_of_mem_replicate hc]
    decide

theorem isAscii_separator (layout : Layout) : IsAscii layout.separator := by
  cases layout with
  | flat => simp [Layout.separator, isAscii_cons, isAscii_nil]
  | spread depth => exact isAscii_cons.2 ⟨by decide, isAscii_lineBreak _⟩

mutual

theorem isAscii_write (layout : Layout) : ∀ v, IsAscii (write layout v)
  | null | bool true | bool false | array [] | object [] => by
    simp [write, isAscii_cons, isAscii_nil]
  | int n => isAscii_decimal n
  | decimal mantissa exponent => by
    simp [write, isAscii_append, isAscii_cons, isAscii_decimal]
  | string s => isAscii_quote s
  | array (item :: items) => by
    simp [write, isAscii_append, isAscii_cons, isAscii_nil, isAscii_lineBreak,
      isAscii_write layout.inner item, isAscii_writeItems layout.inner items]
  | object (field :: fields) => by
    simp [write, isAscii_append, isAscii_cons, isAscii_nil, isAscii_lineBreak,
      isAscii_writeField layout.inner field, isAscii_writeFields layout.inner fields]

theorem isAscii_writeItems (layout : Layout) : ∀ items, IsAscii (writeItems layout items)
  | [] => isAscii_nil
  | item :: items => by
    simp [writeItems, isAscii_append, isAscii_separator, isAscii_write layout item,
      isAscii_writeItems layout items]

theorem isAscii_writeField (layout : Layout) : ∀ field, IsAscii (writeField layout field)
  | (name, value) => by
    simp [writeField, isAscii_append, isAscii_cons, isAscii_quote, isAscii_write layout value]

theorem isAscii_writeFields (layout : Layout) : ∀ fields, IsAscii (writeFields layout fields)
  | [] => isAscii_nil
  | field :: fields => by
    simp [writeFields, isAscii_append, isAscii_separator, isAscii_writeField layout field,
      isAscii_writeFields layout fields]

end

end Json

end LineLint
