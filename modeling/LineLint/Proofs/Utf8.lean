import LineLint.Text.Utf8

/-!
# Encoded text reads back

The reader takes the bytes of a character one by one and has the character when the last of them is
in. Main statements: `decodeLenient_encode` and `decode?_encode`, both readers give back any text
from its bytes.
-/

namespace LineLint.Text.Utf8

variable {rest : List UInt8} {low high : UInt8} {value due n v : Nat}

/-! ## One byte -/

theorem toNat_ofNat (hn : n < 256) : (UInt8.ofNat n).toNat = n := by
  rw [UInt8.toNat_ofNat', Nat.mod_eq_of_lt hn]

/-- The bytes that go on with a character. -/
theorem ofNat_follows (hn : n < 64) : 0x80 ≤ UInt8.ofNat (n + 128) ∧
    UInt8.ofNat (n + 128) ≤ 0xBF := by
  simp only [UInt8.le_iff_toNat_le, toNat_ofNat (show n + 128 < 256 by omega)]
  exact ⟨Nat.le_add_left _ _, show n + 128 ≤ 191 by omega⟩

theorem lead_one (hv : v ≤ 0x7F) : lead (UInt8.ofNat v) = .ascii (Char.ofNat v) := by
  simp only [lead, toNat_ofNat (show v < 256 by omega)]
  rw [if_pos (by omega)]

theorem lead_two (hlow : 0x7F < v) (hhigh : v ≤ 0x7FF) :
    lead (UInt8.ofNat (v / 64 % 32 + 192)) = .long ⟨v / 64, 1, 0x80, 0xBF⟩ := by
  have hvalue : v / 64 % 32 + 192 - 192 = v / 64 := by omega
  simp only [lead, toNat_ofNat (show v / 64 % 32 + 192 < 256 by omega)]
  rw [if_neg (by omega), if_neg (by omega), if_pos (by omega), hvalue]

theorem lead_three (hlow : 0x7FF < v) (hhigh : v ≤ 0xFFFF) (hvalid : v < 0xD800 ∨ 0xDFFF < v) :
    ∃ low high, lead (UInt8.ofNat (v / 4096 % 16 + 224)) = .long ⟨v / 4096, 2, low, high⟩ ∧
      low ≤ UInt8.ofNat (v / 64 % 64 + 128) ∧ UInt8.ofNat (v / 64 % 64 + 128) ≤ high := by
  have hvalue : v / 4096 % 16 + 224 - 224 = v / 4096 := by omega
  simp only [lead, toNat_ofNat (show v / 4096 % 16 + 224 < 256 by omega), UInt8.le_iff_toNat_le,
    toNat_ofNat (show v / 64 % 64 + 128 < 256 by omega)]
  rw [if_neg (by omega), if_neg (by omega), if_neg (by omega)]
  by_cases hshort : v / 4096 = 0
  · rw [if_pos (by omega), hshort]
    exact ⟨0xA0, 0xBF, rfl, show 160 ≤ _ by omega, show _ ≤ 191 by omega⟩
  rw [if_neg (by omega)]
  by_cases hsurrogate : v / 4096 = 13
  · rw [if_pos (by omega), hsurrogate]
    exact ⟨0x80, 0x9F, rfl, show 128 ≤ _ by omega, show _ ≤ 159 by omega⟩
  rw [if_neg (by omega), if_pos (by omega), hvalue]
  exact ⟨0x80, 0xBF, rfl, show 128 ≤ _ by omega, show _ ≤ 191 by omega⟩

theorem lead_four (hlow : 0xFFFF < v) (hhigh : v < 0x110000) :
    ∃ low high, lead (UInt8.ofNat (v / 262144 % 8 + 240)) = .long ⟨v / 262144, 3, low, high⟩ ∧
      low ≤ UInt8.ofNat (v / 4096 % 64 + 128) ∧ UInt8.ofNat (v / 4096 % 64 + 128) ≤ high := by
  have hvalue : v / 262144 % 8 + 240 - 240 = v / 262144 := by omega
  simp only [lead, toNat_ofNat (show v / 262144 % 8 + 240 < 256 by omega), UInt8.le_iff_toNat_le,
    toNat_ofNat (show v / 4096 % 64 + 128 < 256 by omega)]
  rw [if_neg (by omega), if_neg (by omega), if_neg (by omega), if_neg (by omega),
    if_neg (by omega), if_neg (by omega)]
  by_cases hshort : v / 262144 = 0
  · rw [if_pos (by omega), hshort]
    exact ⟨0x90, 0xBF, rfl, show 144 ≤ _ by omega, show _ ≤ 191 by omega⟩
  rw [if_neg (by omega)]
  by_cases hlast : v / 262144 = 4
  · rw [if_pos (by omega), hlast]
    exact ⟨0x80, 0x8F, rfl, show 128 ≤ _ by omega, show _ ≤ 143 by omega⟩
  rw [if_neg (by omega), if_pos (by omega), hvalue]
  exact ⟨0x80, 0xBF, rfl, show 128 ≤ _ by omega, show _ ≤ 191 by omega⟩

/-! ## One character -/

theorem decodeFrom_long {p : Partial} {b : UInt8} (hlead : lead b = .long p) :
    decodeFrom none (b :: rest) = decodeFrom (some p) rest := by
  simp only [decodeFrom, hlead]

/-- A byte that goes on with a character adds six bits to its value. -/
theorem decodeFrom_follow (hn : n < 64) (hlow : low ≤ UInt8.ofNat (n + 128))
    (hhigh : UInt8.ofNat (n + 128) ≤ high) :
    decodeFrom (some ⟨value, due, low, high⟩) (UInt8.ofNat (n + 128) :: rest) =
      if due ≤ 1 then some (Char.ofNat (value * 64 + n)) :: decodeFrom none rest
      else decodeFrom (some ⟨value * 64 + n, due - 1, 0x80, 0xBF⟩) rest := by
  have hbyte : (UInt8.ofNat (n + 128)).toNat - 0x80 = n := by
    rw [toNat_ofNat (by omega), Nat.add_sub_cancel]
  simp only [decodeFrom, hlow, hhigh, decide_true, Bool.and_self, if_true, hbyte]

theorem decodeFrom_utf8EncodeChar (c : Char) (rest : List UInt8) :
    decodeFrom none (String.utf8EncodeChar c ++ rest) = some c :: decodeFrom none rest := by
  have hvalid : c.toNat < 0xD800 ∨ 0xDFFF < c.toNat ∧ c.toNat < 0x110000 := c.valid
  have hchar : Char.ofNat c.toNat = c := Char.ofNat_toNat c
  have hcode : c.val.toNat = c.toNat := rfl
  simp only [String.utf8EncodeChar, hcode]
  generalize c.toNat = v at hvalid hchar
  split
  · rename_i hone
    simp only [List.cons_append, List.nil_append, decodeFrom, lead_one hone, hchar]
  split
  · rename_i hone htwo
    obtain ⟨hlow, hhigh⟩ := ofNat_follows (n := v % 64) (by omega)
    have hvalue : v / 64 * 64 + v % 64 = v := by omega
    simp only [List.cons_append, List.nil_append]
    rw [decodeFrom_long (lead_two (by omega) htwo), decodeFrom_follow (by omega) hlow hhigh,
      if_pos (by decide), hvalue, hchar]
  split
  · rename_i hone htwo hthree
    obtain ⟨low, high, hlead, hlow, hhigh⟩ := lead_three (v := v) (by omega) hthree (by omega)
    obtain ⟨hlast, hlast'⟩ := ofNat_follows (n := v % 64) (by omega)
    have hvalue : (v / 4096 * 64 + v / 64 % 64) * 64 + v % 64 = v := by omega
    simp only [List.cons_append, List.nil_append]
    rw [decodeFrom_long hlead, decodeFrom_follow (by omega) hlow hhigh, if_neg (by decide),
      decodeFrom_follow (by omega) hlast hlast', if_pos (by decide), hvalue, hchar]
  · rename_i hone htwo hthree
    obtain ⟨low, high, hlead, hlow, hhigh⟩ := lead_four (v := v) (by omega) (by omega)
    obtain ⟨hnext, hnext'⟩ := ofNat_follows (n := v / 64 % 64) (by omega)
    obtain ⟨hlast, hlast'⟩ := ofNat_follows (n := v % 64) (by omega)
    have hvalue : ((v / 262144 * 64 + v / 4096 % 64) * 64 + v / 64 % 64) * 64 + v % 64 = v := by
      omega
    simp only [List.cons_append, List.nil_append]
    rw [decodeFrom_long hlead, decodeFrom_follow (by omega) hlow hhigh, if_neg (by decide),
      decodeFrom_follow (by omega) hnext hnext', if_neg (by decide),
      decodeFrom_follow (by omega) hlast hlast', if_pos (by decide), hvalue, hchar]

/-! ## Text -/

theorem decodeFrom_encode (text : List Char) : decodeFrom none (encode text) = text.map some := by
  induction text with
  | nil => rfl
  | cons c text ih =>
    rw [encode, List.flatMap_cons, decodeFrom_utf8EncodeChar, ← encode.eq_def, ih, List.map_cons]

theorem decodeLenient_encode (text : List Char) : decodeLenient (encode text) = text := by
  rw [decodeLenient, decodeFrom_encode, List.map_map]
  exact List.map_id text

theorem decode?_encode (text : List Char) : decode? (encode text) = some text := by
  rw [decode?, decodeFrom_encode, List.mapM_map]
  exact List.mapM_pure.trans (congrArg some (List.map_id text))

end LineLint.Text.Utf8
