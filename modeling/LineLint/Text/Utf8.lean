/-! # Text as bytes

UTF-8 in both directions. Decoding reads the bytes as a sequence of characters and of faults: a
fault stands for the longest run of bytes that starts a character without finishing it, or for one
byte that starts none. A lenient reader shows each fault as U+FFFD, a strict reader refuses the
bytes. Encodings longer than needed, surrogates and values past U+10FFFF are faults. -/

namespace LineLint.Text.Utf8

/-- A character of which the lead byte and perhaps more have been read: the value so far, the
bytes still due, and the range in which the next of them has to lie. -/
structure Partial where
  value : Nat
  due : Nat
  low : UInt8 := 0x80
  high : UInt8 := 0xBF

/-- What a first byte begins: a character of its own, a longer one, or nothing. -/
inductive Lead where
  | ascii (c : Char)
  | long (p : Partial)
  | fault

/-- The role of a byte at the start of a character. -/
def lead (b : UInt8) : Lead :=
  let n := b.toNat
  if n < 0x80 then .ascii (Char.ofNat n)
  else if n < 0xC2 then .fault
  else if n < 0xE0 then .long ⟨n - 0xC0, 1, 0x80, 0xBF⟩
  else if n = 0xE0 then .long ⟨0, 2, 0xA0, 0xBF⟩
  else if n = 0xED then .long ⟨0xD, 2, 0x80, 0x9F⟩
  else if n < 0xF0 then .long ⟨n - 0xE0, 2, 0x80, 0xBF⟩
  else if n = 0xF0 then .long ⟨0, 3, 0x90, 0xBF⟩
  else if n = 0xF4 then .long ⟨4, 3, 0x80, 0x8F⟩
  else if n < 0xF4 then .long ⟨n - 0xF0, 3, 0x80, 0xBF⟩
  else .fault

/-- Reads the bytes after what is pending; `none` in the result is a fault. -/
def decodeFrom : Option Partial → List UInt8 → List (Option Char)
  | none, [] => []
  | some _, [] => [none]
  | pending, b :: rest =>
    let fresh := fun (_ : Unit) => match lead b with
      | .ascii c => some c :: decodeFrom none rest
      | .long p => decodeFrom (some p) rest
      | .fault => none :: decodeFrom none rest
    match pending with
    | none => fresh ()
    | some p =>
      if p.low ≤ b && b ≤ p.high then
        let value := p.value * 64 + (b.toNat - 0x80)
        if p.due ≤ 1 then some (Char.ofNat value) :: decodeFrom none rest
        else decodeFrom (some ⟨value, p.due - 1, 0x80, 0xBF⟩) rest
      else none :: fresh ()

/-- The characters of the bytes, with U+FFFD for each fault. -/
def decodeLenient (bytes : List UInt8) : List Char :=
  (decodeFrom none bytes).map (·.getD (Char.ofNat 0xFFFD))

/-- The characters of the bytes if there is no fault. -/
def decode? (bytes : List UInt8) : Option (List Char) :=
  (decodeFrom none bytes).mapM id

/-- The bytes of a text. -/
def encode (text : List Char) : List UInt8 := text.flatMap String.utf8EncodeChar

end LineLint.Text.Utf8
