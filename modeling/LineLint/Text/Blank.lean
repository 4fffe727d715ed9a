/-! # Blank characters

The characters that separate words: the ASCII control blanks and separators, the next-line and
no-break characters, and the Unicode spaces and line separators. `trim` drops them at both ends,
`words` cuts a text at them. Around a numeral only white space in the narrower sense of Unicode
counts, which leaves out the information separators. -/

namespace LineLint.Text

/-- White space in the sense of Unicode. -/
def isSpace (c : Char) : Bool :=
  let n := c.toNat
  (9 ≤ n && n ≤ 13) || n == 0x20 || n == 0x85 || n == 0xA0 || n == 0x1680 ||
    (0x2000 ≤ n && n ≤ 0x200A) || n == 0x2028 || n == 0x2029 || n == 0x202F || n == 0x205F ||
    n == 0x3000

/-- White space in the sense of Unicode, together with the four ASCII information separators. -/
def isBlank (c : Char) : Bool := isSpace c || (0x1C ≤ c.toNat && c.toNat ≤ 0x1F)

/-- The text without the characters of a class at its two ends. -/
def strip (p : Char → Bool) (text : List Char) : List Char :=
  ((text.dropWhile p).reverse.dropWhile p).reverse

/-- The text without the blanks at its two ends. -/
def trim (text : List Char) : List Char := strip isBlank text

/-- The text without the white space at its two ends. -/
def trimSpace (text : List Char) : List Char := strip isSpace text

/-- The maximal runs of characters that are not blank. -/
def words : List Char → List (List Char)
  | [] => []
  | c :: rest =>
    if isBlank c then words rest
    else match rest with
      | [] => [[c]]
      | d :: _ =>
        if isBlank d then [c] :: words rest
        else match words rest with
          | [] => [[c]]
          | w :: ws => (c :: w) :: ws

end LineLint.Text
