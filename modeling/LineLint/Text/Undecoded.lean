/-! # Bytes that are no UTF-8

The name of a file is bytes, and these need not be UTF-8. A byte of a name that belongs to no
character is kept as a character of its own, which cannot be written as UTF-8. -/

namespace LineLint.Text

/-- A character that stands for a byte that is no UTF-8. The bytes from 0x80 on are the characters
from U+E000 on, in their order. -/
def isUndecoded (c : Char) : Bool := 0xE000 ≤ c.toNat && c.toNat < 0xE080

/-- No character of a text stands for a byte that is no UTF-8. -/
def isEncodable (text : String) : Bool := text.toList.all (!isUndecoded ·)

end LineLint.Text
