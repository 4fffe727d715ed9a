import LineLint.Text.Blank
import LineLint.Text.CharacterName
import LineLint.Text.Lines
import LineLint.Text.Word

/-! # Parameters of actions

A tag that starts with an at sign may have parameters after an equals sign: the name of an action,
perhaps with values in parentheses, or values without a name. `isReadable` decides whether the
parameters can be read.

A value is a number, a text or bytes in quotes, one of the words `True`, `False` and `None`, three
dots, or a collection of values: with commas, in parentheses or not, or between braces. What can
change cannot be a key or stand in a set. A number may have one sign and may be followed by an
imaginary one to make a sum. -/

namespace LineLint.Screen.Parameters

/-- What matters of a value to those around it. -/
inductive Kind where
  /-- A number that is not imaginary. -/
  | real
  /-- A number with a sign that is not imaginary. -/
  | signed
  | imaginary
  /-- Another value that can be a key. -/
  | key
  /-- A collection that can change. -/
  | mutable
  deriving DecidableEq, Repr

/-- What a reader makes of a text: a value and the rest of the text. -/
abbrev Reading := Option (Kind × List Char)

/-! ## Blanks -/

/-- Leaves out blanks and comments. Line breaks count as blanks inside of brackets, and a backslash
hides one anywhere. -/
def skip (inside : Bool) : List Char → List Char
  | '\\' :: '\n' :: rest => skip inside rest
  | '#' :: rest => match _h : rest.dropWhile (· != '\n') with
    | [] => []
    | c :: after => if inside then skip inside after else c :: after
  | c :: rest =>
    if c == ' ' || c == '\t' || c == '\x0c' || (inside && c == '\n') then skip inside rest
    else c :: rest
  | [] => []
  termination_by text => text.length
  decreasing_by
    · simp only [List.length_cons]
      omega
    · have kept := (List.dropWhile_suffix (· != '\n') (l := rest)).length_le
      rw [_h] at kept
      simp only [List.length_cons] at kept ⊢
      omega
    · simp only [List.length_cons]
      omega

/-! ## Numbers -/

/-- Digits of a class with single underscores between them, and the rest. -/
def takeDigits (p : Char → Bool) : List Char → List Char × List Char
  | c :: '_' :: d :: rest =>
    if p c then
      if p d then
        let (digits, rest) := takeDigits p (d :: rest)
        (c :: digits, rest)
      else ([c], '_' :: d :: rest)
    else ([], c :: '_' :: d :: rest)
  | c :: rest =>
    if p c then
      let (digits, rest) := takeDigits p rest
      (c :: digits, rest)
    else ([], c :: rest)
  | [] => ([], [])

/-- The mark of a base and the digits of that base. -/
def base? (mark : Char) : Option (Char → Bool) :=
  match mark.toLower with
  | 'x' => some fun c => c.isDigit || ('a' ≤ c.toLower && c.toLower ≤ 'f')
  | 'o' => some fun c => '0' ≤ c && c ≤ '7'
  | 'b' => some fun c => c == '0' || c == '1'
  | _ => none

/-- An exponent, if there is one, and the rest. -/
def takeExponent (text : List Char) : Bool × List Char :=
  let digits := fun (rest : List Char) =>
    match takeDigits Char.isDigit rest with
    | ([], _) => (false, text)
    | (_, after) => (true, after)
  match text with
  | e :: '+' :: rest | e :: '-' :: rest => if e.toLower == 'e' then digits rest else (false, text)
  | e :: rest => if e.toLower == 'e' then digits rest else (false, text)
  | [] => (false, text)

/-- The greatest number of digits of a whole number. -/
def maxDigits : Nat := 4300

/-- A number in decimal. A whole number has no zeros in front, unless it is zero. -/
def decimal (text : List Char) : Reading := do
  let (whole, rest) := takeDigits Char.isDigit text
  let (fraction, pointed, rest) := match rest with
    | '.' :: rest =>
      let (digits, rest) := takeDigits Char.isDigit rest
      (digits, true, rest)
    | rest => ([], false, rest)
  guard !(whole.isEmpty && fraction.isEmpty)
  let (raised, rest) := takeExponent rest
  match rest with
  | 'j' :: rest | 'J' :: rest => return (.imaginary, rest)
  | rest =>
    let isZero := whole.all (· == '0')
    guard (pointed || raised || ((whole.head? != some '0' || isZero) && whole.length ≤ maxDigits))
    return (.real, rest)

/-- A number. -/
def number : List Char → Reading
  | '0' :: mark :: rest => match base? mark with
    | some p =>
      let digits := match rest with
        | '_' :: digits => digits
        | digits => digits
      match takeDigits p digits with
      | ([], _) => none
      | (_, rest) => some (.real, rest)
    | none => decimal ('0' :: mark :: rest)
  | text => decimal text

/-! ## Texts -/

/-- Whether some digits of an escape are hexadecimal and stand for a code that exists. -/
def isCode (width : Nat) (text : List Char) : Bool :=
  let digits := (text.take width).map fun c =>
    if c.isDigit then some (c.toNat - 0x30)
    else if 'a' ≤ c.toLower && c.toLower ≤ 'f' then some (c.toLower.toNat - 0x57)
    else none
  digits.length == width && digits.all Option.isSome &&
    digits.foldl (fun n digit => n * 16 + digit.getD 0) 0 ≤ 0x10FFFF

/-- A name of a character in braces at the start of a text. -/
def startsWithName : List Char → Bool
  | '\x7b' :: rest => match rest.span (· != '\x7d') with
    | (name, _ :: _) => Text.isCharacterName name
    | _ => false
  | _ => false

/-- Whether the escapes of a text, or of bytes, stand for something. -/
def hasGoodEscapes (isBytes : Bool) : List Char → Bool
  | '\\' :: c :: rest =>
    let good := match c with
      | 'x' => isCode 2 rest
      | 'u' => isBytes || isCode 4 rest
      | 'U' => isBytes || isCode 8 rest
      | 'N' => isBytes || startsWithName rest
      | _ => true
    good && hasGoodEscapes isBytes rest
  | _ :: rest => hasGoodEscapes isBytes rest
  | [] => true

/-- The text up to the end of quotes and what follows them. Only triple quotes go past a line. -/
def takeQuoted (quote : Char) (triple : Bool) : List Char → Option (List Char × List Char)
  | [] => none
  | '\\' :: c :: rest => do
    let (text, after) ← takeQuoted quote triple rest
    return ('\\' :: c :: text, after)
  | c :: rest =>
    if c == quote && (!triple || [quote, quote].isPrefixOf rest) then
      some ([], if triple then rest.drop 2 else rest)
    else if c == '\n' && !triple then none
    else do
      let (text, after) ← takeQuoted quote triple rest
      return (c :: text, after)

/-- The letters before quotes say whether they hold bytes, and whether a backslash is an ordinary
character. -/
def quoteKind? (letters : List Char) : Option (Bool × Bool) :=
  match String.ofList (letters.map Char.toLower) with
  | "" | "u" => some (false, false)
  | "r" => some (false, true)
  | "b" => some (true, false)
  | "br" | "rb" => some (true, true)
  | _ => none

/-- Whether a character is a quotation mark. -/
def isQuote (c : Char) : Bool := c == '\'' || c == '"'

/-- The letters before quotes, if there are quotes. -/
def quoteLetters? (text : List Char) : Option (List Char) :=
  let letters := (text.take 2).takeWhile Char.isAlpha
  if (text.drop letters.length).head?.any isQuote then some letters else none

/-- One text or one run of bytes in quotes, and whether it is bytes. -/
def quoted (text : List Char) : Option (Bool × List Char) := do
  let letters ← quoteLetters? text
  let (isBytes, isRaw) ← quoteKind? letters
  match text.drop letters.length with
  | [] => none
  | quote :: rest =>
    let triple := [quote, quote].isPrefixOf rest
    let (content, after) ← takeQuoted quote triple (if triple then rest.drop 2 else rest)
    guard (isRaw || hasGoodEscapes isBytes content)
    guard !(isBytes && content.any (0x80 ≤ ·.toNat))
    return (isBytes, after)

/-- Whether quotes that follow other quotes with nothing but blanks between are all bytes or all
texts; the rest after them. -/
def moreQuoted (inside isBytes : Bool) : Nat → List Char → Option (List Char)
  | 0, _ => none
  | fuel + 1, text => do
    let next := skip inside text
    if (quoteLetters? next).isNone then return text
    let (nextIsBytes, after) ← quoted next
    guard (nextIsBytes == isBytes)
    moreQuoted inside isBytes fuel after

/-! ## Values -/

/-- The words that are values. -/
def words : List (List Char) := ["True".toList, "False".toList, "None".toList, "...".toList]

/-- The rest of a text after a word at its start. -/
def after? (word text : List Char) : Option (List Char) :=
  if word.isPrefixOf text then some (text.drop word.length) else none

/-- The codes of what counts as one of the letters `e`, `s` and `t`, beside the letter itself and
the mathematical letters: letters above and below the line, full-width letters and the like. -/
def letterForms : Char → List Nat
  | 'e' => [0x1D49, 0x2091, 0x212F, 0x2147, 0xFF45]
  | 's' => [0x17F, 0x2E2, 0x209B, 0xFF53]
  | 't' => [0x1D57, 0x209C, 0xFF54]
  | _ => []

/-- Whether a code is that of a small mathematical letter. There are thirteen alphabets of capital
and small letters in a row; the small script `e` is not in its place there. -/
def isMathematical (letter : Char) (code : Nat) : Bool :=
  0x1D400 ≤ code && code < 0x1D6A4 && (code - 0x1D400) % 52 == letter.toNat - 0x61 + 26 &&
    code != 0x1D4BA

/-- Whether a character counts as one of the letters `e`, `s` and `t` in a name. -/
def isForm (letter c : Char) : Bool :=
  c == letter || (letterForms letter).contains c.toNat || isMathematical letter c.toNat

/-- The empty set, which is written as a call. -/
def emptySet (inside : Bool) : List Char → Reading
  | a :: b :: c :: rest => do
    guard (isForm 's' a && isForm 'e' b && isForm 't' c)
    return (.mutable, ← after? [')'] (skip true (← after? ['('] (skip inside rest))))
  | _ => none

/-- The kind of a tuple. -/
def tuple (kinds : List Kind) : Kind := if kinds.contains .mutable then .mutable else .key

/-- The greatest number of brackets around a value. -/
def maxDepth : Nat := 200

mutual

/-- A value without a sign, in `depth` brackets. The first number bounds the length of what is
read. -/
def atom : Nat → Nat → List Char → Reading
  | 0, _, _ => none
  | fuel + 1, depth, text =>
    let inside := depth != 0
    match text with
    | '(' :: rest => do
      guard (depth < maxDepth)
      let (kinds, comma, rest) ← items fuel (depth + 1) (skip true rest)
      let rest ← after? [')'] rest
      match kinds, comma with
      | [kind], false => return (kind, rest)
      | kinds, _ => return (tuple kinds, rest)
    | '\x7b' :: rest => do
      guard (depth < maxDepth)
      return (.mutable, ← braces fuel (depth + 1) (skip true rest))
    | _ =>
      match quoteLetters? text with
      | some _ => do
        let (isBytes, rest) ← quoted text
        return (.key, ← moreQuoted inside isBytes (rest.length + 1) rest)
      | none =>
        match words.findSome? (after? · text) with
        | some rest => some (.key, rest)
        | none => (number text).orElse fun _ => emptySet inside text
  termination_by structural fuel => fuel

/-- A number without a sign. -/
def unsigned : Nat → Nat → List Char → Reading
  | 0, _, _ => none
  | fuel + 1, depth, text => do
    let (kind, rest) ← atom fuel depth text
    guard (kind == .real || kind == .imaginary)
    return (kind, rest)
  termination_by structural fuel => fuel

/-- A value, a number with a sign, or the sum or difference of a number and an imaginary one. -/
def value : Nat → Nat → List Char → Reading
  | 0, _, _ => none
  | fuel + 1, depth, text => do
    let inside := depth != 0
    let (kind, rest) ← match text with
      | '+' :: rest | '-' :: rest => do
        let (kind, rest) ← unsigned fuel depth (skip inside rest)
        pure (if kind == .real then Kind.signed else Kind.key, rest)
      | text => atom fuel depth text
    match skip inside rest with
    | '+' :: rest | '-' :: rest => do
      guard (kind == .real || kind == .signed)
      let (second, rest) ← unsigned fuel depth (skip inside rest)
      guard (second == .imaginary)
      return (.key, skip inside rest)
    | rest => return (kind, rest)
  termination_by structural fuel => fuel

/-- Values with commas between them, perhaps none and perhaps with a comma after the last, and
whether there is a comma. -/
def items : Nat → Nat → List Char → Option (List Kind × Bool × List Char)
  | 0, _, _ => none
  | fuel + 1, depth, text =>
    match text with
    | [] => some ([], false, [])
    | c :: _ =>
      if c == ')' || c == '\x7d' || c == '\n' then some ([], false, text)
      else do
        let (kind, rest) ← value fuel depth text
        match rest with
        | ',' :: rest => do
          let (kinds, _, rest) ← items fuel depth (skip (depth != 0) rest)
          return (kind :: kinds, true, rest)
        | rest => return ([kind], false, rest)
  termination_by structural fuel => fuel

/-- What stands between braces: entries with colons, or values that can be keys. Returns the rest
after the closing brace. -/
def braces : Nat → Nat → List Char → Option (List Char)
  | 0, _, _ => none
  | fuel + 1, depth, text =>
    match text with
    | '\x7d' :: rest => some rest
    | text => do
      let (kind, rest) ← value fuel depth text
      guard (kind != .mutable)
      match rest with
      | ':' :: rest => do
        let (_, rest) ← value fuel depth (skip true rest)
        match rest with
        | ',' :: rest => entries fuel depth (skip true rest)
        | rest => after? ['\x7d'] rest
      | ',' :: rest => do
        let (kinds, _, rest) ← items fuel depth (skip true rest)
        guard !(kinds.contains .mutable)
        after? ['\x7d'] rest
      | rest => after? ['\x7d'] rest
  termination_by structural fuel => fuel

/-- More entries with colons. -/
def entries : Nat → Nat → List Char → Option (List Char)
  | 0, _, _ => none
  | fuel + 1, depth, text =>
    match text with
    | '\x7d' :: rest => some rest
    | text => do
      let (kind, rest) ← value fuel depth text
      guard (kind != .mutable)
      let (_, rest) ← value fuel depth (skip true (← after? [':'] rest))
      match rest with
      | ',' :: rest => entries fuel depth (skip true rest)
      | rest => after? ['\x7d'] rest
  termination_by structural fuel => fuel

end

/-! ## Whole parameters -/

/-- Leaves out the lines before the first one with a value. -/
def skipLines : Nat → List Char → List Char
  | 0, text => text
  | fuel + 1, '\\' :: '\n' :: rest => skipLines fuel rest
  | fuel + 1, text => match skip false text with
    | '\n' :: rest => skipLines fuel rest
    | _ => text

/-- Whether a text is values and nothing else. -/
def isValues (text : List Char) : Bool :=
  let lines := Text.unifyBreaks text
  let text := skipLines lines.length lines
  !lines.contains (Char.ofNat 0) &&
    match items (4 * text.length + 8) 0 text with
    | some (kinds, _, rest) => !kinds.isEmpty && (skip true rest).isEmpty
    | none => false

/-- The part of the parameters that holds values: what stands in parentheses after the name of an
action, or everything if there is no such name. -/
def values (text : List Char) : List Char :=
  match text.dropWhile fun c => Text.isWord c || c == '.' with
  | [] => "()".toList
  | c :: rest =>
    if c == '(' && rest.getLast? == some ')' && !rest.contains '\n' then c :: rest else text

/-- Whether parameters can be read. -/
def isReadable (parameters : List Char) : Bool := isValues (values (Text.trim parameters))

end LineLint.Screen.Parameters
