import LineLint.Screen.Emoji
import LineLint.Screen.Parameters
import LineLint.Screen.StyledText

/-! # Text with tags

Text for the screen may hold tags in brackets: `[bold]` opens a style and `[/bold]` or `[/]` closes
one. Tags are not shown. A tag starts with a lower-case letter or one of `#`, `/`, `@` and ends at
the next closing bracket, with no opening bracket in between; all other brackets are text. A
backslash before a tag makes it text, and two backslashes stand for one. What follows an equals sign
in a tag are its parameters. Between the tags, emoji may be written by name.

`render` takes the tags out. It fails when a tag closes a style that is not open, when the
parameters of an action cannot be read, and when a colour has a part that is no number. -/

namespace LineLint.Markup

open Screen (Style Span StyledText Parameters.isReadable Emoji.replace)

/-- Why a text with tags cannot be shown. -/
inductive MarkupError where
  /-- A style is closed that is not open. -/
  | nothingToClose
  /-- The parameters of an action cannot be read. -/
  | badParameters
  /-- A part of a colour is no number. -/
  | badNumber
  deriving DecidableEq, Repr

/-- A stretch of text, or a tag with the backslashes before it. -/
inductive Piece where
  | text (t : List Char)
  | tag (backslashes : Nat) (content : List Char)
  deriving DecidableEq, Repr

/-- What a tag can start with. -/
def startsTag (c : Char) : Bool := c.isLower || c == '#' || c == '/' || c == '@'

/-- The content of the tag at the start of a text, and what follows the tag. -/
def tagAt? : List Char → Option (List Char × List Char)
  | '[' :: c :: rest =>
    if startsTag c then
      match rest.span fun d => d != '[' && d != ']' with
      | (content, ']' :: after) => some (c :: content, after)
      | _ => none
    else none
  | _ => none

/-- The pieces of a text, read with enough fuel for its length. -/
def piecesFrom : Nat → List Char → List Piece
  | 0, _ => []
  | _ + 1, [] => []
  | fuel + 1, c :: rest =>
    let (backslashes, after) := (c :: rest).span (· == '\\')
    match tagAt? after with
    | some (content, after) => .tag backslashes.length content :: piecesFrom fuel after
    | none =>
      if backslashes.isEmpty then .text [c] :: piecesFrom fuel rest
      else .text backslashes :: piecesFrom fuel after

/-- The pieces of a text. -/
def pieces (text : List Char) : List Piece := piecesFrom (text.length + 1) text

/-! ## Shown text -/

/-- Characters that a terminal would act on and that are left out. -/
def isControl (c : Char) : Bool :=
  c.toNat == 7 || c.toNat == 8 || c.toNat == 0xB || c.toNat == 0xC || c.toNat == 0xD

/-- Text between tags: a backslash before an opening bracket is dropped. -/
def unescape : List Char → List Char
  | [] => []
  | '\\' :: '[' :: rest => '[' :: unescape rest
  | c :: rest => c :: unescape rest

/-- How text between tags is shown. -/
def shownText (text : List Char) : List Char :=
  (Emoji.replace (unescape text)).filter (!isControl ·)

/-- A tag that has opened a style. -/
structure OpenTag where
  /-- The style in its standard form. -/
  name : List Char
  parameters : Option (List Char)
  /-- The number of characters shown before the tag. -/
  start : Nat
  deriving DecidableEq, Repr

namespace OpenTag

/-- Whether a tag names an action. -/
def isAction (tag : OpenTag) : Bool := tag.name.head? == some '@'

/-- The style that a tag gives to what is inside it. -/
def style (tag : OpenTag) : List Char :=
  match tag.parameters with
  | none => tag.name
  | some parameters => tag.name ++ ' ' :: parameters

end OpenTag

/-- Text that has been taken apart so far. -/
structure Canvas where
  /-- What is shown, in reverse. -/
  shown : List Char := []
  length : Nat := 0
  /-- The text since the last tag, in reverse. -/
  plain : List Char := []
  /-- The open tags, innermost first. -/
  opened : List OpenTag := []
  spans : List Span := []
  deriving DecidableEq, Repr

namespace Canvas

/-- Shows a text. -/
def put (c : Canvas) (text : List Char) : Canvas :=
  { c with shown := text.reverse ++ c.shown, length := c.length + text.length }

/-- Shows the text since the last tag. -/
def flush (c : Canvas) : Canvas := { c.put (shownText c.plain.reverse) with plain := [] }

/-- Gives everything shown since a tag its style. -/
def paint (c : Canvas) (tag : OpenTag) : Canvas :=
  { c with spans := ⟨tag.start, c.length, tag.style⟩ :: c.spans }

/-- The standard form of a style. -/
def normalize (style : List Char) : Except MarkupError (List Char) :=
  (Style.normalize style).mapError fun _ => .badNumber

/-- The end of an open tag. What an action is about gets no style but is a part of its own. -/
def finish (c : Canvas) (tag : OpenTag) : Except MarkupError Canvas :=
  let c := { c with opened := c.opened.erase tag }
  if !tag.isAction then return c.paint tag
  else if tag.parameters.all fun p => p.isEmpty || Parameters.isReadable p then
    return c.paint { tag with name := [], parameters := none }
  else throw .badParameters

/-- A tag that closes the innermost style of a name, or the innermost of all. -/
def leave (c : Canvas) (name : List Char) : Except MarkupError Canvas := do
  let tag? ← if name.isEmpty then pure c.opened.head? else do
    let name ← normalize name
    pure (c.opened.find? (·.name == name))
  match tag? with
  | some tag => c.finish tag
  | none => throw .nothingToClose

/-- A tag that opens a style. -/
def enter (c : Canvas) (name : List Char) (parameters : Option (List Char)) :
    Except MarkupError Canvas := do
  return { c with opened := ⟨← normalize name, parameters, c.length⟩ :: c.opened }

/-- A tag by its content. -/
def apply (c : Canvas) (content : List Char) : Except MarkupError Canvas :=
  let (name, rest) := content.span (· != '=')
  match name with
  | '/' :: name => c.leave (Text.trim name)
  | name => c.enter name (if rest.isEmpty then none else some (rest.drop 1))

/-- The next piece of a text. -/
def step (c : Canvas) : Piece → Except MarkupError Canvas
  | .text t => return { c with plain := t.reverse ++ c.plain }
  | .tag backslashes content =>
    let c := c.flush.put (List.replicate (backslashes / 2) '\\')
    if backslashes % 2 = 1 then return c.put (shownText ('[' :: content ++ [']']))
    else c.apply content

/-- The end of a text, where all open tags end. -/
def complete (c : Canvas) : Canvas :=
  let c := c.flush
  { c.opened.foldl paint c with opened := [] }

end Canvas

/-! ## Rendering -/

/-- Takes the tags out of a text. -/
def render (markup : List Char) : Except MarkupError StyledText := do
  let c ← (pieces markup).foldlM Canvas.step {}
  let c := c.complete
  return ⟨c.shown.reverse, c.spans⟩

end LineLint.Markup
