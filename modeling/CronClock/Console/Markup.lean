import CronClock.Console.Emoji
import CronClock.Console.Style
import CronClock.Text.Quoted

/-! # Markup

A tag is a text in square brackets that starts with a small letter, a number sign, a slash or an at
sign. It opens a style or, with a slash, closes one that is open: the last one, or the last one of the
name that it gives. A backslash before a tag makes it plain text, and two of them are one backslash. On
a console without colours a tag leaves no trace, but one that closes what is not open is a fault. -/
set_option autoImplicit false
namespace CronClock.Console

/-! ## Tokens -/

inductive Token where
  | plain (text : List Char)
  | tag (body : List Char)
  deriving DecidableEq, Repr

def startsTag (c : Char) : Bool :=
  ('a' ≤ c && c ≤ 'z') || c == '#' || c == '/' || c == '@'

/-- The body of a tag and the text after it, from what follows an opening bracket up to the next. -/
def tagBody? (stretch : List Char) : Option (List Char × List Char) :=
  if (stretch.head?.map startsTag).getD false && stretch.contains ']' then
    some (stretch.takeWhile (· != ']'), (stretch.dropWhile (· != ']')).drop 1)
  else none

/-- How many backslashes a text ends in. -/
def backslashesAtEnd (text : List Char) : Nat := (text.reverse.takeWhile (· == Text.backslash)).length

/-- The tokens of a tag after a number of backslashes. -/
def tagTokens (backslashes : Nat) (body : List Char) : List Token :=
  [.plain (List.replicate (backslashes / 2) Text.backslash),
    if backslashes % 2 = 0 then .tag body else .plain ('[' :: body ++ [']'])]

/-- The tokens of plain text and of the stretches that follow it after an opening bracket each. -/
def tokensAfter (plain : List Char) : List (List Char) → List Token
  | [] => [.plain plain]
  | stretch :: rest =>
    match tagBody? stretch with
    | none => tokensAfter (plain ++ '[' :: stretch) rest
    | some (body, following) =>
      let backslashes := backslashesAtEnd plain
      .plain (plain.take (plain.length - backslashes)) :: tagTokens backslashes body
        ++ tokensAfter following rest

def tokens (text : List Char) : List Token :=
  match Text.splitAt '[' text with
  | [] => []
  | first :: rest => tokensAfter first rest

/-! ## Rendering -/

inductive MarkupFault where
  /-- A tag that closes what is not open. -/
  | notOpen (body : List Char)
  /-- The parameters of a handler that cannot be read. -/
  | handlerParameters (text : List Char)
  /-- A style with a colour that cannot be read. -/
  | unreadableColor (text : List Char)
  deriving DecidableEq, Repr

/-- A style that is open, by its normal name, with the parameters of its tag. -/
structure OpenTag where
  name : List Char
  parameters : Option (List Char)
  deriving DecidableEq, Repr

namespace OpenTag

def isHandler (tag : OpenTag) : Bool := tag.name.head? == some '@'

def styleText (tag : OpenTag) : List Char :=
  match tag.parameters with
  | none => tag.name
  | some parameters => tag.name ++ ' ' :: parameters

/-- Whether the parameters of a handler are a dotted name, with or without empty brackets. Of the
literals that a handler may be given, these are the ones that this console reads. -/
def isCall (parameters : List Char) : Bool :=
  let rest := (Text.strip parameters).dropWhile fun c => c.isAlphanum || c == '_' || c == '.'
  rest == [] || rest == "()".toList

/-- Checks the parameters of a handler, which are read when its tag is closed. -/
def checkHandler (tag : OpenTag) : Except MarkupFault Unit :=
  let parameters := tag.parameters.getD []
  if tag.isHandler && parameters != [] && !isCall parameters then
    .error (.handlerParameters parameters)
  else .ok ()

/-- Checks the style that a tag stands for. A style that nobody knows does nothing. -/
def checkStyle (tag : OpenTag) : Except MarkupFault Unit :=
  match tag.isHandler, Style.read tag.styleText with
  | false, .error .unreadableShare => .error (.unreadableColor tag.styleText)
  | _, _ => .ok ()

end OpenTag

def normalName (text : List Char) : Except MarkupFault (List Char) :=
  (Style.normalName text).mapError fun _ => .unreadableColor text

/-- The name of a tag and the parameters after its first equals sign. -/
def tagParts (body : List Char) : List Char × Option (List Char) :=
  let name := body.takeWhile (· != '=')
  if body.contains '=' then (name, some ((body.dropWhile (· != '=')).drop 1)) else (name, none)

/-- Takes the innermost open tag of a name out. -/
def takeNamed? (name : List Char) : List OpenTag → Option (OpenTag × List OpenTag)
  | [] => none
  | tag :: rest =>
    if tag.name = name then some (tag, rest)
    else (takeNamed? name rest).map fun (found, left) => (found, tag :: left)

/-- What a closing tag closes, by the name that it gives, and the tags that stay open. -/
def closed? (isOpen : List OpenTag) (name : List Char) :
    Except MarkupFault (Option (OpenTag × List OpenTag)) :=
  if name = [] then .ok (isOpen.head?.map fun tag => (tag, isOpen.tail))
  else (normalName name).map (takeNamed? · isOpen)

def opened (body : List Char) : Except MarkupFault OpenTag :=
  let (name, parameters) := tagParts body
  (normalName name).map (⟨·, parameters⟩)

def isClosing (body : List Char) : Bool := body.head? == some '/'

/-- The tags that are open after a tag, the innermost one first. -/
def applyTag (isOpen : List OpenTag) (body : List Char) : Except MarkupFault (List OpenTag) :=
  if isClosing body then
    match closed? isOpen (Text.strip (tagParts body).1.tail) with
    | .error fault => .error fault
    | .ok none => .error (.notOpen body)
    | .ok (some (tag, left)) => tag.checkHandler.map fun _ => left
  else (opened body).map (· :: isOpen)

/-- A bracket loses the backslash before it. -/
def unescapeBrackets : List Char → List Char
  | [] => []
  | [c] => [c]
  | c :: d :: rest =>
    if c = Text.backslash ∧ d = '[' then d :: unescapeBrackets rest
    else c :: unescapeBrackets (d :: rest)

/-- The characters that never reach a console: bell, backspace, the vertical tabulator, the form feed
and the carriage return. -/
def isControl (c : Char) : Bool := [0x07, 0x08, 0x0B, 0x0C, 0x0D].contains c.toNat

def withoutControls (text : List Char) : List Char := text.filter fun c => !isControl c

def plainText (text : List Char) : List Char := withoutControls (withEmoji (unescapeBrackets text))

def renderTokens (isOpen : List OpenTag) : List Token → Except MarkupFault (List Char)
  | [] => .ok []
  | .plain text :: rest => (renderTokens isOpen rest).map (plainText text ++ ·)
  | .tag body :: rest =>
    match applyTag isOpen body with
    | .ok isOpen => renderTokens isOpen rest
    | .error fault => .error fault

/-- Checks the styles of all tags that open one. -/
def checkStyles : List Token → Except MarkupFault Unit
  | [] => .ok ()
  | .plain _ :: rest => checkStyles rest
  | .tag body :: rest =>
    if isClosing body then checkStyles rest
    else
      match opened body with
      | .error fault => .error fault
      | .ok tag =>
        match tag.checkStyle with
        | .error fault => .error fault
        | .ok _ => checkStyles rest

/-- The text that a marked text shows. -/
def render (text : List Char) : Except MarkupFault (List Char) :=
  match renderTokens [] (tokens text) with
  | .error fault => .error fault
  | .ok shown => (checkStyles (tokens text)).map fun _ => shown

end CronClock.Console
