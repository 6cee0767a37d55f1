import CronClock.Console.EmojiTable
import CronClock.Text.Blank
import CronClock.Text.Lowercase

/-! # Emoji codes

A name between colons is a code for an emoji. A variant after a dash chooses how the emoji is drawn.
A name that no emoji has stays as it is written, with both colons. -/
set_option autoImplicit false
namespace CronClock.Console

/-- The text after a word in a list of words and texts. -/
def textAfter? (word : List Char) : List (List Char) → Option (List Char)
  | name :: text :: rest => if name = word then some text else textAfter? word rest
  | _ => none

def emoji? (name : List Char) : Option (List Char) :=
  textAfter? (Text.lowercase name) (Text.words emojiNames.toList)

/-- The variants of a code, each with the character that asks for it. -/
def emojiVariants : List (List Char × Char) :=
  [("-emoji".toList, Char.ofNat 0xFE0F), ("-text".toList, Char.ofNat 0xFE0E)]

/-- A text without what it ends in. -/
def withoutEnd? (ending text : List Char) : Option (List Char) :=
  if ending.isSuffixOf text then some (text.take (text.length - ending.length)) else none

/-- The emoji of a code, which is given without its colons. -/
def emojiOfCode? (code : List Char) : Option (List Char) :=
  let variant := emojiVariants.findSome? fun (ending, mark) =>
    (withoutEnd? ending code).map fun name => (name, [mark])
  let (name, marks) := variant.getD (code, [])
  (emoji? name).map (· ++ marks)

/-- Puts the stretches between colons together again, with emoji for the codes among them. -/
def joinCodes : List (List Char) → List Char
  | [] => []
  | [last] => last
  | [first, last] => first ++ ':' :: last
  | first :: code :: next :: rest =>
    if code.any Text.isBlank then first ++ ':' :: joinCodes (code :: next :: rest)
    else first ++ (emojiOfCode? code).getD (':' :: code ++ [':']) ++ joinCodes (next :: rest)

def withEmoji (text : List Char) : List Char := joinCodes (Text.splitAt ':' text)

end CronClock.Console
