/-! # Blank characters, stripped text and words

A text is a list of characters here. `strip` takes the blanks off both ends, `words` gives the
longest runs without a blank, and `splitAt` cuts at every occurrence of one character. -/
set_option autoImplicit false
namespace CronClock.Text

/-- The blanks of the Unicode character table, with the information separators U+001C to U+001F. -/
def isBlank (c : Char) : Bool :=
  let code := c.toNat
  (0x09 ≤ code && code ≤ 0x0D) || (0x1C ≤ code && code ≤ 0x20) || code == 0x85 || code == 0xA0
    || code == 0x1680 || (0x2000 ≤ code && code ≤ 0x200A) || code == 0x2028 || code == 0x2029
    || code == 0x202F || code == 0x205F || code == 0x3000

def isSeparator (c : Char) : Bool := 0x1C ≤ c.toNat && c.toNat ≤ 0x1F

def lineEnd : Char := Char.ofNat 0x0A

def spaces (count : Nat) : List Char := List.replicate count ' '

/-- Takes a kind of character off the end. -/
def stripRightOf (isOuter : Char → Bool) (text : List Char) : List Char :=
  (text.reverse.dropWhile isOuter).reverse

def stripOf (isOuter : Char → Bool) (text : List Char) : List Char :=
  stripRightOf isOuter (text.dropWhile isOuter)

def stripRight (text : List Char) : List Char := stripRightOf isBlank text

def strip (text : List Char) : List Char := stripOf isBlank text

def growFirst (c : Char) : List (List Char) → List (List Char)
  | [] => [[c]]
  | word :: rest => (c :: word) :: rest

def startsBlank : List Char → Bool
  | [] => true
  | c :: _ => isBlank c

/-- The longest runs of characters that are not blank, in order. -/
def words : List Char → List (List Char)
  | [] => []
  | c :: rest =>
    if isBlank c then words rest
    else if startsBlank rest then [c] :: words rest
    else growFirst c (words rest)

/-- The stretches between the occurrences of a character; one more than there are occurrences. -/
def splitAt (mark : Char) : List Char → List (List Char)
  | [] => [[]]
  | c :: rest =>
    if c = mark then [] :: splitAt mark rest else growFirst c (splitAt mark rest)

def join (between : String) : List String → String
  | [] => ""
  | [text] => text
  | text :: rest => text ++ between ++ join between rest

@[simp] theorem splitAt_ne_nil (mark : Char) (text : List Char) : splitAt mark text ≠ [] := by
  induction text with
  | nil => simp [splitAt]
  | cons c rest ih =>
    simp only [splitAt]
    split
    · simp
    · cases h : splitAt mark rest with
      | nil => exact absurd h ih
      | cons word more => simp [growFirst]

end CronClock.Text
