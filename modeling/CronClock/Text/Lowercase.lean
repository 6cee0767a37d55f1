import CronClock.Text.CaseTable

/-! # Small letters

Every character turns into its small letter by the Unicode table, the dotted capital I into two
characters, and a capital sigma into the form that its place in the word asks for. -/
set_option autoImplicit false
namespace CronClock.Text

def inRanges (ranges : Array (Nat × Nat)) (code : Nat) : Bool :=
  ranges.any fun range => range.1 ≤ code && code ≤ range.2

def CapitalRun.holds (run : CapitalRun) (code : Nat) : Bool :=
  run.first ≤ code && code ≤ run.last && (code - run.first) % run.stride == 0

/-- The small letter of a character outside ASCII, or the character itself. -/
def smallLetter (c : Char) : Char :=
  match capitalRuns.find? (·.holds c.toNat) with
  | some run => Char.ofNat ((c.toNat : Int) + run.shift).toNat
  | none => c

def smallLetters (c : Char) : List Char :=
  if c.toNat < 0x80 then [c.toLower]
  else if c = Char.ofNat 0x130 then ['i', Char.ofNat 0x307]
  else [smallLetter c]

/-- Whether the nearest character that is not case-ignorable has a case. -/
def nearestIsCased : List Char → Bool
  | [] => false
  | c :: rest =>
    if inRanges caseIgnorableRanges c.toNat then nearestIsCased rest
    else inRanges casedRanges c.toNat

/-- The small form of a capital sigma between the text before it, read backwards, and after it. -/
def smallSigma (before after : List Char) : Char :=
  if nearestIsCased before && !nearestIsCased after then Char.ofNat 0x3C2 else Char.ofNat 0x3C3

def lowercaseAfter (before : List Char) : List Char → List Char
  | [] => []
  | c :: rest =>
    (if c = Char.ofNat 0x3A3 then [smallSigma before rest] else smallLetters c)
      ++ lowercaseAfter (c :: before) rest

def lowercase (text : List Char) : List Char := lowercaseAfter [] text

/-- The capital of a letter whose capital is an ASCII letter: a to z, the dotless i and the long s. -/
def asciiCapital (c : Char) : Char :=
  if c.toNat = 0x131 then 'I' else if c.toNat = 0x17F then 'S' else c.toUpper

end CronClock.Text
