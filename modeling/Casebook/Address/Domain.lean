import Casebook.Decimal.Numeral
import Casebook.Text.Category
import Casebook.Text.LetterCase
import Casebook.Text.Basic

/-! Domain names.  Letters of other scripts may be written as they are or in an ASCII form: a label that starts with
`xn--` spells its ASCII letters first and then the others as differences in base 36. -/
namespace Casebook.Address

/-! ### Labels in ASCII form -/

/-- The value of a digit in base 36. -/
def digit36? (c : Char) : Option Nat :=
  if 'a' ≤ c ∧ c ≤ 'z' then some (c.toNat - 'a'.toNat)
  else if 'A' ≤ c ∧ c ≤ 'Z' then some (c.toNat - 'A'.toNat)
  else if c.isDigit then some (c.toNat - '0'.toNat + 26)
  else none

/-- The greatest value of the last digit of a number at a place. -/
def threshold (place bias : Nat) : Nat := if place ≤ bias then 1 else min 26 (place - bias)

/-- How often a number can be divided by 35 before it is at most 455, and what is then left. -/
def shrink : (fuel : Nat) → Nat → Nat × Nat
  | 0, delta => (0, delta)
  | fuel + 1, delta =>
    if 455 < delta then let (n, rest) := shrink fuel (delta / 35); (n + 1, rest) else (0, delta)

/-- The bias after a difference. -/
def nextBias (delta count : Nat) (isFirst : Bool) : Nat :=
  let delta := if isFirst then delta / 700 else delta / 2
  let (n, rest) := shrink delta (delta + delta / count)
  36 * n + 36 * rest / (rest + 38)

/-- A number of variable length, and what follows it. -/
def difference? (bias : Nat) : List Char → (place weight value : Nat) → Option (Nat × List Char)
  | [], _, _, _ => none
  | c :: rest, place, weight, value => do
    let d ← digit36? c
    let value := value + d * weight
    if 1 <<< 32 ≤ value then none
    else
      let t := threshold place bias
      if d < t then some (value, rest) else difference? bias rest (place + 36) (weight * (36 - t)) value

/-- Puts the letters spelled by differences among those that came before. -/
def insertLetters : (fuel : Nat) → List Char → List Char → (code place bias : Nat) → Option (List Char)
  | 0, _, _, _, _, _ => none
  | _, [], out, _, _, _ => some out
  | fuel + 1, cs, out, code, place, bias => do
    let (delta, rest) ← difference? bias cs 36 1 0
    let size := out.length + 1
    let total := place + delta
    let code := code + total / size
    let at_ := total % size
    if h : code.isValidChar then
      insertLetters fuel rest (out.insertIdx at_ (Char.ofNatAux code h)) code (at_ + 1)
        (nextBias delta size (out.all fun c => c.toNat < 128))
    else none

/-- The label that an ASCII form stands for, after its first four characters: the differences come after the last
hyphen, the ASCII letters before it. -/
def decodeLabel? (cs : List Char) : Option (List Char) :=
  let tail := (cs.reverse.takeWhile (· != '-')).reverse
  match cs.take (cs.length - tail.length) with
  | ['-'] => none
  | head => insertLetters (tail.length + 1) tail head.dropLast 128 0 72

/-! ### Whole names -/

/-- Whether an ASCII character may not stand in a name. -/
def isForbidden (c : Char) : Bool := c.toNat ≤ 32 || c.toNat = 127 || "%#/:<>?@[\\]^|".contains c

/-- Whether a character vanishes from names. -/
def isIgnored (c : Char) : Bool :=
  let n := c.toNat
  n == 0xAD || n == 0x200B || n == 0x2060 || n == 0xFEFF || (0xFE00 ≤ n && n ≤ 0xFE0F) || n == 0x34F

/-- Whether a character ends a label. -/
def isStop (c : Char) : Bool := [0x2E, 0x3002, 0xFF0E, 0xFF61].contains c.toNat

/-- A character as it stands in names: full width forms become ASCII, and capitals small. -/
def foldChar (c : Char) : List Char :=
  if isIgnored c then []
  else if isStop c then ['.']
  else if 0xFF01 ≤ c.toNat ∧ c.toNat ≤ 0xFF5E then [(Char.ofNat (c.toNat - 0xFEE0)).toLower]
  else Text.lowerChar c

def isMark (c : Char) : Bool := Text.inRanges Text.markRanges c.toNat

/-- Whether a character may stand in a label. -/
def isLabelChar (c : Char) : Bool :=
  if c.toNat < 128 then !isForbidden c
  else isMark c || (!Text.isBlank c && !Text.inRanges Text.hiddenRanges c.toNat)

/-- Whether a label in its own script is sound. -/
def isLabel (cs : List Char) : Bool := cs.all isLabelChar && !cs.head?.any isMark

/-- Whether a label is sound, in its own script or in ASCII form. -/
def isSoundLabel (cs : List Char) : Bool :=
  match cs with
  | 'x' :: 'n' :: '-' :: '-' :: rest =>
    rest.all (fun c => c.toNat < 128) &&
      (decodeLabel? rest).any fun label =>
        isLabel label && label.any (fun c => 128 ≤ c.toNat) && label.flatMap foldChar == label
  | _ => isLabel cs

/-- A name in lower case, if all its labels are sound. -/
def domain? (cs : List Char) : Option (List Char) :=
  let name := cs.flatMap foldChar
  if (Text.piecesList ['.'] (name.length + 1) name).all isSoundLabel then some name else none

end Casebook.Address
