import Casebook.Text.CharSet
import Casebook.Text.LetterCase

/-! Text patterns: sets of characters, conditions on a place in the text, and their combinations. -/
namespace Casebook.Pattern

inductive CharSet where
  | ranges (rs : List (Nat × Nat))
  | union (a b : CharSet)
  | inter (a b : CharSet)
  | diff (a b : CharSet)
  | symDiff (a b : CharSet)
  | complement (a : CharSet)
  /-- All characters that differ from one of the set by their case at most. -/
  | folded (a : CharSet)
  /-- All characters that differ from one of the set by the case of an ASCII letter at most. -/
  | foldedAscii (a : CharSet)
deriving Repr

namespace CharSet

def empty : CharSet := .ranges []

def all : CharSet := .ranges [(0, 0x10FFFF)]

def single (c : Char) : CharSet := .ranges [(c.toNat, c.toNat)]

/-- The set with the other cases of its characters. -/
def fold : CharSet → CharSet
  | .ranges [(n, m)] =>
    if n = m then .ranges ((Text.caseVariants (Char.ofNat n)).map fun c => (c.toNat, c.toNat))
    else .folded (.ranges [(n, m)])
  | set => .folded set

def contains : CharSet → Char → Bool
  | .ranges rs, c => Text.inRanges rs c.toNat
  | .union a b, c => a.contains c || b.contains c
  | .inter a b, c => a.contains c && b.contains c
  | .diff a b, c => a.contains c && !b.contains c
  | .symDiff a b, c => a.contains c != b.contains c
  | .complement a, c => !a.contains c
  | .folded a, c => (Text.caseVariants c).any a.contains
  | .foldedAscii a, c => [c, c.toLower, c.toUpper].any a.contains

def rangeCount : CharSet → Nat
  | .ranges rs => rs.length
  | .union a b | .inter a b | .diff a b | .symDiff a b => a.rangeCount + b.rangeCount
  | .complement a | .folded a | .foldedAscii a => a.rangeCount + 1

end CharSet

/-- A condition on a place in the text. -/
inductive Anchor where
  | textStart
  | textEnd
  | lineStart
  | lineEnd
  /-- Lines end with a carriage return, a line feed, or both. -/
  | anyLineStart
  | anyLineEnd
  | boundary (unicode : Bool)
  | noBoundary (unicode : Bool)
  | wordStart (unicode : Bool)
  | wordEnd (unicode : Bool)
  | beforeWord (unicode : Bool)
  | afterWord (unicode : Bool)
deriving DecidableEq, Repr

def asciiWordRanges : List (Nat × Nat) := [(48, 57), (65, 90), (95, 95), (97, 122)]

/-- Whether a character belongs to words; the ends of the text do not. -/
def isWord (unicode : Bool) : Option Char → Bool
  | some c => Text.inRanges (if unicode then Text.wordRanges else asciiWordRanges) c.toNat
  | none => false

/-- Whether a condition holds between two characters. -/
def Anchor.holds (before after : Option Char) : Anchor → Bool
  | .textStart => before.isNone
  | .textEnd => after.isNone
  | .lineStart => before.isNone || before = some '\n'
  | .lineEnd => after.isNone || after = some '\n'
  | .anyLineStart => before.isNone || before = some '\n' || (before = some '\r' && after ≠ some '\n')
  | .anyLineEnd => after.isNone || after = some '\r' || (after = some '\n' && before ≠ some '\r')
  | .boundary u => isWord u before != isWord u after
  | .noBoundary u => isWord u before == isWord u after
  | .wordStart u => !isWord u before && isWord u after
  | .wordEnd u => isWord u before && !isWord u after
  | .beforeWord u => !isWord u before
  | .afterWord u => !isWord u after

inductive Node where
  | empty
  | one (set : CharSet)
  | anchor (a : Anchor)
  | seq (first second : Node)
  | alt (first second : Node)
  /-- From `least` to `most` times, as often as possible or as seldom as possible. -/
  | repeat (least : Nat) (most : Option Nat) (greedy : Bool) (body : Node)
  | group (number : Nat) (body : Node)
deriving Repr

namespace Node

/-- Whether a pattern may match without any character. -/
def canBeEmpty : Node → Bool
  | .empty | .anchor _ => true
  | .one _ => false
  | .seq a b => a.canBeEmpty && b.canBeEmpty
  | .alt a b => a.canBeEmpty || b.canBeEmpty
  | .repeat least _ _ body => least = 0 || body.canBeEmpty
  | .group _ body => body.canBeEmpty

/-- The greatest number of a group, zero without any; what is repeated no times does not count. -/
def lastGroup : Node → Nat
  | .empty | .anchor _ | .one _ => 0
  | .seq a b | .alt a b => max a.lastGroup b.lastGroup
  | .repeat _ most _ body => if most = some 0 then 0 else body.lastGroup
  | .group n body => max n body.lastGroup

/-- A measure of the program of a pattern, in bytes. -/
def weight : Node → Nat
  | .empty | .anchor _ => 24
  | .one set => 24 + 64 * set.rangeCount
  | .seq a b => a.weight + b.weight
  | .alt a b => 24 + a.weight + b.weight
  | .repeat least most _ body => 24 + (max 1 (most.getD (max 1 least))) * (24 + body.weight)
  | .group _ body => 48 + body.weight

end Node

end Casebook.Pattern
