import Casebook.Decimal.Numeral
import Casebook.Pattern.Property
import Casebook.Pattern.Syntax
import Casebook.Text.Category

/-! Reading patterns from text.  Flags in groups change how the rest of the group reads: `i` ignores case, `m` anchors
at lines, `s` lets the point match line ends, `U` swaps greed, `x` allows blanks and comments, `R` admits carriage
returns as line ends, and `u` stands for Unicode. -/
namespace Casebook.Pattern

structure Flags where
  ignoreCase : Bool
  multiLine : Bool
  dotAll : Bool
  swapGreed : Bool
  unicode : Bool
  verbose : Bool
  anyLineEnd : Bool

def Flags.default : Flags := ⟨false, false, false, false, true, false, false⟩

structure Reading where
  rest : List Char
  flags : Flags
  /-- The number of groups so far. -/
  groups : Nat
  names : List String

/-- Reads a part of a pattern, or refuses it. -/
abbrev Read := StateT Reading Option

namespace Read

def peek : Read (Option Char) := return (← get).rest.head?

def peekAfter : Read (Option Char) := return (← get).rest[1]?

def skip (n : Nat) : Read Unit := modify fun s => { s with rest := s.rest.drop n }

def flags : Read Flags := return (← get).flags

/-- The next character, which must exist. -/
def next : Read Char := do
  match (← get).rest with
  | c :: rest =>
    modify fun s => { s with rest }
    return c
  | [] => failure

/-- Passes over a text if it stands next. -/
def accept (text : String) : Read Bool := do
  if text.toList.isPrefixOf (← get).rest then
    skip text.length
    return true
  else return false

/-- What is left after blanks and comments. -/
def dropBlanks : Bool → List Char → List Char
  | _, [] => []
  | true, c :: rest => dropBlanks (c != '\n') rest
  | false, c :: rest =>
    if Text.isBlank c then dropBlanks false rest
    else if c = '#' then dropBlanks true rest
    else c :: rest

def withoutBlanks (s : Reading) : List Char := if s.flags.verbose then dropBlanks false s.rest else s.rest

def skipBlanks : Read Unit := modify fun s => { s with rest := withoutBlanks s }

/-- The character after the next one, blanks left out where they do not count. -/
def peekPastBlanks : Read (Option Char) := do
  let s ← get
  return (withoutBlanks { s with rest := s.rest.drop 1 }).head?

/-! ### Escapes -/

/-- Named sets between `[:` and `:]`. -/
def asciiClass? : String → Option (List (Nat × Nat))
  | "alnum" => some [(48, 57), (65, 90), (97, 122)]
  | "alpha" => some [(65, 90), (97, 122)]
  | "ascii" => some [(0, 127)]
  | "blank" => some [(9, 9), (32, 32)]
  | "cntrl" => some [(0, 31), (127, 127)]
  | "digit" => some [(48, 57)]
  | "graph" => some [(33, 126)]
  | "lower" => some [(97, 122)]
  | "print" => some [(32, 126)]
  | "punct" => some [(33, 47), (58, 64), (91, 96), (123, 126)]
  | "space" => some [(9, 13), (32, 32)]
  | "upper" => some [(65, 90)]
  | "word" => some asciiWordRanges
  | "xdigit" => some [(48, 57), (65, 70), (97, 102)]
  | _ => none

/-- What a backslash and the following characters stand for. -/
inductive Escape where
  | char (c : Char)
  /-- A character given by its number. -/
  | code (c : Char)
  | set (s : CharSet)
  | anchor (a : Anchor)

/-- The set of a class letter such as `d`; without Unicode only the sets that hold ASCII alone can be used. -/
def classOf (ranges ascii : List (Nat × Nat)) (negated : Bool) : Read Escape := do
  if (← flags).unicode then
    return .set (if negated then .complement (.ranges ranges) else .ranges ranges)
  else if negated then failure
  else return .set (.ranges ascii)

/-- The digits of a number in braces. -/
def bracedDigits : Nat → Read (List Char)
  | 0 => failure
  | fuel + 1 => do
    skipBlanks
    let c ← next
    if c = '}' then return []
    else return c :: (← bracedDigits fuel)

/-- A character given by hexadecimal digits, in braces or of a fixed number. -/
def hexCode (count : Nat) : Read Escape := do
  skipBlanks
  let digits ←
    if (← peek) = some '{' then
      skip 1
      bracedDigits ((← get).rest.length + 1)
    else (List.replicate count ()).mapM fun _ => do
      skipBlanks
      next
  let n ← (Decimal.natIn? 16 digits : Option Nat)
  if h : n.isValidChar then return .code (Char.ofNatAux n h) else failure

/-- A set with the other cases of its characters where case does not count. -/
def foldedIf (s : CharSet) : Read CharSet := do
  let f ← flags
  return if !f.ignoreCase then s else if f.unicode then s.fold else .foldedAscii s

/-- A property after `\p` or `\P`. -/
def propertySet (negated : Bool) : Read Escape := do
  if !(← flags).unicode then failure
  skipBlanks
  let name ←
    if (← accept "\x7b") then bracedDigits ((← get).rest.length + 1)
    else do
      let c ← next
      if c = '\\' then failure
      pure [c]
  let set ← (Property.rangesOf? name : Option (List (Nat × Nat)))
  let set ← foldedIf (.ranges set)
  return .set (if negated then .complement set else set)

/-- A word boundary after `\b`, perhaps of a named kind. -/
def boundary : Read Escape := do
  let u := (← flags).unicode
  if ← accept "\x7bstart\x7d" then return .anchor (.wordStart u)
  else if ← accept "\x7bend\x7d" then return .anchor (.wordEnd u)
  else if ← accept "\x7bstart-half\x7d" then return .anchor (.beforeWord u)
  else if ← accept "\x7bend-half\x7d" then return .anchor (.afterWord u)
  else return .anchor (.boundary u)

/-- The escape after a backslash. -/
def escape : Read Escape := do
  let c ← next
  match c with
  | 'x' => hexCode 2
  | 'u' => hexCode 4
  | 'U' => hexCode 8
  | 'p' => propertySet false
  | 'P' => propertySet true
  | 'd' => classOf Text.digitRanges [(48, 57)] false
  | 'D' => classOf Text.digitRanges [(48, 57)] true
  | 's' => classOf Text.blankRanges [(9, 13), (32, 32)] false
  | 'S' => classOf Text.blankRanges [(9, 13), (32, 32)] true
  | 'w' => classOf Text.wordRanges asciiWordRanges false
  | 'W' => classOf Text.wordRanges asciiWordRanges true
  | 'a' => return .char '\x07'
  | 'f' => return .char '\x0c'
  | 't' => return .char '\t'
  | 'n' => return .char '\n'
  | 'r' => return .char '\r'
  | 'v' => return .char '\x0b'
  | 'A' => return .anchor .textStart
  | 'z' => return .anchor .textEnd
  | 'b' => boundary
  | 'B' => if (← flags).unicode then return .anchor (.noBoundary true) else failure
  | '<' => return .anchor (.wordStart (← flags).unicode)
  | '>' => return .anchor (.wordEnd (← flags).unicode)
  | c => if c.toNat < 128 && !c.isAlphanum then return .char c else failure

/-! ### Sets in brackets -/

/-- A member of a bracketed set: a character, which may begin a range, or a set. -/
inductive Member where
  | char (c : Char)
  | set (s : CharSet)

def member : Read Member := do
  let c ← next
  if c = '\\' then
    match ← escape with
    | .char c => return .char c
    | .code c => if (← flags).unicode || c.toNat < 128 then return .char c else failure
    | .set s => return .set s
    | .anchor _ => failure
  else if (← flags).unicode || c.toNat < 128 then return .char c
  else failure

/-- A member or a range of characters. -/
def memberOrRange : Read CharSet := do
  let first ← member
  skipBlanks
  let c ← peek
  if c.isNone then failure
  let after ← peekPastBlanks
  if c ≠ some '-' || after = some ']' || after = some '-' then
    match first with
    | .char c => return .single c
    | .set s => return s
  else
    skip 1
    skipBlanks
    match first, ← member with
    | .char a, .char b => if a ≤ b then return .ranges [(a.toNat, b.toNat)] else failure
    | _, _ => failure

/-- A named set such as `[:alpha:]`, if one stands next. -/
def namedSet? : Read (Option CharSet) := do
  let s ← get
  match s.rest with
  | '[' :: ':' :: rest =>
    let (negated, rest) := match rest with
      | '^' :: more => (true, more)
      | more => (false, more)
    let name := rest.takeWhile fun c => c != ':'
    match rest.dropWhile fun c => c != ':' with
    | ':' :: ']' :: after =>
      match asciiClass? (String.ofList name) with
      | some ranges =>
        set { s with rest := after }
        return some (if negated then .complement (.ranges ranges) else .ranges ranges)
      | none => return none
    | _ => return none
  | _ => return none

/-- How two sets in brackets combine. -/
inductive SetOp where
  | inter
  | diff
  | symDiff

def SetOp.combine : SetOp → CharSet → CharSet → CharSet
  | .inter => .inter
  | .diff => .diff
  | .symDiff => .symDiff

def setOp? : Read (Option SetOp) := do
  if ← accept "&&" then return some .inter
  else if ← accept "--" then return some .diff
  else if ← accept "~~" then return some .symDiff
  else return none

/-- The members of a bracketed set so far. -/
structure Members where
  set : CharSet
  count : Nat
  /-- The greatest height of a member. -/
  height : Nat

def Members.none : Members := ⟨.empty, 0, 0⟩

def Members.add (m : Members) (set : CharSet) (height : Nat) : Members :=
  ⟨.union m.set set, m.count + 1, max m.height height⟩

/-- How deep the members are nested; more than one of them count as a level of their own. -/
def Members.depth (m : Members) : Nat := if m.count ≤ 1 then m.height else m.height + 1

/-- The hyphens at the beginning of a bracketed set, or its closing bracket in first place, as members. -/
def leadingMembers : Nat → Members → Bool → Read Members
  | 0, sofar, _ => return sofar
  | fuel + 1, sofar, first => do
    skipBlanks
    match ← peek with
    | some '-' =>
      skip 1
      leadingMembers fuel (sofar.add (.single '-') 0) false
    | some ']' =>
      if first then
        skip 1
        return sofar.add (.single ']') 0
      else return sofar
    | _ => return sofar

mutual

/-- A bracketed set after its opening bracket, and how deep it is nested. -/
def bracketed : Nat → Read (CharSet × Nat)
  | 0 => failure
  | fuel + 1 => do
    skipBlanks
    let negated ← accept "^"
    let start ← leadingMembers (fuel + 1) .none true
    let (set, depth) ← members fuel none start
    let set ← foldedIf set
    if !negated then return (set, depth + 1)
    else if (← flags).unicode then return (.complement set, depth + 1)
    else failure

/-- The members up to the closing bracket; `pending` is what stands before the last operator. -/
def members : Nat → Option (CharSet × Nat × SetOp) → Members → Read (CharSet × Nat)
  | 0, _, _ => failure
  | fuel + 1, pending, sofar => do
    skipBlanks
    let joined : Read (CharSet × Nat) := do
      match pending with
      | some (left, depth, op) =>
        return (op.combine (← foldedIf left) (← foldedIf sofar.set), max depth sofar.depth + 1)
      | none => return (sofar.set, sofar.depth)
    match ← peek with
    | none => failure
    | some ']' =>
      skip 1
      joined
    | some '[' =>
      match ← namedSet? with
      | some s => members fuel pending (sofar.add s 0)
      | none =>
        skip 1
        let (inner, depth) ← bracketed fuel
        members fuel pending (sofar.add inner depth)
    | _ =>
      match ← setOp? with
      | some op =>
        let (left, depth) ← joined
        members fuel (some (left, depth, op)) .none
      | none => members fuel pending (sofar.add (← memberOrRange) 0)

end

/-! ### Groups and repetitions -/

/-- A flag by its letter, as a way to set it. -/
def flag? (c : Char) : Option (Bool → Flags → Flags) :=
  match c with
  | 'i' => some fun b f => { f with ignoreCase := b }
  | 'm' => some fun b f => { f with multiLine := b }
  | 's' => some fun b f => { f with dotAll := b }
  | 'U' => some fun b f => { f with swapGreed := b }
  | 'u' => some fun b f => { f with unicode := b }
  | 'x' => some fun b f => { f with verbose := b }
  | 'R' => some fun b f => { f with anyLineEnd := b }
  | _ => none

/-- The flags up to a colon or the closing parenthesis, each letter and the minus at most once, and which of the two
ends them. -/
def flagList : Nat → List Char → Flags → Read (List Char × Flags × Char)
  | 0, _, _ => failure
  | fuel + 1, seen, f => do
    let c ← next
    if c = ':' ∨ c = ')' then
      if seen.head? = some '-' then failure else return (seen, f, c)
    else if seen.contains c then failure
    else if c = '-' then flagList fuel (c :: seen) f
    else match flag? c with
      | some set => flagList fuel (c :: seen) (set (!seen.contains '-') f)
      | none => failure

/-- The name of a group up to its closing angle bracket. -/
def groupName : Read String := do
  let s ← get
  let name := s.rest.takeWhile (· != '>')
  let isInner := fun c => c = '_' || c = '.' || c = '[' || c = ']' || Text.isAlphanumeric c
  let isFirst := fun c => c = '_' || (Text.isAlphanumeric c && !Text.inRanges Text.numberRanges c.toNat)
  let word := String.ofList name
  if name.all isInner && name.head?.any isFirst && !s.names.contains word then
    set { s with rest := s.rest.drop name.length, names := word :: s.names }
    if (← next) ≠ '>' then failure
    return word
  else failure

/-- A decimal number with blanks around it. -/
def decimal : Read Nat := do
  modify fun s => { s with rest := s.rest.dropWhile Text.isBlank }
  let digits := (← get).rest.takeWhile Char.isDigit
  modify fun s => { s with rest := (s.rest.drop digits.length).dropWhile Text.isBlank }
  let n ← (Decimal.natIn? 10 digits : Option Nat)
  if n < 1 <<< 32 then return n else failure

/-- The bounds of a repetition after its opening brace. -/
def bounds : Read (Nat × Option Nat) := do
  skipBlanks
  let least ← decimal
  let most ←
    if (← peek) = some ',' then
      skip 1
      skipBlanks
      if (← peek) = some '}' then pure none else pure (some (← decimal))
    else pure (some least)
  if (← next) ≠ '}' then failure
  if most.any (· < least) then failure
  skipBlanks
  return (least, most)

/-- A character that stands for itself. -/
def literal (c : Char) : Read Node := do return .one (← foldedIf (.single c))

def lineAnchor (whole line any : Anchor) : Read Node := do
  let f ← flags
  return .anchor (if f.multiLine then (if f.anyLineEnd then any else line) else whole)

/-- A single item that is no group, bracket or repetition. -/
def primitive : Read Node := do
  let c ← next
  match c with
  | '\\' =>
    match ← escape with
    | .char c => literal c
    | .code c => if (← flags).unicode || c.toNat < 128 then literal c else failure
    | .set s => return .one s
    | .anchor a => return .anchor a
  | '.' =>
    let f ← flags
    if !f.unicode then failure
    return .one (if f.dotAll then .all
      else if f.anyLineEnd then .complement (.ranges [(10, 10), (13, 13)])
      else .complement (.single '\n'))
  | '^' => lineAnchor .textStart .lineStart .anyLineStart
  | '$' => lineAnchor .textEnd .lineEnd .anyLineEnd
  | c => literal c

/-- A part of a branch: nothing in the place of flags, else a pattern; and how deep it is nested. -/
structure Item where
  node : Option Node
  depth : Nat

/-- The last item repeated; flags and the beginning of a branch cannot be. -/
def repeated (items : List Item) (least : Nat) (most : Option Nat) : Read (List Item) := do
  match items with
  | ⟨some body, depth⟩ :: before =>
    let lazy ← accept "?"
    return ⟨some (.repeat least most (lazy == (← flags).swapGreed) body), depth + 1⟩ :: before
  | _ => failure

/-- The greatest of the depths, and one more if there are several. -/
def depthOfAll (depths : List Nat) : Nat :=
  match depths with
  | [] => 0
  | [depth] => depth
  | _ => depths.foldl max 0 + 1

/-- The items, given in reverse, as one pattern. -/
def joined (items : List Item) : Node × Nat :=
  let node := match items.filterMap Item.node with
    | [] => .empty
    | last :: before => before.foldl (fun after item => .seq item after) last
  (node, depthOfAll (items.map Item.depth))

/-- The branches as one pattern. -/
def oneOf (branches : List (Node × Nat)) : Node × Nat :=
  let node := match (branches.map Prod.fst).reverse with
    | [] => .empty
    | last :: before => before.foldl (fun after branch => .alt branch after) last
  (node, depthOfAll (branches.map Prod.snd))

mutual

/-- The branches of a pattern up to the end or a closing parenthesis. -/
def branches : Nat → Read (List (Node × Nat))
  | 0 => failure
  | fuel + 1 => do
    let first ← branch fuel []
    if (← peek) = some '|' then
      skip 1
      return first :: (← branches fuel)
    else return [first]

/-- A branch; the items that were read are given in reverse. -/
def branch : Nat → List Item → Read (Node × Nat)
  | 0, _ => failure
  | fuel + 1, items => do
    skipBlanks
    match ← peek with
    | none | some '|' | some ')' => return joined items
    | some '(' =>
      skip 1
      branch fuel ((← group fuel) :: items)
    | some '[' =>
      skip 1
      let (set, depth) ← bracketed fuel
      branch fuel (⟨some (.one set), depth⟩ :: items)
    | some '?' =>
      skip 1
      branch fuel (← repeated items 0 (some 1))
    | some '*' =>
      skip 1
      branch fuel (← repeated items 0 none)
    | some '+' =>
      skip 1
      branch fuel (← repeated items 1 none)
    | some '{' =>
      if (items.head?.bind Item.node).isNone then failure
      skip 1
      let (least, most) ← bounds
      branch fuel (← repeated items least most)
    | _ => branch fuel (⟨some (← primitive), 0⟩ :: items)

/-- A group after its opening parenthesis; nothing if it only sets flags. -/
def group : Nat → Read Item
  | 0 => failure
  | fuel + 1 => do
    skipBlanks
    for look in ["?=", "?!", "?<=", "?<!"] do
      if look.toList.isPrefixOf (← get).rest then failure
    let before ← flags
    let inside : Read (Node × Nat) := do
      let (body, depth) := oneOf (← branches fuel)
      if (← next) ≠ ')' then failure
      modify fun s => { s with flags := before }
      return (body, depth + 1)
    let numbered : Read Item := do
      let number := (← get).groups + 1
      modify fun s => { s with groups := number }
      let (body, depth) ← inside
      return ⟨some (.group number body), depth⟩
    if (← accept "?P<") || (← accept "?<") then
      let _ ← groupName
      numbered
    else if ← accept "?" then
      let (letters, changed, ending) ← flagList (fuel + 1) [] before
      if ending = ')' then
        if letters.isEmpty then failure
        modify fun s => { s with flags := changed }
        return ⟨none, 0⟩
      else
        modify fun s => { s with flags := changed }
        let (body, depth) ← inside
        return ⟨some body, depth⟩
    else numbered

end

end Read

/-- The greatest weight of a pattern. -/
def maxWeight : Nat := 10485760

/-- How deep groups, repetitions, branches, rows of items and bracketed sets may be nested. -/
def maxDepth : Nat := 250

/-- The pattern that a text writes. -/
def Node.ofText? (text : String) : Option Node := do
  let cs := text.toList
  let (branches, s) ← (Read.branches (4 * cs.length + 8)).run ⟨cs, .default, 0, []⟩
  let (node, depth) := Read.oneOf branches
  if s.rest.isEmpty && depth ≤ maxDepth && node.weight ≤ maxWeight then some node else none

end Casebook.Pattern
