import Casebook.Text.CharSet

/-! Searching, cutting and trimming texts. -/
namespace Casebook.Text

/-- Removes from both ends the characters that satisfy `p`. -/
def trimList (p : Char → Bool) (cs : List Char) : List Char :=
  ((cs.dropWhile p).reverse.dropWhile p).reverse

def trimWith (p : Char → Bool) (s : String) : String := String.ofList (trimList p s.toList)

/-- Removes white space from both ends. -/
def trim (s : String) : String := trimWith isBlank s

def trimStart (s : String) : String := String.ofList (s.toList.dropWhile isBlank)

def trimEnd (s : String) : String := String.ofList (s.toList.reverse.dropWhile isBlank).reverse

/-- What stands before and after the first occurrence of `needle`. -/
def breakOn (needle : List Char) : List Char → Option (List Char × List Char)
  | [] => if needle.isEmpty then some ([], []) else none
  | c :: rest =>
    if needle.isPrefixOf (c :: rest) then some ([], (c :: rest).drop needle.length)
    else (breakOn needle rest).map fun (before, after) => (c :: before, after)

theorem breakOn_eq_append {needle cs before after : List Char}
    (h : breakOn needle cs = some (before, after)) : cs = before ++ needle ++ after := by
  induction cs generalizing before with
  | nil =>
    simp only [breakOn] at h
    split at h <;> simp_all
  | cons c rest ih =>
    simp only [breakOn] at h
    split at h
    · rename_i hp
      obtain ⟨t, ht⟩ := List.isPrefixOf_iff_prefix.1 hp
      simp only [Option.some.injEq, Prod.mk.injEq] at h
      obtain ⟨rfl, rfl⟩ := h
      rw [← ht]
      simp
    · obtain ⟨p, hp, he⟩ := Option.map_eq_some_iff.1 h
      obtain ⟨b, a⟩ := p
      simp only [Prod.mk.injEq] at he
      obtain ⟨rfl, rfl⟩ := he
      simp [ih hp]

/-- The texts around the first occurrence of `needle`. -/
def splitFirst (needle s : String) : Option (String × String) :=
  (breakOn needle.toList s.toList).map fun (a, b) => (String.ofList a, String.ofList b)

def contains (needle s : String) : Bool := (breakOn needle.toList s.toList).isSome

/-- The pieces between the occurrences of `needle`, from left to right; `fuel` bounds their number. -/
def piecesList (needle : List Char) : Nat → List Char → List (List Char)
  | 0, cs => [cs]
  | fuel + 1, cs =>
    match breakOn needle cs with
    | some (before, after) => before :: piecesList needle fuel after
    | none => [cs]

/-- The pieces between the occurrences of a text that is not empty, at most `limit` cuts. -/
def piecesUpTo (limit : Nat) (needle s : String) : List String :=
  (piecesList needle.toList (min limit (s.length + 1)) s.toList).map String.ofList

def pieces (needle s : String) : List String := piecesUpTo (s.length + 1) needle s

/-- Every character on its own, between an empty text at either end. -/
def letters (s : String) : List String :=
  "" :: s.toList.map String.singleton ++ [""]

/-- Puts `new` for every occurrence of `old`, scanning from the left. -/
def replaceAll (old new s : String) : String :=
  if old.isEmpty then new ++ String.join (s.toList.map fun c => String.singleton c ++ new)
  else new.intercalate (pieces old s)

/-- The words between runs of white space. -/
def words (s : String) : List String :=
  let step (c : Char) (acc : List Char × List String) : List Char × List String :=
    if isBlank c then ([], if acc.1.isEmpty then acc.2 else String.ofList acc.1 :: acc.2)
    else (c :: acc.1, acc.2)
  let (first, rest) := s.toList.foldr step ([], [])
  if first.isEmpty then rest else String.ofList first :: rest

/-- The first words between runs of white space, at most `limit`, and then what is left without the white space in
front of it. -/
def wordsUpToList : Nat → List Char → List (List Char)
  | limit, cs =>
    match limit, cs.dropWhile isBlank with
    | _, [] => []
    | 0, cs => [cs]
    | limit + 1, cs => cs.takeWhile (!isBlank ·) :: wordsUpToList limit (cs.dropWhile (!isBlank ·))

def wordsUpTo (limit : Nat) (s : String) : List String := (wordsUpToList limit s.toList).map String.ofList

/-- The first of the texts that `letters` gives, after at most `limit` cuts, and then what is left. -/
def lettersUpTo (limit : Nat) (s : String) : List String :=
  if s.length + 1 ≤ limit then letters s
  else match limit with
    | 0 => [s]
    | n + 1 => "" :: (s.toList.take n).map String.singleton ++ [String.ofList (s.toList.drop n)]

/-- Removes one carriage return from the end. -/
def dropReturn (cs : List Char) : List Char :=
  match cs.reverse with
  | '\r' :: rest => rest.reverse
  | _ => cs

/-- The lines of a text, without their ends; a line end at the very end starts no further line. -/
def lines (s : String) : List String :=
  let parts := piecesList ['\n'] (s.length + 1) s.toList
  let ended := parts.dropLast.map dropReturn
  let last := parts.getLast?.getD []
  (ended ++ if last.isEmpty then [] else [last]).map String.ofList

/-- Decimal digits of a natural number, filled up with zeros to a width. -/
def padZeros (width n : Nat) : String :=
  let digits := toString n
  "".pushn '0' (width - digits.length) ++ digits

end Casebook.Text
