import Casebook.Decimal.Numeral
import Casebook.Text.Basic

/-! Hosts that are numbers: addresses of four bytes written in up to four parts, and of eight pieces between
colons. -/
namespace Casebook.Address

open Decimal

/-- The parts of a list between points. -/
def parts (cs : List Char) : List (List Char) := Text.piecesList ['.'] (cs.length + 1) cs

/-- A part of a number host: digits, octal after a zero, hexadecimal after `0x`.  None if it is no number. -/
def ipv4Part? (cs : List Char) : Option Nat :=
  match cs with
  | [] => none
  | '0' :: 'x' :: rest => if rest.isEmpty then some 0 else natIn? 16 rest
  | '0' :: 'X' :: rest => if rest.isEmpty then some 0 else natIn? 16 rest
  | '0' :: c :: rest => natIn? 8 (c :: rest)
  | cs => natIn? 10 cs

/-- The parts of a host, without an empty one at the end. -/
def hostParts (cs : List Char) : List (List Char) :=
  let ps := parts cs
  if ps.getLast? = some [] then ps.dropLast else ps

/-- Whether the last part of a host is a number, so that the host must be an address of four bytes. -/
def endsInNumber (cs : List Char) : Bool :=
  match (hostParts cs).getLast? with
  | some last => (!last.isEmpty && last.all Char.isDigit) || (ipv4Part? last).isSome
  | none => false

/-- Whether a host is an address of four bytes; the last part may stand for several of them. -/
def isIpv4 (cs : List Char) : Bool :=
  match (hostParts cs).mapM ipv4Part? with
  | none => false
  | some numbers =>
    let leading := numbers.dropLast
    numbers.length ≤ 4 && leading.all (· ≤ 255) &&
      numbers.getLast?.any (· < 1 <<< (8 * (4 - leading.length)))

/-- Whether four numbers of at most three digits, below 256 and without leading zeros, stand between points. -/
def isDottedQuad (cs : List Char) : Bool :=
  let ps := parts cs
  ps.length = 4 && ps.all fun p =>
    match p with
    | ['0'] => true
    | '0' :: _ => false
    | p => (nat? p).any (· ≤ 255)

/-- Whether the pieces of an address follow, given how many came before and whether a gap did.  A piece is up to four
hexadecimal digits; the last two may be written as four numbers; one gap may stand for several pieces. -/
def ipv6Pieces (cs : List Char) (count : Nat) (gap : Bool) : Bool :=
  if count = 8 then cs.isEmpty
  else
    match cs with
    | [] => gap
    | ':' :: rest => !gap && ipv6Pieces rest (count + 1) true
    | c :: more =>
      let digits := ((c :: more).take 4).takeWhile fun d => (digitIn? 16 d).isSome
      match h : (c :: more).drop digits.length with
      | [] => gap || count = 7
      | '.' :: _ => !digits.isEmpty && isDottedQuad (c :: more) && (if gap then count ≤ 6 else count = 6)
      | ':' :: rest => !rest.isEmpty && ipv6Pieces rest (count + 1) gap
      | _ => false
termination_by cs.length
decreasing_by
  · simp
  · have h := congrArg List.length h
    simp only [List.length_drop, List.length_cons] at h ⊢
    omega

/-- Whether a text between brackets is an address. -/
def isIpv6 (cs : List Char) : Bool :=
  match cs with
  | ':' :: ':' :: rest => ipv6Pieces rest 1 true
  | ':' :: _ => false
  | cs => 2 ≤ cs.length && ipv6Pieces cs 0 false

end Casebook.Address
