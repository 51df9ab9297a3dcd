import Casebook.Address.Domain
import Casebook.Address.Ip
import Casebook.Run.Transport

/-! The addresses that requests may go to: a scheme, perhaps a user, a host and perhaps a port. -/
namespace Casebook.Address

open Decimal

inductive Fault where
  | noScheme
  | emptyHost
  | badDomain
  | badPort
  | badIpv4
  | badIpv6
  | badCharacter
deriving DecidableEq, Repr

def Fault.message : Fault → String
  | .noScheme => "relative URL without a base"
  | .emptyHost => "empty host"
  | .badDomain => "invalid international domain name"
  | .badPort => "invalid port number"
  | .badIpv4 => "invalid IPv4 address"
  | .badIpv6 => "invalid IPv6 address"
  | .badCharacter => "invalid domain character"

/-- How the part after the scheme is read. -/
inductive Family where
  /-- A host is needed, and may be any number of slashes away. -/
  | web
  | file
  | other
deriving DecidableEq, Repr

def Family.ofScheme (scheme : String) : Family :=
  if ["http", "https", "ws", "wss", "ftp"].contains scheme then .web
  else if scheme = "file" then .file
  else .other

/-- The text that counts: control characters and spaces around it, and tabs and line ends in it, do not. -/
def significant (s : String) : List Char :=
  (Text.trimList (fun c => c.toNat ≤ 32) s.toList).filter fun c => !(c = '\t' ∨ c = '\n' ∨ c = '\r')

def isSchemeChar (c : Char) : Bool := c.isAlphanum || c == '+' || c == '-' || c == '.'

/-- The scheme in lower case, and what follows its colon. -/
def scheme? (cs : List Char) : Option (String × List Char) :=
  match cs.dropWhile isSchemeChar with
  | ':' :: rest =>
    if cs.head?.any Char.isAlpha then
      some (String.ofList ((cs.takeWhile isSchemeChar).map Char.toLower), rest)
    else none
  | _ => none

/-- Whether a character ends the authority. -/
def endsAuthority (web : Bool) (c : Char) : Bool := c == '/' || c == '?' || c == '#' || (web && c == '\\')

/-- The number of characters of a host: up to a colon outside brackets, or the end of the authority. -/
def hostLength (web : Bool) : (inBrackets : Bool) → List Char → Nat
  | _, [] => 0
  | inBrackets, c :: rest =>
    if (c == ':' && !inBrackets) || endsAuthority web c then 0
    else hostLength web (if c = '[' then true else if c = ']' then false else inBrackets) rest + 1

/-- The bytes of a text with percent escapes replaced. -/
def unescaped : List UInt8 → List UInt8
  | 37 :: a :: b :: rest =>
    match digitIn? 16 (Char.ofNat a.toNat), digitIn? 16 (Char.ofNat b.toNat) with
    | some x, some y => UInt8.ofNat (16 * x + y) :: unescaped rest
    | _, _ => 37 :: unescaped (a :: b :: rest)
  | b :: rest => b :: unescaped rest
  | [] => []

/-- The address between brackets, if there are brackets. -/
def bracketed? (cs : List Char) : Option (Except Fault Unit) :=
  match cs with
  | '[' :: rest =>
    some (if cs.getLast? = some ']' ∧ isIpv6 rest.dropLast then .ok () else .error .badIpv6)
  | _ => none

/-- Checks a host that is a domain or an address of numbers. -/
def checkHost (cs : List Char) : Except Fault Unit :=
  match bracketed? cs with
  | some r => r
  | none =>
    match String.fromUTF8? ⟨(unescaped (String.ofList cs).toUTF8.toList).toArray⟩ with
    | none => .error .badDomain
    | some s =>
      match domain? s.toList with
      | none => .error .badDomain
      | some [] => .error .emptyHost
      | some name => if endsInNumber name && !isIpv4 name then .error .badIpv4 else .ok ()

/-- Checks the host of a scheme that says nothing about hosts. -/
def checkOpaqueHost (cs : List Char) : Except Fault Unit :=
  match bracketed? cs with
  | some r => r
  | none =>
    if cs.any fun c => c.toNat = 0 ∨ "\t\n\r #/:<>?@[\\]^|".contains c then .error .badCharacter else .ok ()

/-- Checks what follows a host. -/
def checkPort (cs : List Char) : Except Fault Unit :=
  match cs with
  | ':' :: rest =>
    let digits := rest.takeWhile Char.isDigit
    let follows := (rest.dropWhile Char.isDigit).head?
    if natOfDigits digits ≤ 65535 && follows.all fun c => c == '/' || c == '\\' || c == '?' || c == '#' then .ok ()
    else .error .badPort
  | _ => .ok ()

/-- Checks user, host and port. -/
def checkAuthority (web : Bool) (cs : List Char) : Except Fault Unit := do
  let authority := cs.takeWhile fun c => !endsAuthority web c
  let tail := cs.drop authority.length
  let afterAt := (authority.reverse.takeWhile (· != '@')).reverse
  let user? := if authority.contains '@' then some (authority.take (authority.length - afterAt.length - 1)) else none
  if user? = some [] ∧ afterAt.isEmpty ∧ !tail.isEmpty then throw .emptyHost
  let named := user?.any fun u => !u.isEmpty && u != [':']
  let rest := if user?.isSome then afterAt ++ tail else cs
  let host := rest.take (hostLength web false rest)
  let after := rest.drop host.length
  if host.isEmpty then
    if web || after.head? = some ':' then throw .emptyHost
  else if web then checkHost host
  else checkOpaqueHost host
  checkPort after
  if host.isEmpty && named then throw .emptyHost

/-- Whether a text is a drive of a file address. -/
def isDrive (cs : List Char) : Bool :=
  match cs with
  | [c, d] => c.isAlpha && (d == ':' || d == '|')
  | _ => false

def isSlash (c : Char) : Bool := c == '/' || c == '\\'

/-- Checks what follows the scheme. -/
def checkRest (family : Family) (cs : List Char) : Except Fault Unit :=
  match family with
  | .web => checkAuthority true (cs.dropWhile isSlash)
  | .file =>
    match cs with
    | a :: b :: rest =>
      let host := rest.takeWhile fun c => !(isSlash c || c == '?' || c == '#')
      if isSlash a && isSlash b && !host.isEmpty && !isDrive host then checkHost host else .ok ()
    | _ => .ok ()
  | .other =>
    match cs with
    | '/' :: '/' :: rest => checkAuthority false rest
    | _ => .ok ()

/-- The scheme of an address that can be read. -/
def parse (address : String) : Except Fault String :=
  match scheme? (significant address) with
  | none => .error .noScheme
  | some (scheme, rest) => (checkRest (.ofScheme scheme) rest).map fun _ => scheme

/-- The scheme of an address that requests may go to. -/
def check (address : String) : Except HttpError String :=
  if (Text.trim address).isEmpty then .error .missingAddress
  else match parse address with
    | .error .noScheme => .error .missingAddress
    | .error fault => .error (.invalidAddress (address ++ " (" ++ fault.message ++ ")"))
    | .ok scheme => if scheme = "http" ∨ scheme = "https" then .ok scheme else .error (.invalidAddress address)

/-- The methods that requests may have. -/
def methods : List String := ["GET", "DELETE", "HEAD", "OPTIONS", "POST", "PUT", "PATCH"]

/-- Why a request is refused before anything is sent. -/
def refusal? (address method : String) : Option HttpError :=
  match check address with
  | .error e => some e
  | .ok _ =>
    let method := Text.asciiUpper method
    if methods.contains method then none else some (.other ("unsupported HTTP method: " ++ method))

end Casebook.Address
