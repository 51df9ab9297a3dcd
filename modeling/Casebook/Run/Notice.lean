import Casebook.Suite.Duration
import Casebook.Text.Basic

/-! Notices of what a run does, for people who watch it. -/
namespace Casebook

inductive NoticeLevel where
  | debug
  | info
  | warn
  | error
deriving DecidableEq, Repr

structure Notice where
  level : NoticeLevel
  text : String
deriving DecidableEq, Repr

/-- The line of a notice; warnings and errors say so. -/
def Notice.line (n : Notice) : String :=
  match n.level with
  | .debug | .info => n.text
  | .warn => "[WARN] " ++ n.text
  | .error => "[ERROR] " ++ n.text

/-- Whether a notice is shown; details are shown on demand only. -/
def Notice.isShown (verbose : Bool) (n : Notice) : Bool := verbose || n.level != .debug

/-- A number of units with a fraction given as digits, without zeros at its end. -/
def Duration.scaled (whole : Nat) (width fraction : Nat) (unit : String) : String :=
  let digits := (Text.padZeros width fraction).toList.reverse.dropWhile (· == '0')
  toString whole ++ (if digits.isEmpty then "" else "." ++ String.ofList digits.reverse) ++ unit

/-- A length of time in its greatest unit. -/
def Duration.text (d : Duration) : String :=
  if 0 < d.secs then scaled d.secs 9 d.nanos "s"
  else if 1000000 ≤ d.nanos then scaled (d.nanos / 1000000) 6 (d.nanos % 1000000) "ms"
  else if 1000 ≤ d.nanos then scaled (d.nanos / 1000) 3 (d.nanos % 1000) "µs"
  else toString d.nanos ++ "ns"

end Casebook
