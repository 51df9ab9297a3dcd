import Casebook.Decimal.Binary64

/-! Lengths of time in seconds and nanoseconds, and their exact making from floats. -/
namespace Casebook

open Decimal

structure Duration where
  secs : Nat
  nanos : Nat
deriving DecidableEq, Repr

namespace Duration

def zero : Duration := ⟨0, 0⟩

def ofNanos (n : Nat) : Duration := ⟨n / 1000000000, n % 1000000000⟩

/-- The number of nanoseconds of a float that is finite and not negative, rounded to the nearest, ties to even. -/
def nanosOf (x : Float) : Nat :=
  let b := Binary64.ofFloat x
  let m := b.significand * 1000000000
  if 0 ≤ b.exponent then m <<< b.exponent.toNat
  else
    let d := 1 <<< (-b.exponent).toNat
    let q := m / d
    let r := m % d
    if 2 * r < d then q
    else if d < 2 * r then q + 1
    else if q % 2 = 0 then q else q + 1

/-- The length of a number of seconds; none for numbers below zero, too great or not finite. -/
def ofSeconds? (x : Float) : Option Duration :=
  if !x.isFinite || x < 0.0 then none
  else
    let d := ofNanos (nanosOf x)
    if d.secs < 1 <<< 64 then some d else none

/-- The longest delay that a controller may ask for, in seconds. -/
def maxDelay : Float := 86400.0

/-- A delay in seconds, clamped to `0 ..= maxDelay`; what is no number counts as zero. -/
def ofDelay (x : Float) : Duration :=
  let x := if x.isNaN then 0.0 else if x < 0.0 then 0.0 else if maxDelay < x then maxDelay else x
  (ofSeconds? x).getD zero

end Duration

end Casebook
