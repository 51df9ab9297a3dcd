import Casebook.Resolve.LoopBound
import Casebook.Run.Result
import Casebook.Run.Transport

/-! The journal of a run: what happened in it, in the order it happened. -/
namespace Casebook

/-- Why a run was latched. -/
inductive Halt where
  /-- A step failed, and the first failure ends the run. -/
  | failedStop
  | interrupt
deriving DecidableEq, Repr

def Halt.status : Halt → Status
  | .failedStop => .failedStop
  | .interrupt => .interrupt

inductive Event where
  /-- A group comes to a step. -/
  | reached (id : StepId) (label : String)
  /-- An attempt at a step starts; the first one has number zero. -/
  | attempted (label : String) (number : Nat)
  /-- The bound of a loop was found. -/
  | bounded (bound : LoopBound)
  /-- The steps of a referenced case or of a loop are entered at a level. -/
  | entered (kind : StepKind) (level : Nat)
  /-- An iteration of a loop starts. -/
  | iterated (iteration : Nat)
  /-- A call on the outside world was answered. -/
  | called (call : Call)
  /-- A step of that kind lies deeper than its limit. -/
  | overflowed (kind : StepKind) (limit : UInt32)
  /-- The run was halted from inside. -/
  | latched (halt : Halt)
  /-- What became of a step. -/
  | reported (result : StepResult)

namespace Event

def call? : Event → Option Call
  | .called c => some c
  | _ => none

def report? : Event → Option StepResult
  | .reported r => some r
  | _ => none

end Event

/-- An event, with the state of the run right after it. -/
structure Entry where
  event : Event
  /-- How many nested steps are being attempted around it. -/
  depth : Nat
  halted : Bool

namespace Entry

def call? (x : Entry) : Option Call := x.event.call?

def report? (x : Entry) : Option StepResult := x.event.report?

end Entry

end Casebook
