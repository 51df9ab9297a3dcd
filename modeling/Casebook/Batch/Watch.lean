import Casebook.Run.Repository

/-! Watching the requested status of a user while a batch runs, until the user is no longer running. -/
namespace Casebook

/-- What the watch meets: a look at the status, or the end of the batch. -/
inductive Signal where
  | shutdown
  | poll (result : Except RepositoryError Status)

structure Watch where
  /-- Whether an interrupt was seen. -/
  tripped : Bool
  ended : Bool
  polls : Nat
deriving DecidableEq, Repr

namespace Watch

def start : Watch := ⟨false, false, 0⟩

/-- A look at the status: failures are passed over, an interrupt trips, and all but a running user ends the watch. -/
def look (w : Watch) : Except RepositoryError Status → Watch
  | .error _ | .ok .running => { w with polls := w.polls + 1 }
  | .ok .interrupt => ⟨true, true, w.polls + 1⟩
  | .ok _ => ⟨w.tripped, true, w.polls + 1⟩

def step (w : Watch) (s : Signal) : Watch :=
  if w.ended then w
  else match s with
    | .shutdown => { w with ended := true }
    | .poll result => w.look result

/-- The watch after signals in their order. -/
def run (signals : List Signal) : Watch := signals.foldl step start

end Watch

end Casebook
