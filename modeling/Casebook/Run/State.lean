import Casebook.Run.Journal
import Casebook.Run.Notice
import Casebook.Run.Repository

/-! The state of a run.  A run is halted when its stop token was tripped, or when it was latched; it stays so. -/
namespace Casebook

structure RunState (σ : Type) where
  latch : Option Halt
  /-- The stop token, which runs of one batch share. -/
  tripped : Bool
  /-- The environments looked up so far. -/
  environments : List (EnvId × Environment)
  scope : Scope
  /-- How many nested steps are being attempted. -/
  depth : Nat
  journal : Array Entry
  notices : Array Notice
  world : σ

/-- What ends a run before its report. -/
inductive Abort where
  /-- A step of that kind lies deeper than its limit. -/
  | tooDeep (kind : StepKind) (limit : UInt32)
  | repository (cause : RepositoryError)
  /-- The transport broke down. -/
  | panic
  /-- A loop without bound outlasted the patience of the engine. -/
  | exhausted
deriving DecidableEq, Repr

/-- What nests too deep. -/
def StepKind.nesting : StepKind → String
  | .caseRef => "case reference"
  | kind => kind.name

def Abort.message : Abort → String
  | .tooDeep kind limit => kind.nesting ++ " nesting exceeds " ++ toString limit ++ " levels"
  | .repository cause => cause.message
  | .panic => "case execution panicked"
  | .exhausted => "loop without end"

namespace RunState

variable {σ : Type}

/-- A run at its start. -/
def start (scope : Scope) (tripped : Bool) (world : σ) : RunState σ :=
  { latch := none, tripped, environments := [], scope, depth := 0, journal := #[], notices := #[], world }

/-- The start of another run in the same surroundings: it shares the stop token and the records. -/
def fresh (scope : Scope) (s : RunState σ) : RunState σ := { s with latch := none, environments := [], scope }

def status (s : RunState σ) : Status :=
  if s.tripped then .interrupt else (s.latch.map Halt.status).getD .running

/-- Whether no further step may start. -/
def isHalted (s : RunState σ) : Bool := s.status.isHalted

theorem isHalted_iff (s : RunState σ) : s.isHalted = true ↔ s.tripped = true ∨ s.latch ≠ none := by
  simp only [isHalted, status]
  cases s.tripped <;> rcases s.latch with _ | ⟨_ | _⟩ <;> decide

/-- Halts a run that is not halted yet. -/
def latched (h : Halt) (s : RunState σ) : RunState σ := if s.isHalted then s else { s with latch := some h }

theorem isHalted_latched (h : Halt) (s : RunState σ) : (s.latched h).isHalted = true := by
  unfold latched
  split
  · assumption
  · exact (isHalted_iff _).2 (.inr (by simp))

/-- The state with an event in its journal. -/
def recorded (event : Event) (s : RunState σ) : RunState σ :=
  { s with journal := s.journal.push ⟨event, s.depth, s.isHalted⟩ }

/-- The state after an answer. -/
def answered {α : Type} (reply : Reply α) (world : σ) (s : RunState σ) : RunState σ :=
  { s with
    tripped := s.tripped || reply.trips
    notices := s.notices ++ reply.notices
    world }

/-- The calls made so far. -/
def calls (s : RunState σ) : Array Call := s.journal.filterMap Entry.call?

def noted (n : Notice) (s : RunState σ) : RunState σ := { s with notices := s.notices.push n }

end RunState

/-- A part of a run. -/
abbrev Run (σ : Type) := ExceptT Abort (StateM (RunState σ))

namespace Run

variable {σ α : Type}

def status : Run σ Status := return (← get).status

def isHalted : Run σ Bool := return (← get).isHalted

def scope : Run σ Scope := return (← get).scope

def setScope (scope : Scope) : Run σ Unit := modify fun s => { s with scope }

def note (level : NoticeLevel) (text : String) : Run σ Unit := modify (·.noted ⟨level, text⟩)

def record (event : Event) : Run σ Unit := modify (·.recorded event)

/-- Reports what became of a step. -/
def report (r : StepResult) : Run σ StepResult := do
  record (.reported r)
  return r

/-- Halts the run, unless it is halted already. -/
def latch (halt : Halt) (level : NoticeLevel) (text : String) : Run σ Unit := do
  unless (← isHalted) do
    note level text
    modify fun s => (s.latched halt).recorded (.latched halt)

/-- Ends the run at a failed step. -/
def latchFailedStop : Run σ Unit :=
  latch .failedStop .warn "Step failed with failed-stop enabled; skipping the rest of the run"

/-- Ends this run and no other. -/
def interrupt : Run σ Unit := latch .interrupt .info "Run interrupted"

/-- Makes a call and records it. -/
def call (c : Call) (f : σ → Reply α × σ) : Run σ α :=
  modifyGet fun s =>
    let (reply, world) := f s.world
    (reply.answer, (s.answered reply world).recorded (.called c))

/-- Ends the run where a step lies deeper than the limit of its kind. -/
def overflow (kind : StepKind) (limit : UInt32) : Run σ α := do
  record (.overflowed kind limit)
  throw (.tooDeep kind limit)

/-- A part of a run one nested step deeper, however it ends. -/
def nested (x : Run σ α) : Run σ α := ExceptT.mk fun s =>
  let (r, t) := x.run { s with depth := s.depth + 1 }
  (r, { t with depth := s.depth })

end Run

end Casebook
