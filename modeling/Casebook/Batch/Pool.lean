/-! A pool of workers.  Its master hands out jobs in their order while it awaits fewer messages than there are workers,
and takes in messages otherwise; a worker that is done with a job sends one.  Each message names the position of its
job, where the answer is kept. -/
namespace Casebook

structure Pool (α β : Type) where
  /-- The jobs that were not handed out yet. -/
  pending : List (Nat × α)
  /-- How many messages the master waits for. -/
  awaited : Nat
  /-- The jobs that workers are at. -/
  running : List (Nat × α)
  /-- The messages that were not taken in yet, the oldest first. -/
  sent : List (Nat × β)
  /-- The answers that were taken in, at the positions of their jobs. -/
  slots : List (Option β)

namespace Pool

variable {α β : Type}

/-- A pool before its first job, the jobs numbered by position. -/
def ofJobs (jobs : List α) : Pool α β :=
  { pending := jobs.mapIdx fun i a => (i, a), awaited := 0, running := [], sent := [],
    slots := List.replicate jobs.length none }

/-- The pool after its master handed out the next job. -/
def started (p : Pool α β) : Pool α β :=
  match p.pending with
  | [] => p
  | job :: rest => { p with pending := rest, awaited := p.awaited + 1, running := p.running ++ [job] }

/-- The pool after the worker at a place sent its answer. -/
def answered (place : Nat) (answer : β) (p : Pool α β) : Pool α β :=
  match p.running[place]? with
  | none => p
  | some (job, _) => { p with running := p.running.eraseIdx place, sent := p.sent ++ [(job, answer)] }

/-- The pool after its master took in the oldest message. -/
def received (p : Pool α β) : Pool α β :=
  match p.sent with
  | [] => p
  | (job, answer) :: rest =>
    { p with awaited := p.awaited - 1, sent := rest, slots := p.slots.set job (some answer) }

/-- The place of the worker that a schedule picks, counted around. -/
def place (choice : Nat) (p : Pool α β) : Nat := choice % p.running.length

/-- The answers in the order of their jobs. -/
def answers (p : Pool α β) : List β := p.slots.filterMap id

end Pool

end Casebook
