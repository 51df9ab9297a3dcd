import Casebook.Pattern.Reader

/-! Finding the first match of a pattern.  A pattern becomes a program whose threads run over the text side by side,
in the order of preference; each instruction is entered at most once between two characters, so the time is linear
in the text. -/
namespace Casebook.Pattern

inductive Instruction where
  | char (set : CharSet)
  | anchor (a : Anchor)
  /-- Goes on in both places; the first one is preferred. -/
  | split (first second : Nat)
  | jump (target : Nat)
  /-- Records the place in the text. -/
  | save (slot : Nat)
  | accept

namespace Node

/-- A choice between going on at `body` and at `exit`. -/
def choice (greedy : Bool) (body exit : Nat) : Instruction :=
  if greedy then .split body exit else .split exit body

/-- Copies of a program part, one behind the other. -/
def copies (part : Nat → List Instruction) : Nat → Nat → List Instruction
  | 0, _ => []
  | n + 1, at_ =>
    let code := part at_
    code ++ copies part n (at_ + code.length)

/-- Up to `n` copies, each of which may be the last. -/
def optionalCopies (greedy : Bool) (part : Nat → List Instruction) (size : Nat) : Nat → Nat → List Instruction
  | 0, _ => []
  | n + 1, at_ =>
    choice greedy (at_ + 1) (at_ + (n + 1) * (size + 1)) ::
      (part (at_ + 1) ++ optionalCopies greedy part size n (at_ + 1 + size))

/-- The instructions of a pattern that is placed at an address; they go on behind their last one. -/
def code : Node → Nat → List Instruction
  | .empty, _ => []
  | .one set, _ => [.char set]
  | .anchor a, _ => [.anchor a]
  | .seq a b, at_ =>
    let first := a.code at_
    first ++ b.code (at_ + first.length)
  | .alt a b, at_ =>
    let first := a.code (at_ + 1)
    let middle := at_ + 1 + first.length + 1
    let second := b.code middle
    .split (at_ + 1) middle :: (first ++ .jump (middle + second.length) :: second)
  | .group number body, at_ =>
    .save (2 * number) :: (body.code (at_ + 1) ++ [.save (2 * number + 1)])
  | .repeat least most greedy body, at_ =>
    let size := (body.code 0).length
    match most with
    | some most =>
      copies body.code least at_ ++
        optionalCopies greedy body.code size (most - least) (at_ + least * size)
    | none =>
      if least = 0 then
        if body.canBeEmpty then
          -- once or more, or not at all: this keeps the preference when the body matches nothing
          let exit := at_ + size + 2
          choice greedy (at_ + 1) exit :: (body.code (at_ + 1) ++ [choice greedy (at_ + 1) exit])
        else
          let exit := at_ + size + 2
          choice greedy (at_ + 1) exit :: (body.code (at_ + 1) ++ [.jump at_])
      else
        let last := at_ + (least - 1) * size
        copies body.code least at_ ++ [choice greedy last (last + size + 1)]

end Node

/-- The places recorded by a thread, newest first. -/
abbrev Marks := List (Nat × Nat)

structure Thread where
  address : Nat
  marks : Marks

/-- Threads in the order of preference, newest first, and the instructions that were entered. -/
structure Front where
  entered : Array Bool
  threads : List Thread

/-- Adds a thread and all that follows from it without reading a character. -/
def Front.add (program : Array Instruction) (before after : Option Char) (place : Nat) :
    Nat → Thread → Front → Front
  | 0, _, front => front
  | fuel + 1, t, front =>
    if front.entered[t.address]?.getD true then front
    else
      let front := { front with entered := front.entered.setIfInBounds t.address true }
      let go := Front.add program before after place fuel
      match program[t.address]? with
      | none => front
      | some (.jump target) => go { t with address := target } front
      | some (.split first second) => go { t with address := second } (go { t with address := first } front)
      | some (.save slot) => go ⟨t.address + 1, (slot, place) :: t.marks⟩ front
      | some (.anchor a) => if a.holds before after then go { t with address := t.address + 1 } front else front
      | some (.char _) | some .accept => { front with threads := t :: front.threads }

/-- The threads that are preferred to the first accepting one, and the marks of that one. -/
def untilAccept (program : Array Instruction) : List Thread → List Thread × Option Marks
  | [] => ([], none)
  | t :: rest =>
    match program[t.address]? with
    | some .accept => ([], some t.marks)
    | _ =>
      let (kept, marks) := untilAccept program rest
      (t :: kept, marks)

/-- Runs threads over the rest of a text; `found` holds the best match so far. -/
def run (program : Array Instruction) : List Char → Option Char → Nat → List Thread → Option Marks → Option Marks
  | rest, before, place, threads, found =>
    let fuel := program.size + 1
    let fresh := Array.replicate program.size false
    let after := rest.head?
    -- threads that wait for a character, each with the instruction behind it
    let front := threads.foldl (fun f t => Front.add program before after place fuel t f) ⟨fresh, []⟩
    let front := if found.isSome then front else Front.add program before after place fuel ⟨0, []⟩ front
    let (alive, marks) := untilAccept program front.threads.reverse
    let found := marks.or found
    match rest with
    | [] => found
    | c :: rest =>
      let moved := alive.filterMap fun (t : Thread) =>
        match program[t.address]? with
        | some (Instruction.char set) => if set.contains c then some { t with address := t.address + 1 } else none
        | _ => none
      if moved.isEmpty && found.isSome then found
      else run program rest (some c) (place + 1) moved found

/-- The program of a whole pattern, which is group zero. -/
def Node.program (node : Node) : Array Instruction :=
  ((Node.group 0 node).code 0 ++ [Instruction.accept]).toArray

/-- The texts of all groups of the first match, that of the whole match first; a group that took no part has none. -/
def Node.captures? (node : Node) (text : String) : Option (List (Option String)) :=
  (run node.program text.toList none 0 [] none).map fun marks =>
    (List.range (node.lastGroup + 1)).map fun k => do
      let start ← marks.lookup (2 * k)
      let stop ← marks.lookup (2 * k + 1)
      some (String.ofList ((text.toList.drop start).take (stop - start)))

end Casebook.Pattern
