import Casebook.Suite.Basic
import Casebook.Text.Basic

/-! When the cases of a batch started and finished. -/
namespace Casebook

/-- The start of a case, or its finish with a status, at a time in milliseconds. -/
structure Mark where
  label : String
  finished : Option Status
  time : Nat
deriving DecidableEq, Repr

/-- The time from the last start of a case to its finish. -/
structure Span where
  label : String
  start : Nat
  stop : Nat
  status : Status
deriving DecidableEq, Repr

/-- The character that draws a span. -/
def Span.bar (s : Span) : Char := if s.status = .success then '#' else 'x'

namespace Timeline

/-- The spans in the order of their ends, given the starts that wait for one. -/
def spansFrom (starts : Dict Nat) : List Mark → List Span
  | [] => []
  | ⟨label, none, time⟩ :: rest => spansFrom (Dict.insert label time starts) rest
  | ⟨label, some status, time⟩ :: rest =>
    match Dict.get? label starts with
    | some start =>
      ⟨label, start, time, status⟩ :: spansFrom (starts.filter fun s => s.1 != label) rest
    | none => spansFrom starts rest

/-- The spans by ascending start, equal ones in the order of their ends. -/
def spans (marks : List Mark) : List Span := (spansFrom [] marks).mergeSort fun a b => a.start ≤ b.start

/-- How long each case took, the last span of a label counting. -/
def durations (marks : List Mark) : Dict Nat :=
  Dict.ofList ((spans marks).map fun s => (s.label, s.stop - s.start))

/-- A text at a width: filled up with blanks, or cut and ended by three points. -/
def fit (width : Nat) (s : String) : String :=
  if s.length ≤ width then s.pushn ' ' (width - s.length)
  else String.ofList (s.toList.take (width - 3)) ++ "..."

def labelWidth : Nat := 16

/-- The width of the chart. -/
def chartWidth : Nat := 50

/-- The row of a span in a chart of a total time. -/
def row (total : Nat) (s : Span) : String :=
  let offset := s.start * chartWidth / total
  let width := max 1 ((s.stop - s.start) * chartWidth / total)
  fit labelWidth s.label ++ " |" ++ "".pushn ' ' offset ++ "".pushn s.bar width ++ "| (" ++
    toString (s.stop - s.start) ++ " ms, " ++ s.status.name ++ ")"

/-- The lines of the chart of a batch that took a total time. -/
def chart (total : Nat) (marks : List Mark) : List String :=
  ["", "Case Timeline:", ""] ++
    if total = 0 then [] else (spans marks).map (row total) ++ ["", "Total: " ++ toString total ++ " ms"]

end Timeline

end Casebook
