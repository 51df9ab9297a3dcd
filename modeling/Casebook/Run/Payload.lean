import Casebook.Json.Writer
import Casebook.Text.Basic
import Casebook.Text.Form
import Casebook.Text.LetterCase

/-! The body of a request, written for a content type. -/
namespace Casebook

/-- What a content type asks of a body. -/
inductive BodyFormat where
  | json
  | html
  | form
  | other
deriving DecidableEq, Repr

def BodyFormat.ofContentType (contentType : String) : BodyFormat :=
  let name := Text.asciiLower contentType
  if Text.contains "application/json" name then .json
  else if Text.contains "text/html" name then .html
  else if Text.contains "urlencoded" name || Text.contains "text/plain" name then .form
  else .other

/-- A body that is sent as it is when it is a text, and as JSON otherwise. -/
def Json.Value.rawText : Json.Value → String
  | .string s => s
  | v => v.text

/-- A form of pairs, in which blanks stand as escapes too. -/
def formText (pairs : List (String × String)) : String := Text.replaceAll "+" "%20" (Text.Form.encode pairs)

/-- The body of a request; none where there is nothing to send. -/
def BodyFormat.payload? (format : BodyFormat) (body : Json.Value) : Option String :=
  match format, body with
  | .json, v => some v.rawText
  | .html, .string s => some s
  | .html, _ => some ""
  | .form, .object ms => some (formText (ms.map fun (k, v) => (k, v.display)))
  | .form, v => some v.display
  | .other, .null => none
  | .other, v => some v.rawText

/-- The body of a request with a content type. -/
def payload? (body : Json.Value) (contentType : String) : Option String :=
  (BodyFormat.ofContentType contentType).payload? body

end Casebook
