import Casebook.Template.Directive
import Casebook.Template.Test
import Casebook.Template.Token

/-! Filters of the template language: `x|upper`, `xs|join(', ')`. -/
namespace Casebook.Template

open Decimal

namespace Value

/-! ### Texts -/

/-- A text that is as safe as the value that it was made of. -/
def like (v : Value) (s : String) : Value := .string s v.isSafe

/-- Starts every word with a capital letter. -/
def titleFrom (start : Bool) : List Char → List Char
  | [] => []
  | c :: rest =>
    let separates := Text.isBlank c || (33 ≤ c.toNat && c.toNat < 127 && !c.isAlphanum)
    if separates then c :: titleFrom true rest
    else if start then Text.upperChar c ++ titleFrom false rest
    else Text.lowerChar c ++ titleFrom false rest

def capitalize (s : String) : String :=
  match s.toList with
  | [] => ""
  | c :: rest => String.ofList (Text.upperChar c) ++ Text.lower (String.ofList rest)

/-- A character as HTML text. -/
def escapeHtmlChar (c : Char) : String :=
  match c with
  | '<' => "&lt;"
  | '>' => "&gt;"
  | '&' => "&amp;"
  | '"' => "&quot;"
  | '\'' => "&#x27;"
  | '/' => "&#x2f;"
  | c => String.singleton c

def escapeHtml (s : String) : String := String.join (s.toList.map escapeHtmlChar)

/-- The text of a value in HTML; a safe text stays as it is. -/
def htmlText : Value → String
  | .string s true => s
  | v => escapeHtml v.display

/-- A value as safe HTML text. -/
def escaped (v : Value) : Value := .string v.htmlText true

/-- Removes one line end. -/
def chomp (s : String) : String := String.ofList (Token.dropLineEnd s.toList)

/-- Indents all lines but the first, which follows `first`; empty lines stay empty unless `blank` holds. -/
def indent (width : Nat) (first blank : Bool) (s : String) : String :=
  let pad := "".pushn ' ' width
  let line (l : String) : String := if l.isEmpty then (if blank then pad else "") else pad ++ l
  match Text.pieces "\n" (chomp s) with
  | [] => ""
  | l :: rest => chomp (String.join (((if first then line l else l) :: rest.map line).map (· ++ "\n")))

/-- Puts a text for another one.  Inside safe HTML both are escaped first. -/
def replace (html : Bool) (v old new : Value) : Value :=
  let put (f : Value → String) : String := Text.replaceAll (f old) (f new) (f v)
  if html && (v.isSafe || old.isSafe || new.isSafe) then .string (put htmlText) true else text (put display)

/-- The members joined by a separator.  Safe members make the whole safe, and the others escaped. -/
def joinWith (html : Bool) (separator : Value) (vs : List Value) : Value :=
  if html && (separator.isSafe || vs.any isSafe) then
    .string (separator.htmlText.intercalate (vs.map htmlText)) true
  else text (separator.display.intercalate (vs.map display))

/-- Arguments in place of the directives of a text. -/
def format (v : Value) (args : Args) : Except Fault Value := do
  let s ← wordOf v
  return v.like (← Directive.fillAll (if v.isSafe then htmlText else display) s args)

/-! ### Numbers -/

/-- A power of ten by repeated squaring, each product rounded. -/
def squareUp : Nat → Float → Float → Nat → Float
  | 0, r, _, _ => r
  | fuel + 1, r, a, b =>
    let r := if b % 2 = 1 then r * a else r
    if b / 2 = 0 then r else squareUp fuel r (a * a) (b / 2)

def floatTenTo (n : Int) : Float :=
  let r := squareUp 64 1.0 10.0 n.natAbs
  if n < 0 then 1.0 / r else r

/-- Rounds to a number of places, halves away from zero. -/
def roundTo (places : Int) (x : Float) : Float :=
  let scale := floatTenTo places
  (scale * x).round / scale

/-- A float cut to an integer of 128 bits; what is no number becomes zero. -/
def wideOfFloat (x : Float) : Value :=
  let n :=
    if x.isNaN then 0
    else if x.isFinite then clampToInt minInt128 maxInt128 x
    else if x < 0.0 then minInt128 else maxInt128
  .int n .signed128

def toInt : Value → Except Fault Value
  | .undefined _ | .null => .ok (ofNat 0)
  | .bool b => .ok (ofNat b.toNat)
  | .int n size => .ok (.int n size)
  | .float x => .ok (wideOfFloat x)
  | .string s _ =>
    match Decimal.intIn? minInt128 maxInt128 s.toList with
    | some n => .ok (.int n .signed128)
    | none =>
      match float? s with
      | some x => .ok (wideOfFloat x)
      | none => .error .invalidOperation
  | _ => .error .invalidOperation

def toFloat : Value → Except Fault Value
  | .undefined _ | .null => .ok (.float 0.0)
  | .string s _ =>
    match float? s with
    | some x => .ok (.float x)
    | none => .error .invalidOperation
  | v =>
    match v.toFloat? true with
    | some x => .ok (.float x)
    | none => .error .invalidOperation

def abs : Value → Except Fault Value
  | .int n size => if 0 ≤ n then .ok (.int n size) else ofWide (-n)
  | .float x => .ok (.float x.abs)
  | _ => .error .invalidOperation

def round (v : Value) (places : Int) : Except Fault Value :=
  match v with
  | .int .. => .ok v
  | .float x => .ok (.float (roundTo places x))
  | _ => .error .invalidOperation

/-! ### Sequences -/

/-- The order of a sort: texts without regard to the case of ASCII letters unless asked for. -/
def sortOrder (caseSensitive : Bool) (a b : Value) : Ordering :=
  match a, b with
  | .string s _, .string t _ =>
    if caseSensitive then compare s t else compare (Text.asciiLower s) (Text.asciiLower t)
  | _, _ => order a b

/-- Rows in the ascending order of their keys, rows with equal keys as they came. -/
def sortRows (caseSensitive : Bool) (rows : List (Value × Value)) : List Value :=
  (rows.mergeSort fun a b => sortOrder caseSensitive a.1 b.1 != .gt).map Prod.snd

/-- Rows in the descending order of their keys, rows with equal keys as they came. -/
def sortRowsDown (caseSensitive : Bool) (rows : List (Value × Value)) : List Value :=
  (rows.mergeSort fun a b => sortOrder caseSensitive a.1 b.1 != .lt).map Prod.snd

/-- The key of a value: itself, the part under a path, or the list of the parts under several paths. -/
def sortKey (paths : Option String) (v : Value) : Value :=
  match paths with
  | none => v
  | some p =>
    match (Text.pieces "," p).map Text.trim with
    | [p] => pathOr missing v p
    | ps => list (ps.map (pathOr missing v))

/-- The key that values are told apart by. -/
def foldCase (caseSensitive : Bool) : Value → Value
  | .string s safe => if caseSensitive then .string s safe else text (Text.lower s)
  | v => v

/-- Keeps the first value of every key. -/
def uniqueRows (rows : List (Value × Value)) : List Value :=
  (rows.foldl (fun (acc : List Value × List Value) row =>
    if acc.1.any fun k => order k row.1 == .eq then acc
    else (row.1 :: acc.1, row.2 :: acc.2)) ([], [])).2.reverse

/-- The first of the least values. -/
def least : List Value → Value
  | [] => missing
  | v :: vs => vs.foldl (fun best w => if order w best == .lt then w else best) v

/-- The last of the greatest values. -/
def greatest : List Value → Value
  | [] => missing
  | v :: vs => vs.foldl (fun best w => if order w best == .lt then best else w) v

/-- Chunks of a size, the last one filled up. -/
def batches (size : Nat) (fill : Option Value) : Nat → List Value → List Value
  | 0, _ => []
  | fuel + 1, vs =>
    if vs.isEmpty then []
    else
      let chunk := vs.take size
      let padding := match fill with
        | some f => List.replicate (size - chunk.length) f
        | none => []
      list (chunk ++ padding) :: batches size fill fuel (vs.drop size)

/-- A number of columns of nearly equal length; the shorter ones are filled up. -/
def columns (count : Nat) (fill : Option Value) (vs : List Value) : List Value :=
  let each := vs.length / count
  let extra := vs.length % count
  (List.range count).map fun i =>
    let start := i * each + min i extra
    let length := if i < extra then each + 1 else each
    let column := (vs.drop start).take length
    list (match fill with
      | some f => if extra ≤ i then column ++ [f] else column
      | none => column)

/-- Neighbours with equal keys, gathered under the key of the last of them. -/
def gatherRows (caseSensitive : Bool) (rows : List (Value × Value)) : List Value :=
  let step (row : Value × Value) (acc : List (Value × Value × List Value)) : List (Value × Value × List Value) :=
    match acc with
    | (first, last, members) :: rest =>
      if sortOrder caseSensitive row.1 first == .eq then (row.1, last, row.2 :: members) :: rest
      else (row.1, row.1, [row.2]) :: (first, last, members) :: rest
    | [] => [(row.1, row.1, [row.2])]
  (rows.foldr step []).map fun (_, key, members) => .seq [key, .seq members .iterator] .group

/-- The part of a value under a key that is a path if it is a text, or a default where it does not exist. -/
def partOr (fallback : Option Value) (p : Value) (v : Value) : Except Fault Value :=
  let found := match p with
    | .string s _ => path v s
    | _ => if v.isUndefined then .error .undefinedValue else .ok (item v p)
  match found, fallback with
  | .ok w, some d => .ok (if w.isUndefined then d else w)
  | .error _, some d => .ok d
  | r, none => r

def pairs : Value → Except Fault (List (Value × Value))
  | .map es _ => .ok es
  | _ => .error .invalidOperation

def pairList (es : List (Value × Value)) : List Value := es.map fun (k, v) => list [k, v]

/-- Spaces before a nested line. -/
def margin (depth : Nat) : String := "".pushn ' ' (4 * depth)

/-- Lines between brackets that stand on lines of their own. -/
def block (opening closing : String) (depth : Nat) (lines : List String) : String :=
  if lines.isEmpty then opening ++ closing
  else opening ++ "\n" ++ String.join (lines.map fun l => margin (depth + 1) ++ l ++ ",\n") ++ margin depth ++ closing

mutual

/-- A value on several lines, one for each member. -/
def pretty (depth : Nat) : Value → String
  | .seq xs .list => block "[" "]" depth (prettyItems (depth + 1) xs)
  | .seq xs .group => block "[" "]" depth (prettyItems (depth + 1) xs)
  | .seq xs .iterator => block "[" "]" depth (prettyItems (depth + 1) xs)
  | .map es _ => block "\x7b" "\x7d" depth (prettyEntries (depth + 1) es)
  | v => v.nestedText

def prettyItems (depth : Nat) : List Value → List String
  | [] => []
  | x :: xs => pretty depth x :: prettyItems depth xs

def prettyEntries (depth : Nat) : List (Value × Value) → List String
  | [] => []
  | (k, v) :: es => (k.nestedText ++ ": " ++ pretty depth v) :: prettyEntries depth es

end

def reversed : Value → Except Fault Value
  | .undefined s => .ok (.undefined s)
  | .null => .ok .null
  | .string s _ => .ok (text (String.ofList s.toList.reverse))
  | .map es _ => .ok (.seq (es.map Prod.fst).reverse .iterator)
  | .repeated xs times => .ok (.repeated xs.reverse times)
  | .seq xs _ => .ok (.seq xs.reverse .iterator)
  | _ => .error .invalidOperation

/-- The first member, character or key. -/
def first : Value → Except Fault Value
  | .string s _ => .ok ((s.toList.head?.map fun c => text (String.singleton c)).getD missing)
  | .map es _ => .ok ((es.head?.map Prod.fst).getD missing)
  | .repeated xs times => .ok (if times = 0 then missing else xs.head?.getD missing)
  | .seq xs _ => .ok (xs.head?.getD missing)
  | _ => .error .invalidOperation

/-- The last member or character. -/
def last : Value → Except Fault Value
  | .string s _ => .ok ((s.toList.getLast?.map fun c => text (String.singleton c)).getD missing)
  | .repeated xs times => .ok (if times = 0 then missing else xs.getLast?.getD missing)
  | .seq xs _ => .ok (xs.getLast?.getD missing)
  | _ => .error .invalidOperation

/-- Lists that are as long as the shortest of some lists, made of their members place by place. -/
def zipRows : Nat → List (List Value) → List Value
  | 0, _ => []
  | fuel + 1, rows =>
    if rows.isEmpty || rows.any List.isEmpty then []
    else list (rows.map fun r => r.headD .null) :: zipRows fuel (rows.map List.tail)

def zip (vs : List Value) : Except Fault Value := do
  let lists ← vs.mapM walk
  let known := vs.any fun v => v.size?.isSome
  return .seq (zipRows lists.flatten.length lists) (if known then .iterator else .stream)

/-- The members of some values up to the first that has none; whether there is such a value. -/
def walkAll : List Value → List Value × Bool
  | [] => ([], false)
  | v :: vs =>
    match v.walk with
    | .ok xs =>
      let (ys, broken) := walkAll vs
      (xs ++ ys, broken)
    | .error _ => ([], true)

/-- Maps become one map, in which later entries win, lists one list, and others a stream. -/
def chain (vs : List Value) : Value :=
  if vs.all (isOfKind .map) then ofEntries (vs.flatMap fun v => (pairs v).toOption.getD [])
  else
    let (xs, broken) := walkAll vs
    .seq xs (if vs.all (isOfKind .sequence) then .list else if broken then .brokenStream else .stream)

/-- The total of numbers; what does not exist counts for nothing. -/
def sum (vs : List Value) : Except Fault Value :=
  vs.foldlM (fun total w =>
    if w.isUndefined then .ok total
    else if w.kind ≠ .number then .error .invalidOperation
    else add total w) (ofNat 0)

/-- The pieces of a text: between separators, or its words. -/
def split (s : String) (separator : Option String) (limit : Option Nat) : Value :=
  let pieces := match separator, limit with
    | none, none => Text.words s
    | none, some n => Text.wordsUpTo n s
    | some "", none => Text.letters s
    | some "", some n => Text.lettersUpTo n s
    | some d, none => Text.pieces d s
    | some d, some n => Text.piecesUpTo n d s
  .seq (pieces.map text) .stream

/-! ### Filters -/

/-- A sequence whose absence is an operation that makes no sense. -/
def listed (v : Value) : Except Fault (List Value) :=
  match v.iterate with
  | .ok xs => .ok xs
  | .error _ => .error .invalidOperation

/-- Filters of texts that take no arguments. -/
def textFilter? : String → Option (String → String)
  | "lower" => some Text.lower
  | "upper" => some Text.upper
  | "title" => some fun s => String.ofList (titleFrom true s.toList)
  | "capitalize" => some capitalize
  | _ => none

/-- Filters of values that take no arguments. -/
def valueFilter? : String → Option (Value → Except Fault Value)
  | "safe" => some fun v => do return .string (← textOf v) true
  | "escape" | "e" => some fun v => .ok v.escaped
  | "length" | "count" => some fun v =>
    match v.size? with
    | some n => .ok (ofNat n)
    | none => .error .invalidOperation
  | "items" => some fun v => do return .seq (pairList (← pairs v)) .iterator
  | "reverse" => some reversed
  | "lines" => some fun v => do return list ((Text.lines (← wordOf v)).map text)
  | "abs" => some abs
  | "int" => some toInt
  | "float" => some toFloat
  | "first" => some first
  | "last" => some last
  | "min" => some fun v => least <$> v.listed
  | "max" => some fun v => greatest <$> v.listed
  | "list" => some fun v => list <$> v.listed
  | "bool" => some fun v => .ok (.bool v.truthy)
  | "string" => some stringOf
  | "pprint" => some fun v => .ok (text (pretty 0 v))
  | "sum" => some fun v => do sum (← v.iterate)
  | _ => none

def sortBy (v : Value) (named : Named) : Except Fault Value := do
  let vs ← v.listed
  let sensitive := (← named.optional "case_sensitive" flagOf).getD false
  let paths ← named.optional "attribute" wordOf
  let down := (← named.optional "reverse" flagOf).getD false
  named.only ["case_sensitive", "attribute", "reverse"]
  let rows := vs.map fun w => (sortKey paths w, w)
  return list (if down then sortRowsDown sensitive rows else sortRows sensitive rows)

def uniqueBy (v : Value) (named : Named) : Except Fault Value := do
  let vs ← v.iterate
  let paths ← named.optional "attribute" wordOf
  let sensitive := (← named.optional "case_sensitive" flagOf).getD false
  named.only ["attribute", "case_sensitive"]
  let key (w : Value) : Value := match paths with
    | some p => pathOr missing w p
    | none => w
  return list (uniqueRows (vs.map fun w => (foldCase sensitive (key w), w)))

def groupBy (v : Value) (place? : Option String) (named : Named) : Except Fault Value := do
  let fallback := (← named.optional "default" any).getD missing
  let sensitive := (← named.optional "case_sensitive" flagOf).getD false
  let (p, names) ← match place? with
    | some p => pure (p, [])
    | none =>
      match named.get? "attribute" with
      | some p => pure (← wordOf p, ["attribute"])
      | none => throw .missingArgument
  let vs ← v.walk
  named.only (["default", "case_sensitive"] ++ names)
  let rows := (vs.map fun w => (pathOr fallback w p, w)).mergeSort fun a b => sortOrder sensitive a.1 b.1 != .gt
  return list (gatherRows sensitive rows)

def dictSort (v : Value) (named : Named) : Except Fault Value := do
  let es ← pairs v
  let byValue := (← named.optional "by" wordOf) == some "value"
  let sensitive := (← named.optional "case_sensitive" flagOf).getD false
  let down := (← named.optional "reverse" flagOf).getD false
  named.only ["by", "case_sensitive", "reverse"]
  let sorted := sortRows sensitive (es.map fun (k, w) => (if byValue then w else k, list [k, w]))
  return list (if down then sorted.reverse else sorted)

/-- The arguments of `indent`, by place or by name. -/
def indentBy (v : Value) (args : Args) : Except Fault Value := do
  let s ← textOf v
  let (plain, named) := args.split
  let (width, first, blank) ← Take.all plain do
    return (← Take.optional natOf, ← Take.optional flagOf, ← Take.optional flagOf)
  named.only ["width", "first", "blank"]
  let width := width.or (← named.optional "width" natOf)
  let first := first.or (← named.optional "first" flagOf)
  let blank := blank.or (← named.optional "blank" flagOf)
  return v.like (indent (width.getD 4) (first.getD false) (blank.getD false) s)

/-- A filter that takes arguments by place. -/
def placeFilter (html : Bool) (name : String) (v : Value) (args : Args) : Except Fault Value :=
  match name with
  | "replace" => do
    let w ← stringOf v
    let (old, new) ← Take.all args do return (← Take.required stringOf, ← Take.required stringOf)
    return replace html w old new
  | "trim" => do
    let s ← textOf v
    match ← Take.all args (Take.optional textOf) with
    | some set => return v.like (Text.trimWith set.toList.contains s)
    | none => return v.like (Text.trim s)
  | "join" => do
    let separator ← Take.all args (Take.optional stringOf)
    match v with
    | .undefined _ | .null => return text ""
    | _ => return joinWith html (separator.getD (text "")) (← v.listed)
  | "split" => do
    let s ← wordOf v
    let (separator, limit) ← Take.all args do return (← Take.optional wordOf, ← Take.optional longOf)
    return split s separator ((limit.filter (0 ≤ ·)).map Int.toNat)
  | "default" | "d" => do
    let (other, lax) ← Take.all args do return (← Take.optional any, ← Take.optional flagOf)
    return if v.isUndefined || (lax.getD false && !v.truthy) then other.getD (text "") else v
  | "round" => do
    let places ← Take.all args (Take.optional (intOf (-2147483648) 2147483647))
    round v (places.getD 0)
  | "attr" => do
    let key ← Take.all args (Take.required any)
    if v.isUndefined then throw .undefinedValue
    return item v key
  | "slice" => do
    let (n, fill) ← Take.all args do return (← Take.required natOf, ← Take.optional any)
    if n = 0 then throw .invalidOperation
    return list (columns n fill (← v.iterate))
  | "batch" => do
    let (n, fill) ← Take.all args do return (← Take.required natOf, ← Take.optional any)
    if n = 0 then throw .invalidOperation
    let vs ← v.iterate
    return list (batches n fill vs.length vs)
  | "select" => do return list (← selectBy false none args (← v.iterate))
  | "reject" => do return list (← selectBy true none args (← v.iterate))
  | "selectattr" | "rejectattr" => do
    let (p, more) ← (Take.required textOf).run args
    return list (← selectBy (name == "rejectattr") (some p) more (← v.iterate))
  | "chain" => .ok (chain (v :: args))
  | "zip" => zip (v :: args)
  | "format" => format v args
  | "indent" => indentBy v args
  | _ => .error .unknownFilter

/-- A filter that takes arguments by name. -/
def namedFilter? (name : String) (v : Value) (args : Args) : Option (Except Fault Value) :=
  let (plain, named) := args.split
  match name with
  | "sort" => some do
    let sorted ← sortBy v named
    Take.nothing plain
    return sorted
  | "unique" => some do
    Take.nothing plain
    uniqueBy v named
  | "dictsort" => some do
    Take.nothing plain
    dictSort v named
  | "groupby" => some do
    let place? ← Take.all plain (Take.optional wordOf)
    groupBy v place? named
  | _ => none

/-- A filter that looks at the value and its own arguments only. -/
def plainFilter (html : Bool) (name : String) (v : Value) (args : Args) : Except Fault Value :=
  match textFilter? name, valueFilter? name, namedFilter? name v args with
  | some f, _, _ => do
    let s ← textOf v
    Take.nothing args
    return v.like (f s)
  | _, some f, _ => do
    Take.nothing args
    f v
  | _, _, some r => r
  | _, _, _ => placeFilter html name v args

/-- Applies a filter.  The filter `map` applies another one, which it names in its arguments, to every member, so
each application inside another has one argument less. -/
def filter (html : Bool) : Nat → String → Value → Args → Except Fault Value
  | 0, _, _, _ => .error .invalidOperation
  | fuel + 1, name, v, args =>
    if name ≠ "map" then plainFilter html name v args
    else do
      let (plain, named) := args.split
      match ← named.optional "attribute" any with
      | some p =>
        if !plain.isEmpty then throw .tooManyArguments
        let fallback := (named.get? "default").filter fun d => !d.isUndefined
        let parts ← (← v.iterate).mapM (partOr fallback p)
        named.only ["attribute", "default"]
        return list parts
      | none =>
        match plain with
        | [] => throw .invalidOperation
        | f :: rest =>
          let inner ← wordOf f
          if !filterNames.contains inner then throw .unknownFilter
          return list (← (← v.iterate).mapM fun w => filter html fuel inner w rest)

end Value

end Casebook.Template
