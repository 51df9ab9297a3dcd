import Casebook.Text.Basic
import Casebook.Text.Emoji
import Casebook.Text.Property
import Casebook.Text.Script

/-! The properties of characters that a pattern can name. -/
namespace Casebook.Pattern.Property

/-- Sets of characters with the names by which they are known. -/
abbrev Table := List (List String × List (Nat × Nat))

def Table.named? (table : Table) (key : String) : Option (List (Nat × Nat)) :=
  (table.find? fun (names, _) => names.contains key).map Prod.snd

/-- The general categories and the sets that count as such. -/
def categories : Table := [
  (["any"], [(0, 0x10FFFF)]),
  (["ascii"], [(0, 127)]),
  (["assigned"], Text.assignedRanges),
  (["l", "letter"], Text.letterRanges),
  (["lc", "casedletter"], Text.upperCaseRanges ++ Text.lowerCaseRanges ++ Text.titleCaseRanges),
  (["lu", "uppercaseletter"], Text.upperCaseRanges),
  (["ll", "lowercaseletter"], Text.lowerCaseRanges),
  (["lt", "titlecaseletter"], Text.titleCaseRanges),
  (["lm", "modifierletter"], Text.modifierLetterRanges),
  (["lo", "otherletter"], Text.otherLetterRanges),
  (["m", "mark", "combiningmark"], Text.markRanges),
  (["mn", "nonspacingmark"], Text.plainMarkRanges),
  (["mc", "spacingmark"], Text.spacingMarkRanges),
  (["me", "enclosingmark"], Text.enclosingMarkRanges),
  (["n", "number"], Text.numberRanges),
  (["nd", "decimalnumber", "digit"], Text.digitRanges),
  (["nl", "letternumber"], Text.letterNumberRanges),
  (["no", "othernumber"], Text.otherNumberRanges),
  (["p", "punctuation", "punct"], Text.punctuationRanges),
  (["pc", "connectorpunctuation"], Text.connectorRanges),
  (["pd", "dashpunctuation"], Text.dashRanges),
  (["ps", "openpunctuation"], Text.openingRanges),
  (["pe", "closepunctuation"], Text.closingRanges),
  (["pi", "initialpunctuation"], Text.initialQuoteRanges),
  (["pf", "finalpunctuation"], Text.finalQuoteRanges),
  (["po", "otherpunctuation"], Text.otherPunctuationRanges),
  (["s", "symbol"], Text.symbolRanges),
  (["sm", "mathsymbol"], Text.mathSymbolRanges),
  (["sc", "currencysymbol"], Text.currencyRanges),
  (["sk", "modifiersymbol"], Text.modifierSymbolRanges),
  (["so", "othersymbol"], Text.otherSymbolRanges),
  (["z", "separator"], Text.separatorRanges),
  (["zs", "spaceseparator"], Text.spaceRanges),
  (["zl", "lineseparator"], [(0x2028, 0x2028)]),
  (["zp", "paragraphseparator"], [(0x2029, 0x2029)]),
  (["c", "other"], Text.otherRanges),
  (["cc", "control", "cntrl"], Text.controlRanges),
  (["cf", "format"], Text.formatRanges),
  (["co", "privateuse"], Text.privateUseRanges),
  (["cn", "unassigned"], Text.unassignedRanges)]

/-- The properties that a character has or has not. -/
def flags : Table := [
  (["alphabetic", "alpha"], Text.letterRanges ++ Text.letterSignRanges),
  (["uppercase", "upper"], Text.upperCaseRanges ++ Text.upperSignRanges),
  (["lowercase", "lower"], Text.lowerCaseRanges ++ Text.lowerSignRanges),
  (["cased"], Text.upperCaseRanges ++ Text.upperSignRanges ++ Text.lowerCaseRanges ++ Text.lowerSignRanges ++
    Text.titleCaseRanges),
  (["caseignorable", "ci"], Text.caseIgnorableRanges),
  (["whitespace", "wspace", "space"], Text.blankRanges),
  (["dash"], Text.dashLikeRanges),
  (["quotationmark", "qmark"], Text.quotationRanges),
  (["asciihexdigit", "ahex"], [(48, 57), (65, 70), (97, 102)]),
  (["hexdigit", "hex"], Text.hexDigitRanges),
  (["math"], Text.mathRanges),
  (["ideographic", "ideo"], Text.ideographRanges),
  (["unifiedideograph", "uideo"], Text.unifiedIdeographRanges),
  (["radical"], Text.radicalRanges),
  (["joincontrol", "joinc"], Text.joinerRanges),
  (["bidicontrol", "bidic"], Text.directionControlRanges),
  (["patternwhitespace", "patws"], Text.patternBlankRanges),
  (["patternsyntax", "patsyn"], Text.patternSignRanges),
  (["variationselector", "vs"], Text.variationRanges),
  (["regionalindicator", "ri"], Text.regionalRanges),
  (["noncharactercodepoint", "nchar"], Text.noncharacterRanges),
  (["deprecated", "dep"], Text.deprecatedRanges),
  (["defaultignorablecodepoint", "di"], Text.ignorableRanges),
  (["softdotted", "sd"], Text.softDottedRanges),
  (["sentenceterminal", "sterm"], Text.sentenceEndRanges),
  (["terminalpunctuation", "term"], Text.terminalRanges),
  (["extender", "ext"], Text.extenderRanges),
  (["diacritic", "dia"], Text.diacriticRanges),
  (["graphemeextend", "grext"], Text.extendingRanges),
  (["graphemebase", "grbase"], Text.baseRanges),
  (["idstart", "ids"], Text.nameStartRanges),
  (["idcontinue", "idc"], Text.nameRanges),
  (["xidstart", "xids"], Text.without Text.nameStartRanges Text.unstableStartRanges),
  (["xidcontinue", "xidc"], Text.without Text.nameRanges Text.unstableRanges),
  (["emoji"], Text.emojiRanges),
  (["emojipresentation", "epres"], Text.presentationRanges),
  (["emojimodifier", "emod"], [(0x1F3FB, 0x1F3FF)]),
  (["emojimodifierbase", "ebase"], Text.modifierBaseRanges),
  (["emojicomponent", "ecomp"], Text.componentRanges),
  (["extendedpictographic", "extpict"], Text.pictographicRanges)]

/-- A name as it is looked up: in lower case, without blanks, underscores, hyphens, characters outside ASCII and a
leading `is`.  What would leave a single `c` is the name of a comment and of no set. -/
def key (name : List Char) : String :=
  let isLed := (name.take 2).map Char.toLower = ['i', 's']
  let counts (c : Char) : Bool := c.toNat < 128 && c != ' ' && c != '_' && c != '-'
  let letters := ((if isLed then name.drop 2 else name).filter counts).map Char.toLower
  if isLed ∧ letters = ['c'] then "isc" else String.ofList letters

/-- The characters with a property, of a category or of a script. -/
def ranges? (name : List Char) : Option (List (Nat × Nat)) :=
  let key := key name
  ((flags.named? key).or (categories.named? key)).or ((Text.Script.named? key).map (·.ranges))

/-- The characters for which a property has a value. -/
def valueRanges? (name value : List Char) : Option (List (Nat × Nat)) :=
  let name := key name
  let value := key value
  if name = "gc" ∨ name = "generalcategory" then categories.named? value
  else if name = "sc" ∨ name = "script" then (Text.Script.named? value).map (·.ranges)
  else if name = "scx" ∨ name = "scriptextensions" then (Text.Script.named? value).map Text.Script.usedRanges
  else none

/-- The characters that a text in braces stands for: those with a property, or with a value of it.  The sign between
a property and its value makes no difference. -/
def rangesOf? (text : List Char) : Option (List (Nat × Nat)) :=
  match ((Text.breakOn ['!', '='] text).or (Text.breakOn [':'] text)).or (Text.breakOn ['='] text) with
  | some (name, value) => valueRanges? name value
  | none => ranges? text

end Casebook.Pattern.Property
