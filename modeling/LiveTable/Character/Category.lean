import LiveTable.Character.Category.Table
import LiveTable.Character.Edition

namespace LiveTable.Character

inductive Category where
  | upper | lower | title | modifierLetter | otherLetter
  | markWithoutSpace | markWithSpace | enclosingMark
  | decimal | letterNumber | otherNumber
  | connector | dash | opening | closing | initialQuote | finalQuote | otherPunctuation
  | mathSymbol | currency | modifierSymbol | otherSymbol
  | space | lineSeparator | paragraphSeparator
  | control | format | privateUse | unassigned
deriving DecidableEq

namespace Category

def assigned : List Category := [
  .upper, .lower, .title, .modifierLetter, .otherLetter, .markWithoutSpace, .markWithSpace,
  .enclosingMark, .decimal, .letterNumber, .otherNumber, .connector, .dash, .opening, .closing,
  .initialQuote, .finalQuote, .otherPunctuation, .mathSymbol, .currency, .modifierSymbol,
  .otherSymbol, .space, .lineSeparator, .paragraphSeparator, .control, .format, .privateUse]

def runs : Category → List Nat
  | upper => upperRuns
  | lower => lowerRuns
  | title => titleRuns
  | modifierLetter => modifierLetterRuns
  | otherLetter => otherLetterRuns
  | markWithoutSpace => markWithoutSpaceRuns
  | markWithSpace => markWithSpaceRuns
  | enclosingMark => enclosingMarkRuns
  | decimal => decimalRuns
  | letterNumber => letterNumberRuns
  | otherNumber => otherNumberRuns
  | connector => connectorRuns
  | dash => dashRuns
  | opening => openingRuns
  | closing => closingRuns
  | initialQuote => initialQuoteRuns
  | finalQuote => finalQuoteRuns
  | otherPunctuation => otherPunctuationRuns
  | mathSymbol => mathSymbolRuns
  | currency => currencyRuns
  | modifierSymbol => modifierSymbolRuns
  | otherSymbol => otherSymbolRuns
  | space => spaceRuns
  | lineSeparator => lineSeparatorRuns
  | paragraphSeparator => paragraphSeparatorRuns
  | control => controlRuns
  | format => formatRuns
  | privateUse => privateUseRuns
  | unassigned => []

def uncasedLater : CharSet := .range 0x295 0x295

def set (e : Edition) (g : Category) : CharSet :=
  match g, e with
  | unassigned, _ => (CharSet.unions (assigned.map fun g => e.restrict (.ofRuns g.runs))).complement
  | lower, .sixteenth => (e.restrict (.ofRuns lowerRuns)).union uncasedLater
  | otherLetter, .sixteenth => (e.restrict (.ofRuns otherLetterRuns)).diff uncasedLater
  | g, e => e.restrict (.ofRuns g.runs)

def sets (e : Edition) (gs : List Category) : CharSet := .unions (gs.map (set e))

def cased : List Category := [.upper, .lower, .title]

def letters : List Category := cased ++ [.modifierLetter, .otherLetter]

def marks : List Category := [.markWithoutSpace, .markWithSpace, .enclosingMark]

def numbers : List Category := [.decimal, .letterNumber, .otherNumber]

def punctuation : List Category :=
  [.connector, .dash, .opening, .closing, .initialQuote, .finalQuote, .otherPunctuation]

def symbols : List Category := [.mathSymbol, .currency, .modifierSymbol, .otherSymbol]

def separators : List Category := [.space, .lineSeparator, .paragraphSeparator]

def others : List Category := [.control, .format, .privateUse, .unassigned]

def named : List (List String × List Category) := [
  (["l", "letter"], letters), (["lc", "casedletter"], cased),
  (["lu", "uppercaseletter"], [upper]), (["ll", "lowercaseletter"], [lower]),
  (["lt", "titlecaseletter"], [title]), (["lm", "modifierletter"], [modifierLetter]),
  (["lo", "otherletter"], [otherLetter]),
  (["m", "mark", "combiningmark"], marks), (["mn", "nonspacingmark"], [markWithoutSpace]),
  (["mc", "spacingmark"], [markWithSpace]), (["me", "enclosingmark"], [enclosingMark]),
  (["n", "number"], numbers), (["nd", "decimalnumber", "digit"], [decimal]),
  (["nl", "letternumber"], [letterNumber]), (["no", "othernumber"], [otherNumber]),
  (["p", "punctuation", "punct"], punctuation), (["pc", "connectorpunctuation"], [connector]),
  (["pd", "dashpunctuation"], [dash]), (["ps", "openpunctuation"], [opening]),
  (["pe", "closepunctuation"], [closing]), (["pi", "initialpunctuation"], [initialQuote]),
  (["pf", "finalpunctuation"], [finalQuote]), (["po", "otherpunctuation"], [otherPunctuation]),
  (["s", "symbol"], symbols), (["sm", "mathsymbol"], [mathSymbol]),
  (["sc", "currencysymbol"], [currency]), (["sk", "modifiersymbol"], [modifierSymbol]),
  (["so", "othersymbol"], [otherSymbol]),
  (["z", "separator"], separators), (["zs", "spaceseparator"], [space]),
  (["zl", "lineseparator"], [lineSeparator]), (["zp", "paragraphseparator"], [paragraphSeparator]),
  (["c", "other"], others), (["cc", "control", "cntrl"], [control]), (["cf", "format"], [format]),
  (["co", "privateuse"], [privateUse]), (["cn", "unassigned"], [unassigned])]

end Category

end LiveTable.Character
