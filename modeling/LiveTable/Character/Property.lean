import LiveTable.Character.Case
import LiveTable.Character.Category
import LiveTable.Character.Property.Table

namespace LiveTable.Character

inductive Property where
  | asciiHexDigit | alphabetic | bidiControl | caseIgnorable | cased
  | changesWhenCasefolded | changesWhenCasemapped | changesWhenLowercased | changesWhenTitlecased
  | changesWhenUppercased
  | dash | defaultIgnorable | deprecated | diacritic
  | emoji | emojiComponent | emojiModifier | emojiModifierBase | emojiPresentation
  | extendedPictographic | extender | graphemeBase | graphemeExtend | graphemeLink | hexDigit
  | hyphen | idCompatMathContinue | idCompatMathStart | idContinue | idStart | ideographic
  | idsBinaryOperator | idsTrinaryOperator | idsUnaryOperator | joinControl | logicalOrderException
  | lowercase | math | modifierCombiningMark | noncharacter
  | otherAlphabetic | otherDefaultIgnorable | otherGraphemeExtend | otherIdContinue | otherIdStart
  | otherLowercase | otherMath | otherUppercase
  | patternSyntax | patternWhiteSpace | prependedConcatenationMark | quotationMark | radical
  | regionalIndicator | sentenceTerminal | softDotted | terminalPunctuation | unifiedIdeograph
  | uppercase | variationSelector | whiteSpace | xidContinue | xidStart
deriving DecidableEq

namespace Property

def killerRanges : List (Nat × Nat) := [
    (0x94d, 0x94d), (0x9cd, 0x9cd), (0xa4d, 0xa4d), (0xacd, 0xacd), (0xb4d, 0xb4d), (0xbcd, 0xbcd),
    (0xc4d, 0xc4d), (0xccd, 0xccd), (0xd3b, 0xd3c), (0xd4d, 0xd4d), (0xdca, 0xdca), (0xe3a, 0xe3a),
    (0xeba, 0xeba), (0xf84, 0xf84), (0x1039, 0x103a), (0x1714, 0x1715), (0x1734, 0x1734),
    (0x17d2, 0x17d2), (0x1a60, 0x1a60), (0x1b44, 0x1b44), (0x1baa, 0x1bab), (0x1bf2, 0x1bf3),
    (0x2d7f, 0x2d7f), (0xa806, 0xa806), (0xa82c, 0xa82c), (0xa8c4, 0xa8c4), (0xa953, 0xa953),
    (0xa9c0, 0xa9c0), (0xaaf6, 0xaaf6), (0xabed, 0xabed), (0x10a3f, 0x10a3f), (0x11046, 0x11046),
    (0x11070, 0x11070), (0x1107f, 0x1107f), (0x110b9, 0x110b9), (0x11133, 0x11134), (0x111c0, 0x111c0),
    (0x11235, 0x11235), (0x112ea, 0x112ea), (0x1134d, 0x1134d), (0x113ce, 0x113d0), (0x11442, 0x11442),
    (0x114c2, 0x114c2), (0x115bf, 0x115bf), (0x1163f, 0x1163f), (0x116b6, 0x116b6), (0x1172b, 0x1172b),
    (0x11839, 0x11839), (0x1193d, 0x1193e), (0x119e0, 0x119e0), (0x11a34, 0x11a34), (0x11a47, 0x11a47),
    (0x11a99, 0x11a99), (0x11c3f, 0x11c3f), (0x11d44, 0x11d45), (0x11d97, 0x11d97), (0x11f41, 0x11f42),
    (0x1612f, 0x1612f)]

def hyphenRanges : List (Nat × Nat) := [
    (0x2d, 0x2d), (0xad, 0xad), (0x58a, 0x58a), (0x1806, 0x1806), (0x2010, 0x2011), (0x2e17, 0x2e17),
    (0x30fb, 0x30fb), (0xfe63, 0xfe63), (0xff0d, 0xff0d), (0xff65, 0xff65)]

def mathStartRanges : List (Nat × Nat) := [
    (0x2202, 0x2202), (0x2207, 0x2207), (0x221e, 0x221e), (0x1d6c1, 0x1d6c1), (0x1d6db, 0x1d6db),
    (0x1d6fb, 0x1d6fb), (0x1d715, 0x1d715), (0x1d735, 0x1d735), (0x1d74f, 0x1d74f), (0x1d76f, 0x1d76f),
    (0x1d789, 0x1d789), (0x1d7a9, 0x1d7a9), (0x1d7c3, 0x1d7c3)]

def mathContinueRanges : List (Nat × Nat) := [
    (0xb2, 0xb3), (0xb9, 0xb9), (0x2070, 0x2070), (0x2074, 0x207e), (0x2080, 0x208e)]

def modifierMarkRanges : List (Nat × Nat) := [
    (0x654, 0x655), (0x658, 0x658), (0x6dc, 0x6dc), (0x6e3, 0x6e3), (0x6e7, 0x6e8), (0x8ca, 0x8cb),
    (0x8cd, 0x8cf), (0x8d3, 0x8d3), (0x8f3, 0x8f3)]

def prependedRanges : List (Nat × Nat) := [
    (0x600, 0x605), (0x6dd, 0x6dd), (0x70f, 0x70f), (0x890, 0x891), (0x8e2, 0x8e2), (0x110bd, 0x110bd),
    (0x110cd, 0x110cd)]

def nameStartRanges : List (Nat × Nat) := [
    (0x1885, 0x1886), (0x2118, 0x2118), (0x212e, 0x212e), (0x309b, 0x309c)]

def nameContinueRanges : List (Nat × Nat) := [
    (0xb7, 0xb7), (0x387, 0x387), (0x1369, 0x1371), (0x19da, 0x19da), (0x200c, 0x200d),
    (0x30fb, 0x30fb), (0xff65, 0xff65)]

def unstableRanges : List (Nat × Nat) := [
    (0x37a, 0x37a), (0x309b, 0x309c), (0xfc5e, 0xfc63), (0xfdfa, 0xfdfb), (0xfe70, 0xfe70),
    (0xfe72, 0xfe72), (0xfe74, 0xfe74), (0xfe76, 0xfe76), (0xfe78, 0xfe78), (0xfe7a, 0xfe7a),
    (0xfe7c, 0xfe7c), (0xfe7e, 0xfe7e)]

def unstableStartRanges : List (Nat × Nat) := [
    (0xe33, 0xe33), (0xeb3, 0xeb3), (0xff9e, 0xff9f)]

def titledRanges : List (Nat × Nat) := [
    (0x1c5, 0x1c5), (0x1c8, 0x1c8), (0x1cb, 0x1cb), (0x1f2, 0x1f2), (0x10d0, 0x10fa), (0x10fd, 0x10ff),
    (0x1f88, 0x1f8f), (0x1f98, 0x1f9f), (0x1fa8, 0x1faf), (0x1fbc, 0x1fbc), (0x1fcc, 0x1fcc),
    (0x1ffc, 0x1ffc)]

def untitledRanges : List (Nat × Nat) := [
    (0x1c4, 0x1c4), (0x1c7, 0x1c7), (0x1ca, 0x1ca), (0x1f1, 0x1f1)]

def composedRanges : List (Nat × Nat) := [(0x1fbe, 0x1fbe), (0x1fd3, 0x1fd3), (0x1fe3, 0x1fe3)]

def marks : CharSet := .ofRuns patternMarkRuns

def patternBlanks : CharSet := ⟨[(9, 13), (0x20, 0x20), (0x85, 0x85), (0x200e, 0x200f), (0x2028, 0x2029)]⟩

def blanks : CharSet := ⟨[
    (9, 13), (0x20, 0x20), (0x85, 0x85), (0xa0, 0xa0), (0x1680, 0x1680), (0x2000, 0x200a),
    (0x2028, 0x2029), (0x202f, 0x202f), (0x205f, 0x205f), (0x3000, 0x3000)]⟩

def variationRanges : CharSet := ⟨[(0x180b, 0x180d), (0x180f, 0x180f), (0xfe00, 0xfe0f), (0xe0100, 0xe01ef)]⟩

def visibleFormats : CharSet :=
  CharSet.union ⟨[(0xfff9, 0xfffb), (0x13430, 0x1345f)]⟩ ⟨prependedRanges⟩

def lowercaseSet (e : Edition) : CharSet :=
  (Category.set e .lower).union (e.restrict (.ofRuns lowercaseRuns))

def uppercaseSet (e : Edition) : CharSet := (Category.set e .upper).union (.ofRuns uppercaseRuns)

def alphabeticSet (e : Edition) : CharSet :=
  (Category.sets e (.letterNumber :: Category.letters)).union (e.restrict (.ofRuns alphabeticRuns))

def graphemeExtendSet (e : Edition) : CharSet :=
  (Category.sets e [.markWithoutSpace, .enclosingMark]).union (e.restrict (.ofRuns graphemeExtendRuns))

def lowers (e : Edition) : CharSet := (points ((e.pairs lowerCaseRuns).map (·.1))).union (.range 0x130 0x130)

def uppers (e : Edition) : CharSet :=
  (points ((e.pairs lowerCaseRuns).map (·.2))).union (.ofRuns upperByFullMapRuns)

def titles (e : Edition) : CharSet := ((uppers e).diff ⟨titledRanges⟩).union ⟨untitledRanges⟩

def nameStarts (e : Edition) : CharSet :=
  ((Category.sets e (.letterNumber :: Category.letters)).union ⟨nameStartRanges⟩).diff
    (marks.union patternBlanks)

def nameParts (e : Edition) : CharSet :=
  (.unions [nameStarts e,
    Category.sets e [.markWithoutSpace, .markWithSpace, .decimal, .connector],
    ⟨nameContinueRanges⟩] : CharSet).diff (marks.union patternBlanks)

def defaultIgnorableSet (e : Edition) : CharSet :=
  (.unions [.ofRuns defaultIgnorableRuns, Category.set e .format, variationRanges] : CharSet).diff
    (blanks.union visibleFormats)

def set (e : Edition) : Property → CharSet
  | asciiHexDigit => ⟨[(0x30, 0x39), (0x41, 0x46), (0x61, 0x66)]⟩
  | alphabetic => alphabeticSet e
  | bidiControl => ⟨[(0x61c, 0x61c), (0x200e, 0x200f), (0x202a, 0x202e), (0x2066, 0x2069)]⟩
  | caseIgnorable =>
    (Category.sets e [.markWithoutSpace, .enclosingMark, .format, .modifierLetter, .modifierSymbol]).union
      (.ofRuns caseIgnorableRuns)
  | cased => .unions [lowercaseSet e, uppercaseSet e, Category.set e .title]
  | changesWhenCasefolded =>
    ((points ((e.pairs caseFoldRuns).map (·.1))).union (.ofRuns foldByFullMapRuns)).diff (.ofRanges composedRanges)
  | changesWhenCasemapped => .unions [lowers e, uppers e, titles e]
  | changesWhenLowercased => lowers e
  | changesWhenTitlecased => titles e
  | changesWhenUppercased => uppers e
  | dash => e.restrict (.ofRuns dashRuns)
  | defaultIgnorable => defaultIgnorableSet e
  | deprecated => .ofRuns deprecatedRuns
  | diacritic => e.restrict (.ofRuns diacriticRuns)
  | emoji => e.restrict (.ofRuns emojiRuns)
  | emojiComponent => .ofRuns emojiComponentRuns
  | emojiModifier => .range 0x1f3fb 0x1f3ff
  | emojiModifierBase => e.restrict (.ofRuns emojiModifierBaseRuns)
  | emojiPresentation => e.restrict (.ofRuns emojiPresentationRuns)
  | extendedPictographic => .ofRuns pictographicRuns
  | extender => e.restrict (.ofRuns extenderRuns)
  | graphemeBase =>
    (CharSet.union (graphemeExtendSet e)
      (Category.sets e (.lineSeparator :: .paragraphSeparator :: Category.others))).complement
  | graphemeExtend => graphemeExtendSet e
  | graphemeLink => ⟨killerRanges⟩
  | hexDigit => .ofRuns hexDigitRuns
  | hyphen => ⟨hyphenRanges⟩
  | idCompatMathContinue => CharSet.union ⟨mathContinueRanges⟩ ⟨mathStartRanges⟩
  | idCompatMathStart => ⟨mathStartRanges⟩
  | idContinue => nameParts e
  | idStart => nameStarts e
  | ideographic => e.restrict (.ofRuns ideographicRuns)
  | idsBinaryOperator => ⟨[(0x2ff0, 0x2ff1), (0x2ff4, 0x2ffd), (0x31ef, 0x31ef)]⟩
  | idsTrinaryOperator => .range 0x2ff2 0x2ff3
  | idsUnaryOperator => .range 0x2ffe 0x2fff
  | joinControl => .range 0x200c 0x200d
  | logicalOrderException => .ofRuns logicalOrderRuns
  | lowercase => lowercaseSet e
  | math => (Category.set e .mathSymbol).union (.ofRuns mathRuns)
  | modifierCombiningMark => ⟨modifierMarkRanges⟩
  | noncharacter => .ofRuns noncharacterRuns
  | otherAlphabetic => e.restrict (.ofRuns alphabeticRuns)
  | otherDefaultIgnorable => .ofRuns defaultIgnorableRuns
  | otherGraphemeExtend => e.restrict (.ofRuns graphemeExtendRuns)
  | otherIdContinue => ⟨nameContinueRanges⟩
  | otherIdStart => ⟨nameStartRanges⟩
  | otherLowercase => e.restrict (.ofRuns lowercaseRuns)
  | otherMath => .ofRuns mathRuns
  | otherUppercase => .ofRuns uppercaseRuns
  | patternSyntax => marks
  | patternWhiteSpace => patternBlanks
  | prependedConcatenationMark => ⟨prependedRanges⟩
  | quotationMark => .ofRuns quotationRuns
  | radical => .ofRuns radicalRuns
  | regionalIndicator => .range 0x1f1e6 0x1f1ff
  | sentenceTerminal => e.restrict (.ofRuns sentenceEndRuns)
  | softDotted => e.restrict (.ofRuns softDottedRuns)
  | terminalPunctuation => e.restrict (.ofRuns terminalRuns)
  | unifiedIdeograph => e.restrict (.ofRuns unifiedIdeographRuns)
  | uppercase => uppercaseSet e
  | variationSelector => variationRanges
  | whiteSpace => blanks
  | xidContinue => (nameParts e).diff ⟨unstableRanges⟩
  | xidStart => (nameStarts e).diff (CharSet.union ⟨unstableRanges⟩ ⟨unstableStartRanges⟩)

def named : List (List String × Property) := [
  (["ahex", "asciihexdigit"], asciiHexDigit), (["alpha", "alphabetic"], alphabetic),
  (["bidic", "bidicontrol"], bidiControl), (["ci", "caseignorable"], caseIgnorable),
  (["cased"], cased), (["cwcf", "changeswhencasefolded"], changesWhenCasefolded),
  (["cwcm", "changeswhencasemapped"], changesWhenCasemapped),
  (["cwl", "changeswhenlowercased"], changesWhenLowercased),
  (["cwt", "changeswhentitlecased"], changesWhenTitlecased),
  (["cwu", "changeswhenuppercased"], changesWhenUppercased), (["dash"], dash),
  (["di", "defaultignorablecodepoint"], defaultIgnorable), (["dep", "deprecated"], deprecated),
  (["dia", "diacritic"], diacritic), (["emoji"], emoji),
  (["ecomp", "emojicomponent"], emojiComponent), (["emod", "emojimodifier"], emojiModifier),
  (["ebase", "emojimodifierbase"], emojiModifierBase),
  (["epres", "emojipresentation"], emojiPresentation),
  (["extpict", "extendedpictographic"], extendedPictographic), (["ext", "extender"], extender),
  (["grbase", "graphemebase"], graphemeBase), (["grext", "graphemeextend"], graphemeExtend),
  (["grlink", "graphemelink"], graphemeLink), (["hex", "hexdigit"], hexDigit),
  (["hyphen"], hyphen), (["idcompatmathcontinue"], idCompatMathContinue),
  (["idcompatmathstart"], idCompatMathStart), (["idc", "idcontinue"], idContinue),
  (["ids", "idstart"], idStart), (["ideo", "ideographic"], ideographic),
  (["idsb", "idsbinaryoperator"], idsBinaryOperator),
  (["idst", "idstrinaryoperator"], idsTrinaryOperator),
  (["idsu", "idsunaryoperator"], idsUnaryOperator), (["joinc", "joincontrol"], joinControl),
  (["loe", "logicalorderexception"], logicalOrderException), (["lower", "lowercase"], lowercase),
  (["math"], math), (["mcm", "modifiercombiningmark"], modifierCombiningMark),
  (["nchar", "noncharactercodepoint"], noncharacter),
  (["oalpha", "otheralphabetic"], otherAlphabetic),
  (["odi", "otherdefaultignorablecodepoint"], otherDefaultIgnorable),
  (["ogrext", "othergraphemeextend"], otherGraphemeExtend),
  (["oidc", "otheridcontinue"], otherIdContinue), (["oids", "otheridstart"], otherIdStart),
  (["olower", "otherlowercase"], otherLowercase), (["omath", "othermath"], otherMath),
  (["oupper", "otheruppercase"], otherUppercase), (["patsyn", "patternsyntax"], patternSyntax),
  (["patws", "patternwhitespace"], patternWhiteSpace),
  (["pcm", "prependedconcatenationmark"], prependedConcatenationMark),
  (["qmark", "quotationmark"], quotationMark), (["radical"], radical),
  (["ri", "regionalindicator"], regionalIndicator),
  (["sterm", "sentenceterminal"], sentenceTerminal), (["sd", "softdotted"], softDotted),
  (["term", "terminalpunctuation"], terminalPunctuation),
  (["uideo", "unifiedideograph"], unifiedIdeograph), (["upper", "uppercase"], uppercase),
  (["vs", "variationselector"], variationSelector),
  (["wspace", "whitespace", "space"], whiteSpace), (["xidc", "xidcontinue"], xidContinue),
  (["xids", "xidstart"], xidStart)]

end Property

end LiveTable.Character
