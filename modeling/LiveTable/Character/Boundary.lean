import LiveTable.Character.Property
import LiveTable.Character.Script

namespace LiveTable.Character.Boundary

def prefixedLetters : CharSet := ⟨[
  (0xd4e, 0xd4e), (0x111c2, 0x111c3), (0x113d1, 0x113d1), (0x1193f, 0x1193f), (0x11941, 0x11941),
  (0x11a3a, 0x11a3a), (0x11a84, 0x11a89), (0x11d46, 0x11d46), (0x11f02, 0x11f02)]⟩

def looseMarks : CharSet := ⟨[
  (0x102b, 0x102c), (0x1038, 0x1038), (0x1062, 0x1064), (0x1067, 0x106d), (0x1083, 0x1083),
  (0x1087, 0x108c), (0x108f, 0x108f), (0x109a, 0x109c), (0x1a61, 0x1a61), (0x1a63, 0x1a64),
  (0xaa7b, 0xaa7b), (0xaa7d, 0xaa7d), (0x11720, 0x11721)]⟩

def vowels : CharSet := ⟨[
  (0x1160, 0x11a7), (0xd7b0, 0xd7c6), (0x16d63, 0x16d63), (0x16d67, 0x16d6a)]⟩

def openSyllables : CharSet :=
  ⟨(List.range 399).map fun n => (0xac00 + 28 * n, 0xac00 + 28 * n)⟩

def joiners : CharSet := .range 0x200c 0x200d

def joiner : CharSet := .range 0x200d 0x200d

def emojiModifiers : CharSet := .range 0x1f3fb 0x1f3ff

def propertySet (p : Property) : CharSet := p.set .sixteenth

def categorySets (gs : List Category) : CharSet := Category.sets .sixteenth gs

def extenders : CharSet := (propertySet .graphemeExtend).union (categorySets [.markWithSpace])

def numberSigns : CharSet :=
  (propertySet .prependedConcatenationMark).diff (.range 0x70f 0x70f)

def formats : CharSet :=
  ((categorySets [.format]).diff joiners).diff (CharSet.union (propertySet .graphemeExtend) numberSigns)

def digits : CharSet := .unions [categorySets [.decimal], ⟨[(0x19da, 0x19da)]⟩, numberSigns]

inductive Grapheme where
  | carriageReturn | lineFeed | control | extend | joiner | regional | prepended | spacing
  | leading | vowel | trailing | openSyllable | closedSyllable
deriving DecidableEq

namespace Grapheme

def extendSet : CharSet := (propertySet .graphemeExtend).union emojiModifiers

def prependedSet : CharSet := (propertySet .prependedConcatenationMark).union prefixedLetters

def controlSet : CharSet :=
  let ignorable := (categorySets [.unassigned]).inter (propertySet .defaultIgnorable)
  let apart : CharSet := .unions [⟨[(10, 10), (13, 13)]⟩, joiners, prependedSet, extendSet]
  (ignorable.union (categorySets [.control, .format, .lineSeparator, .paragraphSeparator])).diff apart

def spacingSet : CharSet :=
  (((categorySets [.markWithSpace]).diff extendSet).diff looseMarks).union ⟨[(0xe33, 0xe33), (0xeb3, 0xeb3)]⟩

def set : Grapheme → CharSet
  | carriageReturn => .range 13 13
  | lineFeed => .range 10 10
  | control => controlSet
  | extend => extendSet
  | joiner => Boundary.joiner
  | regional => propertySet .regionalIndicator
  | prepended => prependedSet
  | spacing => spacingSet
  | leading => ⟨[(0x1100, 0x115f), (0xa960, 0xa97c)]⟩
  | vowel => vowels
  | trailing => ⟨[(0x11a8, 0x11ff), (0xd7cb, 0xd7fb)]⟩
  | openSyllable => openSyllables
  | closedSyllable => (CharSet.range 0xac00 0xd7a3).diff openSyllables

def named : List (List String × Grapheme) := [
  (["cr"], carriageReturn), (["lf"], lineFeed), (["cn", "control"], control),
  (["ex", "extend"], extend), (["zwj"], joiner), (["ri", "regionalindicator"], regional),
  (["pp", "prepend"], prepended), (["sm", "spacingmark"], spacing), (["l"], leading),
  (["v"], vowel), (["t"], trailing), (["lv"], openSyllable), (["lvt"], closedSyllable)]

end Grapheme

inductive Word where
  | carriageReturn | lineFeed | newline | extend | joiner | regional | format | katakana | hebrew
  | letter | singleQuote | doubleQuote | betweenBoth | betweenLetters | betweenDigits | numeric
  | connector | space
deriving DecidableEq

namespace Word

def katakanaSet : CharSet :=
  ((Script.set? "katakana").getD .empty).union ⟨[
    (0x3031, 0x3035), (0x309b, 0x309c), (0x30a0, 0x30a0), (0x30fc, 0x30fc), (0xff70, 0xff70)]⟩

def hebrewSet : CharSet := ((Script.set? "hebrew").getD .empty).inter (categorySets [.otherLetter])

def letterSigns : CharSet := ⟨[
  (0xb8, 0xb8), (0x2c2, 0x2c5), (0x2d2, 0x2d7), (0x2de, 0x2df), (0x2e5, 0x2eb), (0x2ed, 0x2ed),
  (0x2ef, 0x2ff), (0x55a, 0x55c), (0x55e, 0x55e), (0x58a, 0x58a), (0x5f3, 0x5f3), (0x70f, 0x70f),
  (0xa708, 0xa716), (0xa720, 0xa721), (0xa789, 0xa78a), (0xab5b, 0xab5b)]⟩

def unpartedLetters : CharSet := ⟨[
  (0xe01, 0xe30), (0xe32, 0xe33), (0xe40, 0xe46), (0xe81, 0xe82), (0xe84, 0xe84), (0xe86, 0xe8a),
  (0xe8c, 0xea3), (0xea5, 0xea5), (0xea7, 0xeb0), (0xeb2, 0xeb3), (0xebd, 0xebd), (0xec0, 0xec4),
  (0xec6, 0xec6), (0xedc, 0xedf), (0x1000, 0x102a), (0x103f, 0x103f), (0x1050, 0x1055),
  (0x105a, 0x105d), (0x1061, 0x1061), (0x1065, 0x1066), (0x106e, 0x1070), (0x1075, 0x1081),
  (0x108e, 0x108e), (0x1780, 0x17b3), (0x17d7, 0x17d7), (0x17dc, 0x17dc), (0x1950, 0x196d),
  (0x1970, 0x1974), (0x1980, 0x19ab), (0x19b0, 0x19c9), (0x1a20, 0x1a54), (0x1aa7, 0x1aa7),
  (0xa9e0, 0xa9e4), (0xa9e6, 0xa9ef), (0xa9fa, 0xa9fe), (0xaa60, 0xaa76), (0xaa7a, 0xaa7a),
  (0xaa7e, 0xaaaf), (0xaab1, 0xaab1), (0xaab5, 0xaab6), (0xaab9, 0xaabd), (0xaac0, 0xaac0),
  (0xaac2, 0xaac2), (0xaadb, 0xaadd), (0x11700, 0x1171a), (0x11740, 0x11746)]⟩

def letterSet : CharSet :=
  ((propertySet .alphabetic).union letterSigns).diff (.unions [
    propertySet .ideographic, katakanaSet, (Script.set? "hiragana").getD .empty, hebrewSet,
    extenders, unpartedLetters])

def set : Word → CharSet
  | carriageReturn => .range 13 13
  | lineFeed => .range 10 10
  | newline => ⟨[(11, 12), (0x85, 0x85), (0x2028, 0x2029)]⟩
  | extend => extenders.union emojiModifiers
  | joiner => Boundary.joiner
  | regional => propertySet .regionalIndicator
  | format => formats.diff ⟨[(0x70f, 0x70f), (0x200b, 0x200b)]⟩
  | katakana => katakanaSet
  | hebrew => hebrewSet
  | letter => letterSet
  | singleQuote => .range 0x27 0x27
  | doubleQuote => .range 0x22 0x22
  | betweenBoth => ⟨[
    (0x2e, 0x2e), (0x2018, 0x2019), (0x2024, 0x2024), (0xfe52, 0xfe52), (0xff07, 0xff07),
    (0xff0e, 0xff0e)]⟩
  | betweenLetters => ⟨[
    (0x3a, 0x3a), (0xb7, 0xb7), (0x387, 0x387), (0x55f, 0x55f), (0x5f4, 0x5f4), (0x2027, 0x2027),
    (0xfe13, 0xfe13), (0xfe55, 0xfe55), (0xff1a, 0xff1a)]⟩
  | betweenDigits => ⟨[
    (0x2c, 0x2c), (0x3b, 0x3b), (0x37e, 0x37e), (0x589, 0x589), (0x60c, 0x60d), (0x66c, 0x66c),
    (0x7f8, 0x7f8), (0x2044, 0x2044), (0xfe10, 0xfe10), (0xfe14, 0xfe14), (0xfe50, 0xfe50),
    (0xfe54, 0xfe54), (0xff0c, 0xff0c), (0xff1b, 0xff1b)]⟩
  | numeric => digits.union (.range 0x66b 0x66b)
  | connector => (categorySets [.connector]).union (.range 0x202f 0x202f)
  | space => (categorySets [.space]).diff ⟨[(0xa0, 0xa0), (0x2007, 0x2007), (0x202f, 0x202f)]⟩

def named : List (List String × Word) := [
  (["cr"], carriageReturn), (["lf"], lineFeed), (["nl", "newline"], newline),
  (["extend"], extend), (["zwj"], joiner), (["ri", "regionalindicator"], regional),
  (["fo", "format"], format), (["ka", "katakana"], katakana), (["hl", "hebrewletter"], hebrew),
  (["le", "aletter"], letter), (["sq", "singlequote"], singleQuote),
  (["dq", "doublequote"], doubleQuote), (["mb", "midnumlet"], betweenBoth),
  (["ml", "midletter"], betweenLetters), (["mn", "midnum"], betweenDigits),
  (["nu", "numeric"], numeric), (["ex", "extendnumlet"], connector), (["wsegspace"], space)]

end Word

inductive Sentence where
  | carriageReturn | lineFeed | separator | extend | format | space | lower | upper | letter
  | numeric | fullStop | continuation | terminal | closing
deriving DecidableEq

namespace Sentence

def capitalsWithoutRole : CharSet := ⟨[(0x1c90, 0x1cba), (0x1cbd, 0x1cbf)]⟩

def smallsWithoutRole : CharSet := ⟨[(0x10d0, 0x10fa), (0x10fd, 0x10ff)]⟩

def fullStops : CharSet := ⟨[(0x2e, 0x2e), (0x2024, 0x2024), (0xfe52, 0xfe52), (0xff0e, 0xff0e)]⟩

def lowerSet : CharSet := ((propertySet .lowercase).diff smallsWithoutRole).diff extenders

def upperSet : CharSet :=
  ((propertySet .uppercase).union (categorySets [.title])).diff capitalsWithoutRole

def quotationSigns : CharSet := ⟨[
  (0x275b, 0x2760), (0x2e00, 0x2e01), (0x2e06, 0x2e08), (0x2e0b, 0x2e0b), (0x1f676, 0x1f678)]⟩

def closingSet : CharSet :=
  (CharSet.unions [categorySets [.opening, .closing, .initialQuote, .finalQuote],
    propertySet .quotationMark, quotationSigns]).diff ⟨[(0xff02, 0xff02), (0xff07, 0xff07)]⟩

def set : Sentence → CharSet
  | carriageReturn => .range 13 13
  | lineFeed => .range 10 10
  | separator => ⟨[(0x85, 0x85), (0x2028, 0x2029)]⟩
  | extend => extenders.union joiner
  | format => formats
  | space => (propertySet .whiteSpace).diff ⟨[(10, 10), (13, 13), (0x85, 0x85), (0x2028, 0x2029)]⟩
  | lower => lowerSet
  | upper => upperSet
  | letter =>
    ((propertySet .alphabetic).union (.range 0x5f3 0x5f3)).diff (.unions [lowerSet, upperSet, extenders])
  | numeric => digits.union (.range 0x66b 0x66c)
  | fullStop => fullStops
  | continuation => ⟨[
    (0x2c, 0x2d), (0x3a, 0x3b), (0x37e, 0x37e), (0x55d, 0x55d), (0x60c, 0x60d), (0x7f8, 0x7f8),
    (0x1802, 0x1802), (0x1808, 0x1808), (0x2013, 0x2014), (0x3001, 0x3001), (0xfe10, 0xfe11),
    (0xfe13, 0xfe14), (0xfe31, 0xfe32), (0xfe50, 0xfe51), (0xfe54, 0xfe55), (0xfe58, 0xfe58),
    (0xfe63, 0xfe63), (0xff0c, 0xff0d), (0xff1a, 0xff1b), (0xff64, 0xff64)]⟩
  | terminal => (propertySet .sentenceTerminal).diff fullStops
  | closing => closingSet

def named : List (List String × Sentence) := [
  (["cr"], carriageReturn), (["lf"], lineFeed), (["se", "sep"], separator),
  (["ex", "extend"], extend), (["fo", "format"], format), (["sp"], space),
  (["lo", "lower"], lower), (["up", "upper"], upper), (["le", "oletter"], letter),
  (["nu", "numeric"], numeric), (["at", "aterm"], fullStop), (["sc", "scontinue"], continuation),
  (["st", "sterm"], terminal), (["cl", "close"], closing)]

end Sentence

end LiveTable.Character.Boundary
