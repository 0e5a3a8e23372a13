import LiveTable.Character.Property

namespace LiveTable.Text

def casedSet : CharSet := Character.Property.set .seventeenth .cased

def caseIgnorableSet : CharSet := Character.Property.set .seventeenth .caseIgnorable

def isCased (c : Char) : Bool := casedSet.contains c

def isCaseIgnorable (c : Char) : Bool := caseIgnorableSet.contains c

def lowerChar (c : Char) : List Char :=
  if c.toNat < 128 then [c.toLower]
  else if c.toNat = 304 then ['i', Char.ofNat 775]
  else [Char.ofNat (Character.lowerPoint c.toNat)]

-- A sigma that follows a letter and precedes none, signs between them aside, ends a word.
def endsWord (before after : List Char) : Bool :=
  (before.dropWhile isCaseIgnorable).head?.any isCased &&
    !(after.dropWhile isCaseIgnorable).head?.any isCased

def lowerChars (before : List Char) : List Char → List Char
  | [] => []
  | c :: rest =>
    (if c.toNat = 931 then [if endsWord before rest then 'ς' else 'σ'] else lowerChar c) ++
      lowerChars (c :: before) rest

def lower (s : String) : String := String.ofList (lowerChars [] s.toList)

def asciiLower (s : String) : String := String.ofList (s.toList.map Char.toLower)

def asciiUpper (s : String) : String := String.ofList (s.toList.map Char.toUpper)

end LiveTable.Text
