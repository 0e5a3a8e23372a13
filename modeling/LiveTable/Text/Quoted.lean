import LiveTable.Character.Property

namespace LiveTable.Text

def unprintableSet : CharSet :=
  .unions [
    Character.Category.sets .seventeenth (Character.Category.separators ++ Character.Category.others),
    Character.Property.set .seventeenth .graphemeExtend,
    Character.Property.set .seventeenth .defaultIgnorable]

def isUnprintable (c : Char) : Bool := c != ' ' && unprintableSet.contains c

def hex (n : Nat) : List Char := Nat.toDigits 16 n

def escape (quote c : Char) : List Char :=
  if c = quote || c = '\\' then ['\\', c]
  else if c = '\n' then ['\\', 'n']
  else if c = '\r' then ['\\', 'r']
  else if c = '\t' then ['\\', 't']
  else if c.toNat = 0 then ['\\', '0']
  else if isUnprintable c then ['\\', 'u', '\x7b'] ++ hex c.toNat ++ ['\x7d']
  else [c]

def quotedChars (quote : Char) (cs : List Char) : List Char :=
  quote :: cs.flatMap (escape quote) ++ [quote]

def quoted (s : String) : String := String.ofList (quotedChars '"' s.toList)

def quotedChar (c : Char) : String := String.ofList (quotedChars '\'' [c])

end LiveTable.Text
