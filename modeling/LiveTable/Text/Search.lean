namespace LiveTable.Text

def breakAt (sep : List Char) : List Char → Option (List Char × List Char)
  | [] => if sep.isEmpty then some ([], []) else none
  | c :: cs =>
    if sep.isPrefixOf (c :: cs) then some ([], (c :: cs).drop sep.length)
    else (breakAt sep cs).map fun (before, after) => (c :: before, after)

def containsChars (part text : List Char) : Bool := (breakAt part text).isSome

def contains (part text : String) : Bool := containsChars part.toList text.toList

def startsWith (start text : String) : Bool := start.toList.isPrefixOf text.toList

def endsWith (ending text : String) : Bool := ending.toList.isSuffixOf text.toList

def splitLoop (sep : List Char) : Nat → List Char → List (List Char)
  | 0, cs => [cs]
  | fuel + 1, cs =>
    match breakAt sep cs with
    | some (before, after) => before :: splitLoop sep fuel after
    | none => [cs]

def splitChars (sep text : List Char) : List (List Char) :=
  if sep.isEmpty then [] :: text.map ([·]) ++ [[]]
  else splitLoop sep text.length text

def split (sep text : String) : List String := (splitChars sep.toList text.toList).map String.ofList

def splitOnChar (c : Char) (text : String) : List String := split (String.singleton c) text

def replace (old new text : String) : String := new.intercalate (split old text)

def isSubsequence : List Char → List Char → Bool
  | [], _ => true
  | _ :: _, [] => false
  | c :: cs, d :: ds => if c = d then isSubsequence cs ds else isSubsequence (c :: cs) ds

end LiveTable.Text
