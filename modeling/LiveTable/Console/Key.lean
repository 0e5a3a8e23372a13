namespace LiveTable

inductive KeyCode where
  | char (c : Char)
  | down | up | left | right
  | home | last | pageDown | pageUp
  | escape | enter | tab | backspace
  | function (n : Nat)
deriving DecidableEq

structure Key where
  code : KeyCode
  control : Bool := false
  shift : Bool := false
  alt : Bool := false
deriving DecidableEq

inductive Mode where
  | normal | filter
deriving DecidableEq, Inhabited

inductive Action where
  | quit
  | down | up | pageDown | pageUp | top | bottom
  | toggleWide | toggleToast
  | startFilter | clearFilter
  | sortBy (column : String)
  | sortNext | sortPrevious
  | submitInput | cancelInput | backspace | inputChar (c : Char)
deriving DecidableEq

namespace Key

def isBare (k : Key) : Bool := !k.control && !k.shift && !k.alt

def controlled? : Char → Option Action
  | 'c' => some .quit
  | 'd' => some .pageDown
  | 'u' => some .pageUp
  | 'z' => some .toggleToast
  | _ => none

def bare? : Char → Option Action
  | 'j' => some .down
  | 'k' => some .up
  | _ => none

def always? : Char → Option Action
  | 'q' => some .quit
  | 'g' => some .top
  | 'G' => some .bottom
  | 'w' => some .toggleWide
  | '/' => some .startFilter
  | 'N' => some (.sortBy "NAME")
  | 'A' => some (.sortBy "AGE")
  | 'S' => some (.sortBy "STATUS")
  | '>' => some .sortNext
  | '<' => some .sortPrevious
  | _ => none

def normalAction? (k : Key) : Option Action :=
  match k.code with
  | .char c =>
    (always? c).or ((if k.control then controlled? c else none).or (if k.isBare then bare? c else none))
  | .down => some .down
  | .up => some .up
  | .home => some .top
  | .last => some .bottom
  | .pageDown => some .pageDown
  | .pageUp => some .pageUp
  | .escape => some .clearFilter
  | _ => none

def filterAction? (k : Key) : Option Action :=
  match k.code with
  | .escape => some .cancelInput
  | .enter => some .submitInput
  | .backspace => some .backspace
  | .char c => if k.control then none else some (.inputChar c)
  | _ => none

end Key

def Mode.action? : Mode → Key → Option Action
  | normal, k => k.normalAction?
  | filter, k => k.filterAction?

end LiveTable
