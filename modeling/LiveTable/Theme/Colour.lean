import LiveTable.Text.LetterCase
import LiveTable.Text.Quoted
import LiveTable.Text.Search
import LiveTable.Text.Blank
import LiveTable.Number.Reading

namespace LiveTable

inductive Colour where
  | reset | black | red | green | yellow | blue | magenta | cyan | gray | darkGray
  | lightRed | lightGreen | lightYellow | lightBlue | lightMagenta | lightCyan | white
  | indexed (n : Nat)
  | rgb (r g b : Nat)
deriving DecidableEq, Inhabited

namespace Colour

def hexByte (n : Nat) : String :=
  String.ofList [(Nat.digitChar (n / 16)).toUpper, (Nat.digitChar (n % 16)).toUpper]

def display : Colour → String
  | reset => "Reset"
  | black => "Black"
  | red => "Red"
  | green => "Green"
  | yellow => "Yellow"
  | blue => "Blue"
  | magenta => "Magenta"
  | cyan => "Cyan"
  | gray => "Gray"
  | darkGray => "DarkGray"
  | lightRed => "LightRed"
  | lightGreen => "LightGreen"
  | lightYellow => "LightYellow"
  | lightBlue => "LightBlue"
  | lightMagenta => "LightMagenta"
  | lightCyan => "LightCyan"
  | white => "White"
  | indexed n => toString n
  | rgb r g b => "#" ++ hexByte r ++ hexByte g ++ hexByte b

def ofThemeName? : String → Option Colour
  | "dodgerblue" => some (rgb 30 144 255)
  | "greenyellow" => some (rgb 173 255 47)
  | "mediumpurple" => some (rgb 147 112 219)
  | "orangered" => some (rgb 255 69 0)
  | "lightskyblue" => some (rgb 135 206 250)
  | "darkorange" => some (rgb 255 140 0)
  | "aqua" => some (rgb 0 255 255)
  | "lightslategray" => some (rgb 119 136 153)
  | "lightslategrey" => some (rgb 119 136 153)
  | _ => none

def ofTerminalName? : String → Option Colour
  | "reset" => some reset
  | "black" => some black
  | "red" => some red
  | "lightred" => some lightRed
  | "green" => some green
  | "lightgreen" => some lightGreen
  | "yellow" => some yellow
  | "lightyellow" => some lightYellow
  | "blue" => some blue
  | "lightblue" => some lightBlue
  | "magenta" => some magenta
  | "lightmagenta" => some lightMagenta
  | "cyan" => some cyan
  | "lightcyan" => some lightCyan
  | "gray" => some gray
  | "darkgray" => some darkGray
  | "white" => some white
  | _ => none

-- The spellings of a name brought to one: no separators, `light` for bright, `gray` for its
-- variants, and the light shades without a name of their own as what they are.
def plainName (s : String) : String :=
  let compact := String.ofList ((Text.lower s).toList.filter fun c => c != ' ' && c != '-' && c != '_')
  [("bright", "light"), ("grey", "gray"), ("silver", "gray"), ("lightblack", "darkgray"),
    ("lightwhite", "white"), ("lightgray", "white")].foldl
    (fun s (old, new) => Text.replace old new s) compact

def byteOfHex? : List Char → Option Nat
  | ['+', d] => digit? d
  | [c, d] => (digit? c).bind fun c => (digit? d).map fun d => 16 * c + d
  | _ => none
where
  digit? (c : Char) : Option Nat :=
    if c.isDigit then some (c.toNat - '0'.toNat)
    else if 'a' ≤ c && c ≤ 'f' then some (c.toNat - 'a'.toNat + 10)
    else if 'A' ≤ c && c ≤ 'F' then some (c.toNat - 'A'.toNat + 10)
    else none

def ofHex? (cs : List Char) : Option Colour :=
  match cs with
  | ['#', a, b, c, d, e, f] => do
    return rgb (← byteOfHex? [a, b]) (← byteOfHex? [c, d]) (← byteOfHex? [e, f])
  | _ => none

def ofIndex? (s : String) : Option Colour :=
  match Reading.uint64? s with
  | some n => if n < 256 then some (indexed n) else none
  | none => none

def parse? (raw : String) : Option Colour :=
  let name := Text.asciiLower (Text.trim raw)
  ((ofThemeName? name).or (ofTerminalName? (plainName name))).or ((ofIndex? name).or (ofHex? name.toList))

def unknownMessage (raw : String) : String := "unknown color " ++ Text.quoted raw

end Colour

end LiveTable
