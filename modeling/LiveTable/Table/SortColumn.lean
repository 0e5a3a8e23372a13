import LiveTable.Cell.Elapsed
import LiveTable.Cell.Quantity
import LiveTable.Text.LetterCase
import LiveTable.Text.NaturalOrder
import LiveTable.Text.Quoted
import LiveTable.Text.Search

namespace LiveTable

structure SortColumn where
  name : String
  ascending : Bool
deriving DecidableEq, Inhabited

namespace SortColumn

inductive Error where
  | missingName (text : String)
  | invalidOrder (order : String)
deriving DecidableEq

def Error.message : Error → String
  | missingName text => "sort column name is required in " ++ Text.quoted text
  | invalidOrder order => "invalid sort order " ++ Text.quoted order ++ ", expecting asc or desc"

def none : SortColumn := ⟨"", false⟩

def isNone (c : SortColumn) : Bool := c.name.isEmpty

def parse (raw : String) : Except Error SortColumn :=
  let cs := Text.trimChars raw.toList
  let name := Text.trim (String.ofList (cs.takeWhile (· != ':')))
  let order := Text.asciiLower (Text.trim (String.ofList ((cs.dropWhile (· != ':')).drop 1)))
  if name.isEmpty then .error (.missingName (String.ofList cs))
  else if order.isEmpty || order == "asc" then .ok ⟨name, true⟩
  else if order == "desc" then .ok ⟨name, false⟩
  else .error (.invalidOrder order)

end SortColumn

structure CellOrder where
  number : Bool
  duration : Bool
  capacity : Bool
deriving DecidableEq

namespace CellOrder

def infinity : Float := 1.0 / 0.0

def compareNumbers (x y : Float) : Ordering := (Binary64.compare? x y).getD .eq

def withoutCommas (s : String) : String := String.ofList (s.toList.filter (· != ','))

def amount? (o : CellOrder) (s : String) : Option Float :=
  if o.capacity then Quantity.parse? s else Reading.float? (Text.trim s)

def compareAmounts (o : CellOrder) (s t : String) : Ordering :=
  match o.amount? s, o.amount? t with
  | some x, some y => compareNumbers x y
  | some _, none => .lt
  | none, some _ => .gt
  | none, none => Text.naturalOrder s t

-- Times compare as such wherever both cells hold one; in a time column a cell without a time comes
-- after all others.
def compare (o : CellOrder) (s t : String) : Ordering :=
  if s = t then .eq
  else
    match o.duration, Elapsed.seconds? s, Elapsed.seconds? t with
    | _, some x, some y => compareNumbers x y
    | true, none, none => Text.naturalOrder s t
    | true, x, y => compareNumbers (x.getD infinity) (y.getD infinity)
    | false, _, _ =>
      if o.number || o.capacity then o.compareAmounts (withoutCommas s) (withoutCommas t)
      else Text.naturalOrder s t

def precedes (o : CellOrder) (id₁ id₂ s t : String) : Bool :=
  match o.compare s t with
  | .eq => Text.naturalOrder id₁ id₂ == .lt
  | ord => ord == .lt

end CellOrder

end LiveTable
