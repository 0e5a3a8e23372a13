import LiveTable.Pattern.Basic
import LiveTable.Pattern.Word

namespace LiveTable

namespace Assertion

def holds (a : Assertion) (text : Array Char) (place : Nat) : Bool :=
  let before := if place = 0 then none else text[place - 1]?
  let after := text[place]?
  let words (ascii : Bool) : CharSet := if ascii then Pattern.asciiWordSet else Pattern.wordSet
  let inside (ascii : Bool) : Bool := before.any (words ascii).contains
  let ahead (ascii : Bool) : Bool := after.any (words ascii).contains
  match a with
  | textStart => place == 0
  | textEnd => place == text.size
  | lineStart => before.all (· == '\n')
  | lineEnd => after.all (· == '\n')
  | lineStartCrlf => before.all fun c => c == '\n' || (c == '\r' && after != some '\n')
  | lineEndCrlf => after.all fun c => c == '\r' || (c == '\n' && before != some '\r')
  | wordBoundary ascii => inside ascii != ahead ascii
  | noWordBoundary ascii => inside ascii == ahead ascii
  | wordStart ascii => !inside ascii && ahead ascii
  | wordEnd ascii => inside ascii && !ahead ascii
  | wordStartHalf ascii => !inside ascii
  | wordEndHalf ascii => !ahead ascii

end Assertion

-- Of `2 ^ levels` places from `start` on those that satisfy a condition; `start` is the lowest bit.
def placesFrom (holds : Nat → Bool) : (levels start : Nat) → Nat
  | 0, start => if holds start then 1 else 0
  | levels + 1, start =>
    let half := Nat.pow 2 levels
    placesFrom holds levels start ||| placesFrom holds levels (start + half) <<< half

-- A pattern laid over a text: a step leads from its places so many characters on.
inductive Track where
  | step (places size : Nat)
  | seq (p q : Track)
  | either (p q : Track)
  | times (p : Track) (least more : Nat)

namespace Track

def without (places others : Nat) : Nat := places ^^^ (places &&& others)

def rounds (next : Nat → Nat) : Nat → Nat → Nat
  | 0, places => places
  | n + 1, places => if next places = places then places else rounds next n (next places)

-- What up to so many rounds add to what was seen; each starts from the places that are new.
def spread (next : Nat → Nat) : Nat → (seen new : Nat) → Nat
  | 0, seen, _ => seen
  | n + 1, seen, new =>
    let fresh := without (next new) seen
    if fresh = 0 then seen else spread next n (seen ||| fresh) fresh

def ends : Track → Nat → Nat
  | step places size, starts => (starts &&& places) <<< size
  | seq p q, starts => q.ends (p.ends starts)
  | either p q, starts => p.ends starts ||| q.ends starts
  | times p least more, starts =>
    let after := rounds p.ends least starts
    spread p.ends more after after

end Track

namespace Pattern

def matchesAt (text : Array Char) : Nat → List Char → Bool
  | _, [] => true
  | place, c :: cs => text[place]? == some c && matchesAt text (place + 1) cs

def placesOf (text : Array Char) (holds : Nat → Bool) : Nat :=
  placesFrom (fun place => place ≤ text.size && holds place) (Nat.log2 text.size + 1) 0

-- Lays a pattern over a text. More rounds than there are places change nothing.
def lay (text : Array Char) : Pattern → Track
  | empty => .step (placesOf text fun _ => true) 0
  | literal cs => .step (placesOf text fun place => matchesAt text place cs) cs.length
  | one s => .step (placesOf text fun place => text[place]?.any s.contains) 1
  | assertion a => .step (placesOf text (a.holds text)) 0
  | times p least most _ =>
    let count := text.size + 1
    let more := match most with
      | some most => min (most - least) count
      | none => count
    .times (p.lay text) (min least count) more
  | group _ p => p.lay text
  | seq p q => .seq (p.lay text) (q.lay text)
  | either p q => .either (p.lay text) (q.lay text)

def occursIn (p : Pattern) (s : String) : Bool :=
  let text := s.toList.toArray
  (p.lay text).ends (placesOf text fun _ => true) != 0

end Pattern

end LiveTable
