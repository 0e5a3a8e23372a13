namespace LiveTable.Sorting

variable {α : Type} (less : α → α → Bool)

-- Lets a new member sink below those it is less than; `before` lists these from the nearest on.
def sink (x : α) : List α → List α
  | [] => [x]
  | b :: before => if less x b then b :: sink x before else x :: b :: before

def insertAll (sorted rest : List α) : List α :=
  (rest.foldl (fun before x => sink less x before) sorted.reverse).reverse

def insertionSort (v : List α) : List α := insertAll less [] v

def mergeLeft (left right : List α) : List α := left.merge right fun l r => !less r l

def mergeRight (left right : List α) : List α :=
  (mergeLeft (fun r l => less l r) right.reverse left.reverse).reverse

def advance : Nat → List α → List α → List α × List α × List α
  | n + 1, l :: left, r :: right =>
      if less r l then
        let (taken, rest) := advance n (l :: left) right
        (r :: taken, rest)
      else
        let (taken, rest) := advance n left (r :: right)
        (l :: taken, rest)
  | _, left, right => ([], left, right)

-- Merges two halves from both ends at once. The steps of either end do not know of the other's; where they do not
-- meet, some member was taken twice, and the program stops.
def mergeBothEnds? (v : List α) : Option (List α) :=
  let half := v.length / 2
  let (front, leftBehind, rightBehind) := advance less half (v.take half) (v.drop half)
  let (back, rightBefore, leftBefore) :=
    advance (fun r l => less l r) half (v.drop half).reverse (v.take half).reverse
  let left := half - leftBehind.length
  let right := v.length - rightBehind.length
  let leftEnd := leftBefore.length
  let rightEnd := half + rightBefore.length
  if v.length % 2 = 0 then
    if left = leftEnd ∧ right = rightEnd then some (front ++ back.reverse) else none
  else if left < leftEnd then
    if left + 1 = leftEnd ∧ right = rightEnd then some (front ++ leftBehind.take 1 ++ back.reverse) else none
  else
    if left = leftEnd ∧ right + 1 = rightEnd then some (front ++ rightBehind.take 1 ++ back.reverse) else none

def sortFour : List α → List α
  | [v0, v1, v2, v3] =>
      let (a, b) := if less v1 v0 then (v1, v0) else (v0, v1)
      let (c, d) := if less v3 v2 then (v3, v2) else (v2, v3)
      let beforeLeft := less c a
      let beforeRight := less d b
      let least := if beforeLeft then c else a
      let greatest := if beforeRight then b else d
      let left := if beforeLeft then a else if beforeRight then c else b
      let right := if beforeRight then d else if beforeLeft then b else c
      if less right left then [least, right, left, greatest] else [least, left, right, greatest]
  | v => v

def sortEight? (v : List α) : Option (List α) :=
  mergeBothEnds? less (sortFour less (v.take 4) ++ sortFour less (v.drop 4))

def sortHalf? (size : Nat) (half : List α) : Option (List α) :=
  if 16 ≤ size then (sortEight? less (half.take 8)).map fun first => insertAll less first (half.drop 8)
  else if 8 ≤ size then some (insertAll less (sortFour less (half.take 4)) (half.drop 4))
  else some (insertionSort less half)

def smallSort? (v : List α) : Option (List α) :=
  if v.length < 2 then some v
  else do
    let left ← sortHalf? less v.length (v.take (v.length / 2))
    let right ← sortHalf? less v.length (v.drop (v.length / 2))
    mergeBothEnds? less (left ++ right)

end LiveTable.Sorting
