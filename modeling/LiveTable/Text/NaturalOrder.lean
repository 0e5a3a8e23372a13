import LiveTable.Number.Reading

namespace LiveTable.Text

open Reading (isDigit)

def compareRuns (a b : List Char) : Ordering :=
  let significant (run : List Char) := run.dropWhile (· == '0')
  (compare (significant a).length (significant b).length).then
    ((compare (significant a) (significant b)).then (compare a.length b.length))

def naturalOrderChars (as bs : List Char) : Ordering :=
  match as, bs with
  | [], [] => .eq
  | [], _ :: _ => .lt
  | _ :: _, [] => .gt
  | a :: as', b :: bs' =>
    if _h : isDigit a && isDigit b then
      (compareRuns ((a :: as').takeWhile isDigit) ((b :: bs').takeWhile isDigit)).then
        (naturalOrderChars ((a :: as').dropWhile isDigit) ((b :: bs').dropWhile isDigit))
    else (compare a b).then (naturalOrderChars as' bs')
termination_by as.length
decreasing_by
  · simp only [Bool.and_eq_true] at _h
    simp only [List.dropWhile_cons, _h.1, if_true, List.length_cons]
    exact Nat.lt_succ_of_le (List.dropWhile_suffix _).length_le
  · simp

def naturalOrder (s t : String) : Ordering := naturalOrderChars s.toList t.toList

end LiveTable.Text
