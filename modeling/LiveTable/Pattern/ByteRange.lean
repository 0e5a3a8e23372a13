import LiveTable.Character.CharSet

namespace LiveTable.Pattern

abbrev ByteRange := Nat × Nat

def encode (n : Nat) : List Nat :=
  if n < 0x80 then [n]
  else if n < 0x800 then [0xc0 + n / 64, 0x80 + n % 64]
  else if n < 0x10000 then [0xe0 + n / 4096, 0x80 + n / 64 % 64, 0x80 + n % 64]
  else [0xf0 + n / 262144, 0x80 + n / 4096 % 64, 0x80 + n / 64 % 64, 0x80 + n % 64]

def sizeCut? (lo hi : Nat) : Option Nat :=
  [0x80, 0x800, 0x10000].find? fun cut => lo < cut && cut ≤ hi

-- Where a range has to be cut so that the last bytes of its encodings vary freely; `block` is the
-- number of values that these take.
def blockCut? (lo hi block : Nat) : Option Nat :=
  if lo / block = hi / block then none
  else if lo % block != 0 then some ((lo / block + 1) * block)
  else if hi % block != block - 1 then some (hi / block * block)
  else none

def cut? (lo hi : Nat) : Option Nat :=
  match sizeCut? lo hi with
  | some cut => some cut
  | none => if hi < 0x80 then none else [64, 4096, 262144].findSome? (blockCut? lo hi)

-- The sequences that encode a range of characters; it is cut fewer times than `fuel`.
def sequencesOf : (fuel : Nat) → (lo hi : Nat) → List (List ByteRange)
  | 0, _, _ => []
  | fuel + 1, lo, hi =>
    match cut? lo hi with
    | some cut => sequencesOf fuel lo (cut - 1) ++ sequencesOf fuel cut hi
    | none => [(encode lo).zip (encode hi)]

def byteSequences (s : CharSet) : List (List ByteRange) :=
  (s.ranges.flatMap CharSet.scalars).flatMap fun (lo, hi) => sequencesOf 16 lo hi

end LiveTable.Pattern
