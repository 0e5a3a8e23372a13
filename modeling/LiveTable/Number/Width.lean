namespace LiveTable.Width

def int32Min : Int := -2147483648
def int32Max : Int := 2147483647
def int64Min : Int := -9223372036854775808
def int64Max : Int := 9223372036854775807

def uint32Max : Nat := 4294967295
def uint64Max : Nat := 18446744073709551615

-- Sums in the machine's numbers; the program stops where one leaves the range.
def add32? (a b : Int32) : Option Int32 :=
  if int32Min ≤ a.toInt + b.toInt ∧ a.toInt + b.toInt ≤ int32Max then some (a + b) else none

def add64? (a b : Int64) : Option Int64 :=
  if int64Min ≤ a.toInt + b.toInt ∧ a.toInt + b.toInt ≤ int64Max then some (a + b) else none

def negate64? (a : Int64) : Option Int64 := if a.toInt = int64Min then none else some (-a)

def addUnsigned64? (a b : UInt64) : Option UInt64 :=
  if a.toNat + b.toNat ≤ uint64Max then some (a + b) else none

end LiveTable.Width
