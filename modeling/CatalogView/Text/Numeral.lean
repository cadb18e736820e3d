/-!
# Decimal numerals

Reading natural numbers and integers from their digits. Signs are taken only where a reader says
so, and nothing but digits may follow them. A number that does not fit the type that is asked for
is not read.
-/

namespace CatalogView.Text

/-- The character is a decimal digit of ASCII. -/
def isDigit (c : Char) : Bool := '0' ≤ c && c ≤ '9'

/-- The number that digits stand for, from the number read so far. -/
def natFrom? (sofar : Nat) : List Char → Option Nat
  | [] => some sofar
  | c :: rest => if isDigit c then natFrom? (sofar * 10 + (c.toNat - 48)) rest else none

/-- The natural number written with digits only, of which there is at least one. -/
def nat? : List Char → Option Nat
  | [] => none
  | c :: rest => natFrom? 0 (c :: rest)

/-- The natural number written with digits after at most one plus sign. -/
def unsigned? : List Char → Option Nat
  | '+' :: digits => nat? digits
  | digits => nat? digits

/-- The integer written with digits after at most one sign. -/
def signed? : List Char → Option Int
  | '-' :: digits => (nat? digits).map fun n => -(n : Int)
  | digits => (unsigned? digits).map fun n => (n : Int)

/-- The number written with digits after at most one plus sign, if 32 bits hold it. -/
def uint32? (text : List Char) : Option UInt32 :=
  (unsigned? text).bind fun n => if n < UInt32.size then some (.ofNat n) else none

/-- The number written with digits after at most one sign, if 64 bits with a sign hold it. -/
def int64? (text : List Char) : Option Int64 :=
  (signed? text).bind fun n =>
    if Int64.minValue.toInt ≤ n ∧ n ≤ Int64.maxValue.toInt then some (.ofInt n) else none

end CatalogView.Text
