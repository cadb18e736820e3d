/-!
# The shortest decimal that reads back

A binary64 number stands for the reals that round to it. `shortest` gives the decimal with the
fewest digits among those reals and, of those with that many digits, the one nearest to the
number itself. All arithmetic is on natural numbers.
-/

namespace CatalogView.Decimal

/-- A positive decimal, `digits * 10 ^ exponent`. -/
structure Value where
  digits : Nat
  exponent : Int
  deriving DecidableEq, Repr

/-- A positive binary number, `mantissa * 2 ^ exponent`. -/
structure Binary where
  mantissa : Nat
  exponent : Int
  deriving DecidableEq, Repr

/-- The number that the bits of a binary64 stand for, without its sign. The bits must be those of
a finite number. -/
def Binary.ofBits (bits : UInt64) : Binary :=
  let fraction : Nat := bits.toNat % Nat.pow 2 52
  let biased : Nat := bits.toNat / Nat.pow 2 52 % Nat.pow 2 11
  if biased = 0 then ⟨fraction, -1074⟩ else ⟨fraction + Nat.pow 2 52, (biased : Int) - 1075⟩

/-- A positive fraction. -/
structure Ratio where
  numerator : Nat
  denominator : Nat

/-- The fraction `factor * base ^ exponent`. -/
def Ratio.scaled (factor base : Nat) (exponent : Int) : Ratio :=
  if 0 ≤ exponent then ⟨factor * base.pow exponent.toNat, 1⟩
  else ⟨factor, base.pow (-exponent).toNat⟩

/-- The order of fractions. -/
def Ratio.le (a b : Ratio) : Bool :=
  a.numerator * b.denominator ≤ b.numerator * a.denominator

/-- The strict order of fractions. -/
def Ratio.lt (a b : Ratio) : Bool :=
  a.numerator * b.denominator < b.numerator * a.denominator

/-- The distance between two fractions. -/
def Ratio.distance (a b : Ratio) : Ratio :=
  let left := a.numerator * b.denominator
  let right := b.numerator * a.denominator
  ⟨(left - right) + (right - left), a.denominator * b.denominator⟩

/-- The value of a decimal. -/
def Value.ratio (d : Value) : Ratio :=
  .scaled d.digits 10 d.exponent

/-- The value of a binary number. -/
def Binary.ratio (b : Binary) : Ratio :=
  .scaled b.mantissa 2 b.exponent

/-- The midpoint between the number and its lower neighbour, which is half as far away where the
exponent changes. -/
def Binary.lower (b : Binary) : Ratio :=
  if b.mantissa = Nat.pow 2 52 ∧ -1074 < b.exponent then
    .scaled (4 * b.mantissa - 1) 2 (b.exponent - 2)
  else .scaled (2 * b.mantissa - 1) 2 (b.exponent - 1)

/-- The midpoint between the number and its upper neighbour. -/
def Binary.upper (b : Binary) : Ratio :=
  .scaled (2 * b.mantissa + 1) 2 (b.exponent - 1)

/-- The decimal rounds to the binary number. A midpoint goes to the even mantissa. -/
def Binary.roundsFrom (b : Binary) (d : Value) : Bool :=
  if b.mantissa % 2 = 0 then b.lower.le d.ratio && d.ratio.le b.upper
  else b.lower.lt d.ratio && d.ratio.lt b.upper

/-- The least power of ten above which the fraction lies, counted down from `power`. -/
def leadingFrom (value : Ratio) : Nat → Int → Int
  | 0, power => power
  | fuel + 1, power =>
    if (Ratio.scaled 1 10 power).le value then power else leadingFrom value fuel (power - 1)

/-- The power of ten of the first digit of a binary64 number. -/
def leading (b : Binary) : Int :=
  leadingFrom b.ratio 634 309

/-- The two neighbours of the number among the multiples of `10 ^ exponent`. -/
def neighbours (b : Binary) (exponent : Int) : Value × Value :=
  let value := b.ratio
  let unit := Ratio.scaled 1 10 exponent
  let below := value.numerator * unit.denominator / (value.denominator * unit.numerator)
  (⟨below, exponent⟩, ⟨below + 1, exponent⟩)

/-- The nearer of the neighbours at `exponent` that round to the number. -/
def nearest? (b : Binary) (exponent : Int) : Option Value :=
  let (below, above) := neighbours b exponent
  match b.roundsFrom below, b.roundsFrom above with
  | true, true =>
    let down := below.ratio.distance b.ratio
    let up := above.ratio.distance b.ratio
    if down.lt up then some below
    else if up.lt down then some above
    else if below.digits % 2 = 0 then some below else some above
  | true, false => some below
  | false, true => some above
  | false, false => none

/-- The first grid of decimals with a member that rounds to the number, from `count` grids of
which the coarsest has the unit `10 ^ exponent`. -/
def shortestFrom (b : Binary) : Nat → Int → Value
  | 0, exponent => (neighbours b exponent).1
  | count + 1, exponent =>
    match nearest? b exponent with
    | some d => d
    | none => shortestFrom b count (exponent - 1)

/-- The shortest decimal that rounds to a positive binary64 number. -/
def shortest (b : Binary) : Value :=
  shortestFrom b 17 (leading b)

/-- How a format writes a decimal that is no integer type: the powers of ten of the first digit
between which it is written without an exponent, and the least number of exponent digits. -/
structure Format where
  lowest : Int
  highest : Int
  exponentDigits : Nat

/-- The text with zeros in front up to the given length. -/
def padZeros (length : Nat) (text : List Char) : List Char :=
  List.replicate (length - text.length) '0' ++ text

/-- The digits of a natural number. -/
def natDigits (n : Nat) : List Char :=
  Nat.toDigits 10 n

/-- The decimal as text. It always shows a point or an exponent. -/
def Value.write (format : Format) (d : Value) : List Char :=
  let digits := natDigits d.digits
  let stripped := (digits.reverse.dropWhile (· = '0')).reverse
  let power := d.exponent + digits.length - 1
  if format.lowest ≤ power ∧ power ≤ format.highest then
    if 0 ≤ power then
      let whole := digits.take (power.toNat + 1)
      let zeros := List.replicate (power.toNat + 1 - digits.length) '0'
      let rest := stripped.drop (power.toNat + 1)
      whole ++ zeros ++ ['.'] ++ (if rest.isEmpty then ['0'] else rest)
    else
      ['0', '.'] ++ List.replicate (-power - 1).toNat '0' ++ stripped
  else
    let tail := if stripped.length ≤ 1 then [] else '.' :: stripped.drop 1
    let sign := if power < 0 then '-' else '+'
    stripped.take 1 ++ tail ++ ['e', sign] ++
      padZeros format.exponentDigits (natDigits power.natAbs)

/-- The text of a finite binary64 number given by its bits. -/
def writeBits (format : Format) (bits : UInt64) : List Char :=
  let sign := if bits.toNat / Nat.pow 2 63 = 1 then ['-'] else []
  let b := Binary.ofBits bits
  sign ++ if b.mantissa = 0 then ['0', '.', '0'] else (shortest b).write format

end CatalogView.Decimal
