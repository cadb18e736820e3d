/-!
# Sets of code points

A property of characters is a set of code points, kept as ascending ranges and searched by
halving. `CodeSet.ofHex` reads the ranges from a text of hexadecimal numbers such as
`300-36f 483`, the form in which the larger properties are written down.
-/

namespace CatalogView.Text

/-- The value of a hexadecimal digit, in either case. -/
def hexDigit? (c : Char) : Option Nat :=
  if '0' ≤ c ∧ c ≤ '9' then some (c.toNat - '0'.toNat)
  else if 'a' ≤ c ∧ c ≤ 'f' then some (c.toNat - 'a'.toNat + 10)
  else if 'A' ≤ c ∧ c ≤ 'F' then some (c.toNat - 'A'.toNat + 10)
  else none

/-- Ascending ranges of code points, each by its first and its last member. -/
structure CodeSet where
  ranges : Array (Nat × Nat)

namespace CodeSet

/-- The state of reading ranges: those complete, the first member of a range whose last is being
read, and the number being read. -/
structure Reading where
  ranges : Array (Nat × Nat) := #[]
  first? : Option Nat := none
  number? : Option Nat := none

/-- Ends the number being read, and with it its range. -/
def Reading.finish (reading : Reading) : Reading :=
  match reading.number? with
  | none => reading
  | some last => { ranges := reading.ranges.push (reading.first?.getD last, last) }

/-- Reads one character: a digit extends the number, a hyphen makes it the first of a range and
anything else ends it. -/
def Reading.step (reading : Reading) (c : Char) : Reading :=
  match hexDigit? c with
  | some d => { reading with number? := some (reading.number?.getD 0 * 16 + d) }
  | none =>
    if c = '-' then { reading with first? := reading.number?, number? := none }
    else reading.finish

/-- The set written as hexadecimal ranges apart from each other by blanks. -/
def ofHex (text : String) : CodeSet :=
  ⟨(text.foldl Reading.step {}).finish.ranges⟩

/-- Whether one of the ranges from index `low` up to but not including `high` holds the code
point. -/
def search (set : CodeSet) (code low high : Nat) : Bool :=
  if low < high then
    let middle := (low + high) / 2
    match set.ranges[middle]? with
    | none => false
    | some (first, last) =>
      if code < first then set.search code low middle
      else if last < code then set.search code (middle + 1) high
      else true
  else false
termination_by high - low

/-- Whether the character belongs to the set. -/
def contains (set : CodeSet) (c : Char) : Bool :=
  set.search c.toNat 0 set.ranges.size

end CodeSet

end CatalogView.Text
