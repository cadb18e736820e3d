/-!
# Punycode

Punycode writes a label of a domain name with letters, digits and hyphens only. The characters of
ASCII come first, and after the last hyphen stand the others in ascending order, each by its
distance from the one before it. A distance is a numeral of base 36 with a threshold for each
digit, below which the digit is the last one. The thresholds follow the distances seen so far.
-/

namespace CatalogView.Idna.Punycode

/-- The digit for a number below 36. -/
def digit (n : Nat) : Char :=
  if n < 26 then Char.ofNat (97 + n) else Char.ofNat (22 + n)

/-- The number that a digit stands for, in either case. -/
def value? (c : Char) : Option Nat :=
  if 'a' ≤ c ∧ c ≤ 'z' then some (c.toNat - 97)
  else if 'A' ≤ c ∧ c ≤ 'Z' then some (c.toNat - 65)
  else if '0' ≤ c ∧ c ≤ '9' then some (c.toNat - 22)
  else none

/-- The threshold of a digit, by its place and the bias. Places are counted in steps of 36. -/
def threshold (place bias : Nat) : Nat :=
  if place ≤ bias then 1 else if bias + 26 ≤ place then 26 else place - bias

/-- There is a threshold of at least one. -/
theorem threshold_pos (place bias : Nat) : 1 ≤ threshold place bias := by
  unfold threshold
  split
  · omega
  · split <;> omega

/-- Divides a distance by 35 until it is small, and counts the steps of 36. -/
def damp (distance place : Nat) : Nat × Nat :=
  if 455 < distance then damp (distance / 35) (place + 36) else (distance, place)
termination_by distance
decreasing_by exact Nat.div_lt_self (by omega) (by omega)

/-- The bias after a distance, where so many characters have been placed. -/
def adapt (distance placed : Nat) (isFirst : Bool) : Nat :=
  let halved := if isFirst then distance / 700 else distance / 2
  let (small, place) := damp (halved + halved / placed) 0
  place + 36 * small / (small + 38)

/-! ## Encoding -/

/-- The numeral of a distance, from the digit at a place on. -/
def numeral (bias place distance : Nat) : List Char :=
  let bound := threshold place bias
  if distance < bound then [digit distance]
  else
    digit (bound + (distance - bound) % (36 - bound)) ::
      numeral bias (place + 36) ((distance - bound) / (36 - bound))
termination_by distance
decreasing_by
  have hpos := threshold_pos place bias
  calc (distance - threshold place bias) / (36 - threshold place bias)
      ≤ distance - threshold place bias := Nat.div_le_self _ _
    _ < distance := by omega

/-- The state of encoding a label. -/
structure Encoder where
  written : List Char
  distance : Nat := 0
  bias : Nat := 72
  placed : Nat

/-- Takes a character of the label into account when the characters with a code are written. -/
def Encoder.step (basic code : Nat) (state : Encoder) (c : Char) : Encoder :=
  if c.toNat < code then { state with distance := state.distance + 1 }
  else if c.toNat = code then
    { written := state.written ++ numeral state.bias 36 state.distance
      distance := 0
      bias := adapt state.distance (state.placed + 1) (state.placed = basic)
      placed := state.placed + 1 }
  else state

/-- Writes the characters with each of the codes, which ascend from the one reached. -/
def encodeCodes (label : List Char) (basic : Nat) : Nat → List Nat → Encoder → Encoder
  | _, [], state => state
  | reached, code :: codes, state =>
    let begun :=
      { state with distance := state.distance + (code - reached) * (state.placed + 1) }
    let done := label.foldl (Encoder.step basic code) begun
    encodeCodes label basic (code + 1) codes { done with distance := done.distance + 1 }

/-- A character of ASCII. -/
def isBasic (c : Char) : Bool := c.toNat < 128

/-- The codes beyond ASCII in ascending order. -/
def codesOf (label : List Char) : List Nat :=
  (((label.filter (!isBasic ·)).map Char.toNat).mergeSort (· ≤ ·)).eraseDups

/-- Encodes a label. -/
def encode (label : List Char) : List Char :=
  let basic := label.filter isBasic
  let front := if basic.isEmpty then [] else basic ++ ['-']
  (encodeCodes label basic.length 128 (codesOf label)
    { written := front, placed := basic.length }).written

/-! ## Decoding -/

/-- Reads a numeral from the digit at a place on and adds it to the distance read so far. -/
def readNumeral? (bias place weight distance : Nat) : List Char → Option (Nat × List Char)
  | [] => none
  | c :: rest => do
    let n ← value? c
    let bound := threshold place bias
    if n < bound then some (distance + n * weight, rest)
    else readNumeral? bias (place + 36) (weight * (36 - bound)) (distance + n * weight) rest

/-- A numeral takes up at least one character. -/
theorem length_of_read_numeral {bias place weight distance : Nat} {text : List Char}
    {result : Nat × List Char} (h : readNumeral? bias place weight distance text = some result) :
    result.2.length < text.length := by
  induction text generalizing place weight distance with
  | nil => cases h
  | cons c rest ih =>
      rw [readNumeral?] at h
      cases hv : value? c with
      | none => rw [hv] at h; cases h
      | some n =>
          simp only [hv, Option.bind_eq_bind, Option.bind_some] at h
          split at h
          · cases h; simp
          · exact Nat.lt_succ_of_lt (ih h)

/-- Places the characters that numerals stand for among those placed so far. -/
def decodeRest? (bias code index : Nat) (placed : List Char) (text : List Char) :
    Option (List Char) :=
  match hread : readNumeral? bias 36 1 index text with
  | none => if text.isEmpty then some placed else none
  | some (distance, rest) =>
    have : rest.length < text.length := length_of_read_numeral hread
    let count := placed.length + 1
    let next := code + distance / count
    if next.isValidChar then
      decodeRest? (adapt (distance - index) count (index = 0)) next
        (distance % count + 1) (placed.insertIdx (distance % count) (Char.ofNat next)) rest
    else none
termination_by text.length

/-- The parts of a text before and after its last hyphen. A hyphen in front of everything is no
such hyphen. -/
def splitLast (text : List Char) : List Char × List Char :=
  let tail := (text.reverse.takeWhile (· ≠ '-')).reverse
  let front := text.take (text.length - tail.length - 1)
  if front.isEmpty then ([], text) else (front, tail)

/-- Decodes a label. -/
def decode? (text : List Char) : Option (List Char) :=
  let (basic, rest) := splitLast text
  if basic.all isBasic then decodeRest? 72 128 0 basic rest else none

end CatalogView.Idna.Punycode
