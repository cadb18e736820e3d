import CatalogView.Text.CodeSet
import CatalogView.Text.Numeral
import CatalogView.Text.Part

/-!
# Numeric addresses

Addresses of the two versions of the Internet protocol: how hosts write them and how they are
shown. An address of version 4 is a number of 32 bits, one of version 6 has eight pieces of 16
bits.
-/

namespace CatalogView.Url

open CatalogView.Text

/-- The number that digits of a base stand for, of which there is at least one. -/
def baseNumber? (base : Nat) (digits : List Char) : Option Nat :=
  if digits.isEmpty then none
  else
    digits.foldlM (fun sofar c => do
      let digit ← hexDigit? c
      if digit < base then some (sofar * base + digit) else none) 0

namespace Ipv4

/-- The number that a part of an address stands for. It is octal after a zero, and hexadecimal
after a zero and an `x`. -/
def part? : List Char → Option Nat
  | '0' :: 'x' :: digits | '0' :: 'X' :: digits =>
    if digits.isEmpty then some 0 else baseNumber? 16 digits
  | '0' :: d :: digits => baseNumber? 8 (d :: digits)
  | digits => baseNumber? 10 digits

/-- The parts of a host between its points. A point at the end ends the last part. -/
def parts (host : List Char) : List (List Char) :=
  let parts := splitAt '.' host
  if parts.getLast? = some [] then parts.dropLast else parts

/-- The host ends with a number, and so has to be an address. -/
def looksLikeAddress (host : List Char) : Bool :=
  match (parts host).getLast? with
  | none => false
  | some last => !last.isEmpty && (last.all isDigit || (part? last).isSome)

/-- The address that parts stand for. The last of them stands for all bytes that the others
leave. -/
def ofParts? : List Nat → Nat → Option Nat
  | [], _ => none
  | [last], room => if last < Nat.pow 256 room then some last else none
  | part :: parts, room => do
    let rest ← ofParts? parts (room - 1)
    if part < 256 then some (part * Nat.pow 256 (room - 1) + rest) else none

/-- The address of a host. -/
def address? (host : List Char) : Option Nat := do
  let parts := parts host
  if 4 < parts.length then none
  else ofParts? (← parts.mapM part?) 4

/-- An address as text. -/
def text (address : Nat) : List Char :=
  let byte (i : Nat) := Nat.toDigits 10 (address / Nat.pow 256 i % 256)
  byte 3 ++ '.' :: byte 2 ++ '.' :: byte 1 ++ '.' :: byte 0

end Ipv4

namespace Ipv6

/-- The piece that up to four hexadecimal digits stand for. -/
def piece? (digits : List Char) : Option Nat :=
  if 4 < digits.length then none else baseNumber? 16 digits

/-- The byte that digits without a zero in front stand for. -/
def byte? (digits : List Char) : Option Nat :=
  if digits.head? = some '0' ∧ digits ≠ ['0'] then none
  else (nat? digits).bind fun n => if n < 256 then some n else none

/-- The two pieces that an address of version 4 at the end stands for. -/
def tail? (text : List Char) : Option (List Nat) := do
  match ← (splitAt '.' text).mapM byte? with
  | [a, b, c, d] => some [a * 256 + b, c * 256 + d]
  | _ => none

/-- The pieces between colons. The last may be an address of version 4 where that is allowed. -/
def pieces? (allowsTail : Bool) : List (List Char) → Option (List Nat)
  | [] => some []
  | [last] =>
    if allowsTail && last.contains '.' then tail? last else (piece? last).map ([·])
  | piece :: rest => do return (← piece? piece) :: (← pieces? allowsTail rest)

/-- The parts of a text before and after the first two colons that stand side by side. -/
def splitGap : List Char → Option (List Char × List Char)
  | ':' :: ':' :: rest => some ([], rest)
  | c :: rest => (splitGap rest).map fun (before, after) => (c :: before, after)
  | [] => none

/-- The parts of a text between colons, of which an empty text has none. -/
def splitColons (text : List Char) : List (List Char) :=
  if text.isEmpty then [] else splitAt ':' text

/-- The pieces of an address. Two colons stand for as many zeros as there is room for, and for at
least one. -/
def address? (text : List Char) : Option (List Nat) :=
  match splitGap text with
  | none => do
    let pieces ← pieces? true (splitColons text)
    if pieces.length = 8 then some pieces else none
  | some (before, after) => do
    let front ← pieces? false (splitColons before)
    let back ← pieces? true (splitColons after)
    let room := 8 - front.length - back.length
    if 1 ≤ room then some (front ++ List.replicate room 0 ++ back) else none

/-- The number of zeros that pieces begin with. -/
def leadingZeros (pieces : List Nat) : Nat := (pieces.takeWhile (· = 0)).length

/-- The place and the length of the first of the longest runs of zeros. -/
def longestZeros : List Nat → Nat × Nat
  | [] => (0, 0)
  | piece :: rest =>
    let here := leadingZeros (piece :: rest)
    let (place, length) := longestZeros rest
    if length ≤ here then (0, here) else (place + 1, length)

/-- Pieces with colons between them. -/
def joinPieces (pieces : List Nat) : List Char :=
  (List.intercalate [':'] (pieces.map (Nat.toDigits 16)))

/-- An address as text. The longest run of zeros is left out, if there are two or more. -/
def text (pieces : List Nat) : List Char :=
  let (place, length) := longestZeros pieces
  if length < 2 then joinPieces pieces
  else
    joinPieces (pieces.take place) ++ [':', ':'] ++ joinPieces (pieces.drop (place + length))

end Ipv6

end CatalogView.Url
