import CatalogView.Decimal.Shortest
import CatalogView.Json.Fault

/-!
# The parts of JSON documents

Reading goes from left to right over the bytes of a document. A reader takes what has not been
read yet and gives a value with what is left after it, or the first fault it meets. This module
reads blanks, literals, numbers and strings, and skips whole values of which only the extent
matters.
-/

namespace CatalogView.Json

open CatalogView.Text

/-- A reader of values of a type. -/
abbrev Reader (α : Type) := Bytes → Except Fault (α × Bytes)

/-- The byte of an ASCII character. -/
def byte (c : Char) : UInt8 := c.toUInt8

/-- A fault at the place right before `rest`. -/
def flawAt (rest : Bytes) (flaw : Flaw) : Fault := ⟨.flaw flaw, rest.length⟩

/-- A fault that refers to the byte right before which reading stopped: the place after it, or the
end of the document. -/
def flawPast (rest : Bytes) (flaw : Flaw) : Fault := ⟨.flaw flaw, rest.length - 1⟩

/-- The byte is a blank between the parts of a document. -/
def isBlank (b : UInt8) : Bool :=
  b == byte ' ' || b == byte '\n' || b == byte '\t' || b == byte '\r'

/-- The byte is a decimal digit. -/
def isDigit (b : UInt8) : Bool := byte '0' ≤ b && b ≤ byte '9'

/-- What follows the blanks. -/
def skipBlanks (bytes : Bytes) : Bytes := bytes.dropWhile isBlank

/-- Reads the given bytes. A document that stops among them ends within a value. -/
def literal : Bytes → Bytes → Except Fault Bytes
  | [], rest => .ok rest
  | _ :: _, [] => .error (flawAt [] .endOfValue)
  | expected :: more, b :: rest =>
    if b = expected then literal more rest else .error (flawAt rest .expectedLiteral)

/-! ## Numbers -/

/-- A number of a document. One that is no integer, or no integer of 64 bits, is real. -/
inductive Number where
  | integer (value : Int)
  | real (value : Float)

/-- How a real number is shown. -/
def realFormat : Decimal.Format := ⟨-5, 15, 2⟩

/-- How a message shows a number. -/
def Number.found : Number → Found
  | .integer value => .integer value
  | .real value => .real (String.ofList (Decimal.writeBits realFormat value.toBits))

/-- The largest significand that is kept exactly. -/
def maxSignificand : Nat := Nat.pow 2 64 - 1

/-- The value of a digit. -/
def digitValue (b : UInt8) : Nat := b.toNat - 48

/-- The significand extended by digits as long as it stays within its bound, and the number of
digits after that. -/
def extend (significand : Nat) : Bytes → Nat × Nat
  | [] => (significand, 0)
  | digit :: digits =>
    let next := significand * 10 + digitValue digit
    if next ≤ maxSignificand then extend next digits else (significand, digits.length + 1)

/-- Divides by `10 ^ 308` until the exponent is one that a power of ten in range undoes. -/
def shrink (value : Float) : Nat → Nat → Float
  | 0, _ => value
  | fuel + 1, exponent =>
    if value == 0 then value
    else if exponent ≤ 308 then value / Float.ofScientific 1 false exponent
    else shrink (value / 1e308) fuel (exponent - 308)

/-- The number `significand * 10 ^ exponent`, computed with one rounding of the significand and
one of the product or quotient. There is none beyond the range of real numbers. -/
def assemble (negative : Bool) (significand : Nat) (exponent : Int) : Option Number :=
  let whole := significand.toUInt64.toFloat
  let signed (value : Float) : Number := .real (if negative then -value else value)
  if exponent < 0 then some (signed (shrink whole (exponent.natAbs + 1) exponent.natAbs))
  else if 308 < exponent then
    if significand = 0 then some (signed 0) else none
  else
    let value := whole * Float.ofScientific 1 false exponent.toNat
    if value.isInf then none else some (signed value)

/-- The largest exponent that is read digit by digit. -/
def maxExponent : Nat := Nat.pow 2 31 - 1

/-- The exponent read from its digits, and the digits left from the one that takes it beyond its
bound. -/
def exponentFrom (exponent : Nat) : Bytes → Nat × Bytes
  | [] => (exponent, [])
  | digit :: digits =>
    let next := exponent * 10 + digitValue digit
    if next ≤ maxExponent then exponentFrom next digits else (exponent, digit :: digits)

/-- The sum of two exponents, kept within 32 bits. -/
def saturate (exponent : Int) : Int :=
  max (-(Int.pow 2 31)) (min (Int.pow 2 31 - 1) exponent)

/-- Gives the assembled number with the rest, or refuses one that is too large. -/
def finishReal (negative : Bool) (significand : Nat) (exponent : Int) (rest : Bytes) :
    Except Fault (Number × Bytes) :=
  match assemble negative significand exponent with
  | some number => .ok (number, rest)
  | none => .error (flawAt rest .numberTooLarge)

/-- Whether the first byte is an exponent mark. -/
def isExponentMark (b : UInt8) : Bool := b == byte 'e' || b == byte 'E'

/-- Reads the exponent of a number from after its mark. -/
def readExponent (negative : Bool) (significand : Nat) (exponent : Int) (bytes : Bytes) :
    Except Fault (Number × Bytes) :=
  let (down, bytes) := match bytes with
    | b :: rest =>
      if b = byte '+' then (false, rest) else if b = byte '-' then (true, rest) else (false, bytes)
    | [] => (false, [])
  match bytes with
  | [] => .error (flawAt [] .endOfValue)
  | b :: rest =>
    if isDigit b then
      let digits := rest.takeWhile isDigit
      let rest := rest.dropWhile isDigit
      match exponentFrom (digitValue b) digits with
      | (power, []) =>
        let exponent := if down then exponent - power else exponent + power
        finishReal negative significand (saturate exponent) rest
      | (_, _ :: unread) =>
        if significand ≠ 0 ∧ !down then .error (flawAt (unread ++ rest) .numberTooLarge)
        else finishReal negative 0 0 rest
    else .error (flawAt rest .badNumber)

/-- Reads what may follow the digits of a number that is real already. -/
def readScale (negative : Bool) (significand : Nat) (exponent : Int) (bytes : Bytes) :
    Except Fault (Number × Bytes) :=
  match bytes with
  | b :: rest =>
    if isExponentMark b then readExponent negative significand exponent rest
    else finishReal negative significand exponent bytes
  | [] => finishReal negative significand exponent []

/-- Reads the fraction of a number from after its point. -/
def readFraction (negative : Bool) (significand : Nat) (exponent : Int) (bytes : Bytes) :
    Except Fault (Number × Bytes) :=
  let digits := bytes.takeWhile isDigit
  let rest := bytes.dropWhile isDigit
  match digits, rest with
  | [], [] => .error (flawPast [] .endOfValue)
  | [], _ :: _ => .error (flawPast rest .badNumber)
  | _ :: _, _ =>
    let (extended, unread) := extend significand digits
    readScale negative extended (exponent - ((digits.length - unread : Nat) : Int)) rest

/-- The number that the digits of an integer stand for, where `unread` of them did not fit. -/
def wholeNumber (negative : Bool) (significand unread : Nat) (rest : Bytes) :
    Except Fault (Number × Bytes) :=
  if unread ≠ 0 then finishReal negative significand unread rest
  else if !negative then .ok (.integer significand, rest)
  else if significand = 0 ∨ Nat.pow 2 63 < significand then finishReal true significand 0 rest
  else .ok (.integer (-significand), rest)

/-- Reads a number from after its sign. -/
def readNumber (negative : Bool) (bytes : Bytes) : Except Fault (Number × Bytes) :=
  match bytes with
  | [] => .error (flawAt [] .endOfValue)
  | b :: more =>
    if !isDigit b then .error (flawAt more .badNumber)
    else
      let rest := if b = byte '0' then more else more.dropWhile isDigit
      let digits := if b = byte '0' then [] else more.takeWhile isDigit
      let (significand, unread) := extend (digitValue b) digits
      match rest with
      | [] => wholeNumber negative significand unread []
      | c :: after =>
        if b = byte '0' ∧ isDigit c then .error (flawPast rest .badNumber)
        else if c = byte '.' then readFraction negative significand unread after
        else if isExponentMark c then readExponent negative significand unread after
        else wholeNumber negative significand unread rest

/-! ## Strings -/

/-- The value of a byte that is a hexadecimal digit. -/
def hexValue? (b : UInt8) : Option Nat := hexDigit? (Char.ofUInt8 b)

/-- The value of four hexadecimal digits, given last first. -/
def hexFour? : Bytes → Option Nat
  | [d, c, b, a] => do
    let a ← hexValue? a
    let b ← hexValue? b
    let c ← hexValue? c
    let d ← hexValue? d
    pure (((a * 16 + b) * 16 + c) * 16 + d)
  | _ => none

/-- The bytes of a code point. -/
def codeBytes (code : Nat) : Bytes := String.utf8EncodeChar (Char.ofNat code)

/-- The byte that an escape of two characters stands for. -/
def escaped? (b : UInt8) : Option UInt8 :=
  if b = byte '"' ∨ b = byte '\\' ∨ b = byte '/' then some b
  else if b = byte 'b' then some 8
  else if b = byte 'f' then some 12
  else if b = byte 'n' then some 10
  else if b = byte 'r' then some 13
  else if b = byte 't' then some 9
  else none

/-- What the next byte of a string belongs to. Hexadecimal digits are kept last first. -/
inductive Place where
  /-- A character by itself. -/
  | plain
  /-- An escape, after its backslash. -/
  | escape
  /-- The digits of an escaped code unit. -/
  | unit (digits : Bytes)
  /-- The backslash of the second half of a pair. -/
  | pair (leading : Nat)
  /-- The letter of the second half of a pair. -/
  | pairMark (leading : Nat)
  /-- The digits of the second half of a pair. -/
  | pairUnit (leading : Nat) (digits : Bytes)

/-- A code unit that is the first half of a pair. -/
def isLeading (unit : Nat) : Bool := 0xD800 ≤ unit && unit ≤ 0xDBFF

/-- A code unit that is the second half of a pair. -/
def isTrailing (unit : Nat) : Bool := 0xDC00 ≤ unit && unit ≤ 0xDFFF

/-- The code point of a pair of code units. -/
def pairCode (leading trailing : Nat) : Nat :=
  0x10000 + (leading - 0xD800) * 0x400 + (trailing - 0xDC00)

/-- Reads a string from after its opening quote, with the bytes so far given last first. -/
def stringFrom (place : Place) (sofar : Bytes) : Reader String
  | [] => .error (flawAt [] .endOfString)
  | b :: rest =>
    match place with
    | .plain =>
      if b = byte '"' then
        match Utf8.decode? sofar.reverse with
        | some text => .ok (String.ofList text, rest)
        | none => .error (flawAt rest .badEncoding)
      else if b = byte '\\' then stringFrom .escape sofar rest
      else if b < 0x20 then .error (flawAt rest .controlCharacter)
      else stringFrom .plain (b :: sofar) rest
    | .escape =>
      if b = byte 'u' then stringFrom (.unit []) sofar rest
      else match escaped? b with
        | some c => stringFrom .plain (c :: sofar) rest
        | none => .error (flawAt rest .badEscape)
    | .unit digits =>
      if digits.length < 3 then stringFrom (.unit (b :: digits)) sofar rest
      else match hexFour? (b :: digits) with
        | none => .error (flawAt rest .badEscape)
        | some unit =>
          if isTrailing unit then .error (flawAt rest .loneSurrogate)
          else if isLeading unit then stringFrom (.pair unit) sofar rest
          else stringFrom .plain ((codeBytes unit).reverse ++ sofar) rest
    | .pair leading =>
      if b = byte '\\' then stringFrom (.pairMark leading) sofar rest
      else .error (flawAt rest .unpairedSurrogate)
    | .pairMark leading =>
      if b = byte 'u' then stringFrom (.pairUnit leading []) sofar rest
      else .error (flawAt rest .unpairedSurrogate)
    | .pairUnit leading digits =>
      if digits.length < 3 then stringFrom (.pairUnit leading (b :: digits)) sofar rest
      else match hexFour? (b :: digits) with
        | none => .error (flawAt rest .badEscape)
        | some unit =>
          if isTrailing unit then
            stringFrom .plain ((codeBytes (pairCode leading unit)).reverse ++ sofar) rest
          else .error (flawAt rest .loneSurrogate)

/-- Reads a string from after its opening quote. -/
def readString : Reader String := stringFrom .plain []

/-! ## Skipping -/

/-- What the next byte of a skipped string belongs to. -/
inductive SkipPlace where
  | plain
  | escape
  | unit (digits : Bytes)

/-- Skips a string from after its opening quote. Escaped code units need not form characters. -/
def skipStringFrom (place : SkipPlace) : Bytes → Except Fault Bytes
  | [] => .error (flawAt [] .endOfString)
  | b :: rest =>
    match place with
    | .plain =>
      if b = byte '"' then .ok rest
      else if b = byte '\\' then skipStringFrom .escape rest
      else if b < 0x20 then .error (flawAt (b :: rest) .controlCharacter)
      else skipStringFrom .plain rest
    | .escape =>
      if b = byte 'u' then skipStringFrom (.unit []) rest
      else if (escaped? b).isSome then skipStringFrom .plain rest
      else .error (flawAt rest .badEscape)
    | .unit digits =>
      if digits.length < 3 then skipStringFrom (.unit (b :: digits)) rest
      else if (hexFour? (b :: digits)).isSome then skipStringFrom .plain rest
      else .error (flawAt rest .badEscape)

/-- Skips a string from after its opening quote. -/
def skipString : Bytes → Except Fault Bytes := skipStringFrom .plain

/-- Skips an exponent from after its mark. -/
def skipExponent (bytes : Bytes) : Except Fault Bytes :=
  let bytes := match bytes with
    | b :: rest => if b = byte '+' ∨ b = byte '-' then rest else bytes
    | [] => []
  match bytes with
  | [] => .error (flawAt [] .badNumber)
  | b :: rest =>
    if isDigit b then .ok (rest.dropWhile isDigit) else .error (flawAt rest .badNumber)

/-- Skips the exponent that may follow. -/
def skipScale (bytes : Bytes) : Except Fault Bytes :=
  match bytes with
  | b :: rest => if isExponentMark b then skipExponent rest else .ok bytes
  | [] => .ok []

/-- Skips a fraction from after its point. -/
def skipFraction (bytes : Bytes) : Except Fault Bytes :=
  let rest := bytes.dropWhile isDigit
  if bytes.length = rest.length then .error (flawPast rest .badNumber) else skipScale rest

/-- Skips a number from after its sign. -/
def skipNumber (bytes : Bytes) : Except Fault Bytes :=
  match bytes with
  | [] => .error (flawAt [] .badNumber)
  | b :: more =>
    if !isDigit b then .error (flawAt more .badNumber)
    else
      let rest := if b = byte '0' then more else more.dropWhile isDigit
      match rest with
      | [] => .ok []
      | c :: after =>
        if b = byte '0' ∧ isDigit c then .error (flawPast rest .badNumber)
        else if c = byte '.' then skipFraction after
        else skipScale rest

/-- A bracket that is open while a value is skipped. -/
inductive Bracket where
  | list
  | object
  deriving DecidableEq

/-- The byte that closes a bracket. -/
def Bracket.close : Bracket → UInt8
  | .list => byte ']'
  | .object => byte '\x7d'

/-- The flaw of a document that stops within a bracket. -/
def Bracket.atEnd : Bracket → Flaw
  | .list => .endOfList
  | .object => .endOfObject

/-- The flaw of a bracket whose members are not apart. -/
def Bracket.unclosed : Bracket → Flaw
  | .list => .expectedListEnd
  | .object => .expectedObjectEnd

/-- Skips the key of a member with its colon, from where the key should begin. -/
def skipKey (bytes : Bytes) : Except Fault Bytes :=
  match skipBlanks bytes with
  | [] => .error (flawPast [] .endOfObject)
  | b :: rest =>
    if b = byte '"' then do
      let rest ← skipString rest
      match skipBlanks rest with
      | [] => .error (flawPast [] .endOfObject)
      | c :: after =>
        if c = byte ':' then .ok after else .error (flawPast (c :: after) .expectedColon)
    else .error (flawPast (b :: rest) .keyNotText)

/-- What is skipped next: a value, what follows a value within the innermost bracket, or what
follows the opening of a bracket. -/
inductive SkipStep where
  | value
  | after
  | opened

/-- Skips a value within open brackets, given innermost first. Each step takes a byte or turns
from a value to what follows it, so `fuel` need not exceed twice the number of bytes. -/
def skipFrom : Nat → SkipStep → List Bracket → Bytes → Except Fault Bytes
  | 0, _, _, _ => .error (flawAt [] .endOfValue)
  | _ + 1, .after, [], bytes => .ok bytes
  | fuel + 1, .after, bracket :: outer, bytes =>
    match skipBlanks bytes with
    | [] => .error (flawPast [] bracket.atEnd)
    | b :: rest =>
      if b = byte ',' then
        match bracket with
        | .list => skipFrom fuel .value (bracket :: outer) rest
        | .object => do
          let rest ← skipKey rest
          skipFrom fuel .value (bracket :: outer) rest
      else if b = bracket.close then skipFrom fuel .after outer rest
      else .error (flawPast (b :: rest) bracket.unclosed)
  | fuel + 1, .opened, brackets, bytes =>
    match brackets with
    | [] => .error (flawAt [] .endOfValue)
    | bracket :: outer =>
      match skipBlanks bytes with
      | [] => .error (flawPast [] bracket.atEnd)
      | b :: rest =>
        if b = bracket.close then skipFrom fuel .after outer rest
        else
          match bracket with
          | .list => skipFrom fuel .value (bracket :: outer) (b :: rest)
          | .object => do
            let rest ← skipKey (b :: rest)
            skipFrom fuel .value (bracket :: outer) rest
  | fuel + 1, .value, brackets, bytes =>
    match skipBlanks bytes with
    | [] => .error (flawPast [] .endOfValue)
    | b :: rest =>
      if b = byte '[' then skipFrom fuel .opened (.list :: brackets) rest
      else if b = byte '\x7b' then skipFrom fuel .opened (.object :: brackets) rest
      else do
        let rest ←
          if b = byte 'n' then literal [byte 'u', byte 'l', byte 'l'] rest
          else if b = byte 't' then literal [byte 'r', byte 'u', byte 'e'] rest
          else if b = byte 'f' then literal [byte 'a', byte 'l', byte 's', byte 'e'] rest
          else if b = byte '-' then skipNumber rest
          else if isDigit b then skipNumber (b :: rest)
          else if b = byte '"' then skipString rest
          else .error (flawPast (b :: rest) .expectedValue)
        skipFrom fuel .after brackets rest

/-- Skips one value. -/
def skipValue (bytes : Bytes) : Except Fault Bytes :=
  skipFrom (3 * bytes.length + 3) .value [] bytes

end CatalogView.Json
