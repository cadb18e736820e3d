import CatalogView.Text.Quoted
import CatalogView.Text.Utf8

/-!
# Faults of JSON documents

A document is refused either because its text is not JSON (`Flaw`) or because a value in it is not
of the shape that is wanted there (`Mismatch`). A `Fault` says which, and how much of the document
had not been read when it was noticed, from which `Fault.line` and `Fault.column` follow.
-/

namespace CatalogView.Json

open CatalogView.Text

/-- A way in which a text is not JSON. -/
inductive Flaw where
  | endOfValue
  | endOfString
  | endOfList
  | endOfObject
  | expectedColon
  | expectedListEnd
  | expectedObjectEnd
  | expectedLiteral
  | expectedValue
  | badEscape
  | badNumber
  | numberTooLarge
  | badEncoding
  | controlCharacter
  | keyNotText
  | loneSurrogate
  | unpairedSurrogate
  | trailingComma
  | trailingText
  deriving DecidableEq, Repr

/-- The text stops before the document is complete. -/
def Flaw.isEnd : Flaw → Bool
  | .endOfValue | .endOfString | .endOfList | .endOfObject => true
  | _ => false

/-- What a flaw is called. -/
def Flaw.message : Flaw → String
  | .endOfValue => "EOF while parsing a value"
  | .endOfString => "EOF while parsing a string"
  | .endOfList => "EOF while parsing a list"
  | .endOfObject => "EOF while parsing an object"
  | .expectedColon => "expected `:`"
  | .expectedListEnd => "expected `,` or `]`"
  | .expectedObjectEnd => "expected `,` or `\x7d`"
  | .expectedLiteral => "expected ident"
  | .expectedValue => "expected value"
  | .badEscape => "invalid escape"
  | .badNumber => "invalid number"
  | .numberTooLarge => "number out of range"
  | .badEncoding => "invalid unicode code point"
  | .controlCharacter =>
    "control character (\\u0000-\\u001F) found while parsing a string"
  | .keyNotText => "key must be a string"
  | .loneSurrogate => "lone leading surrogate in hex escape"
  | .unpairedSurrogate => "unexpected end of hex escape"
  | .trailingComma => "trailing comma"
  | .trailingText => "trailing characters"

/-- A value of the wrong type, as far as a message shows it. A number that is no integer is given
by its text. -/
inductive Found where
  | null
  | boolean (value : Bool)
  | integer (value : Int)
  | real (shown : String)
  | text (value : String)
  | list
  | object
  deriving DecidableEq, Repr

/-- How a message shows a value. -/
def Found.message : Found → String
  | .null => "null"
  | .boolean value => s!"boolean `{value}`"
  | .integer value => s!"integer `{value}`"
  | .real shown => s!"floating point `{shown}`"
  | .text value => "string " ++ String.ofList (Quoted.encode value.toList)
  | .list => "sequence"
  | .object => "map"

/-- What is wanted at a place of a document. -/
inductive Wanted where
  | text
  | count
  | list
  | record (name : String)
  deriving DecidableEq, Repr

/-- How a message shows what is wanted. -/
def Wanted.message : Wanted → String
  | .text => "a string"
  | .count => "u32"
  | .list => "a sequence"
  | .record name => "struct " ++ name

/-- A way in which a value is not of the shape that is wanted. -/
inductive Mismatch where
  | wrongType (found : Found) (wanted : Wanted)
  | countOutOfRange (value : Int)
  | wrongLength (length : Nat) (record : String) (fields : Nat)
  | missingField (field : String)
  | repeatedField (field : String)
  deriving DecidableEq, Repr

/-- How a message says that one thing or several are meant. -/
def elementsOf : Nat → String
  | 1 => "1 element"
  | n => s!"{n} elements"

/-- What a mismatch is called. -/
def Mismatch.message : Mismatch → String
  | .wrongType found wanted => s!"invalid type: {found.message}, expected {wanted.message}"
  | .countOutOfRange value =>
    s!"invalid value: integer `{value}`, expected {Wanted.count.message}"
  | .wrongLength length record fields =>
    s!"invalid length {length}, expected struct {record} with {elementsOf fields}"
  | .missingField field => s!"missing field `{field}`"
  | .repeatedField field => s!"duplicate field `{field}`"

/-- Why a document is refused. -/
inductive Cause where
  | flaw (flaw : Flaw)
  | mismatch (mismatch : Mismatch)
  deriving DecidableEq, Repr

/-- What a cause is called. -/
def Cause.message : Cause → String
  | .flaw f => f.message
  | .mismatch m => m.message

/-- A refusal of a document, with the number of bytes not read at the place it refers to. -/
structure Fault where
  cause : Cause
  left : Nat
  deriving DecidableEq, Repr

namespace Fault

/-- The part of the document before the place a fault refers to. -/
def before (fault : Fault) (document : Bytes) : Bytes :=
  document.take (document.length - fault.left)

/-- The line of the place, counted from one. -/
def line (fault : Fault) (document : Bytes) : Nat :=
  (fault.before document).count 10 + 1

/-- The number of bytes before the place on its line. -/
def column (fault : Fault) (document : Bytes) : Nat :=
  ((fault.before document).reverse.takeWhile (· ≠ 10)).length

/-- The fault with its place in the document. -/
def message (fault : Fault) (document : Bytes) : String :=
  s!"{fault.cause.message} at line {fault.line document} column {fault.column document}"

end Fault

end CatalogView.Json
