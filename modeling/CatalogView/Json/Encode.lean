import CatalogView.Json.Shape

/-!
# Writing the values of a shape

`Shape.encode` writes a value of a shape as a document without blanks. A record is written as an
object with its fields in their order, and a field that is null is left out.
-/

namespace CatalogView.Json

open CatalogView.Text

/-- The bytes of an ASCII text. -/
def ascii (text : List Char) : Bytes := text.map byte

/-- A hexadecimal digit in lower case. -/
def hexByte (n : Nat) : UInt8 :=
  if n < 10 then UInt8.ofNat (n + 48) else UInt8.ofNat (n + 87)

/-- The bytes of a character within a string. -/
def charBytes (c : Char) : Bytes :=
  match c with
  | '"' => ascii ['\\', '"']
  | '\\' => ascii ['\\', '\\']
  | '\x08' => ascii ['\\', 'b']
  | '\x0c' => ascii ['\\', 'f']
  | '\n' => ascii ['\\', 'n']
  | '\r' => ascii ['\\', 'r']
  | '\t' => ascii ['\\', 't']
  | c =>
    if c.toNat < 0x20 then
      ascii ['\\', 'u', '0', '0'] ++ [hexByte (c.toNat / 16), hexByte (c.toNat % 16)]
    else String.utf8EncodeChar c

/-- The bytes of a string. -/
def stringBytes (text : String) : Bytes :=
  byte '"' :: text.toList.flatMap charBytes ++ [byte '"']

/-- Puts a comma between the parts. -/
def separate : List Bytes → Bytes
  | [] => []
  | [part] => part
  | part :: parts => part ++ byte ',' :: separate parts

mutual

/-- Writes a value of a shape. -/
def Shape.encode : (shape : Shape) → shape.Value → Bytes
  | .text => stringBytes
  | .count => fun value => ascii (Nat.toDigits 10 (UInt32.toNat value))
  | .optional inner => fun value =>
    match value with
    | none => ascii ['n', 'u', 'l', 'l']
    | some value => inner.encode value
  | .list element => fun values =>
    byte '[' :: separate (List.map element.encode values) ++ [byte ']']
  | .record _ fields => fun values =>
    byte '\x7b' :: separate (fields.members values) ++ [byte '\x7d']

/-- The members of an object. -/
def Fields.members : (fields : Fields) → fields.Values → List Bytes
  | .nil, _ => []
  | .cons name shape _ rest, (value, values) =>
    if shape.isNull value then rest.members values
    else (stringBytes name ++ byte ':' :: shape.encode value) :: rest.members values

end

end CatalogView.Json
