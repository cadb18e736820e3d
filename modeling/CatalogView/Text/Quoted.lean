import CatalogView.Text.Printable

/-!
# Quoted texts

How a message quotes a text: between double quotes, on one line, and with every character that
would not show written as an escape.
-/

namespace CatalogView.Text.Quoted

/-- The character as it stands in a quoted text. -/
def escape (c : Char) : List Char :=
  match c with
  | '\x00' => ['\\', '0']
  | '\t' => ['\\', 't']
  | '\n' => ['\\', 'n']
  | '\r' => ['\\', 'r']
  | '"' => ['\\', '"']
  | '\\' => ['\\', '\\']
  | c =>
    if graphemeExtend.contains c || !isPrintable c then
      ['\\', 'u', '\x7b'] ++ Nat.toDigits 16 c.toNat ++ ['\x7d']
    else [c]

/-- The text between double quotes, with escapes. -/
def encode (text : List Char) : List Char :=
  '"' :: text.flatMap escape ++ ['"']

end CatalogView.Text.Quoted
