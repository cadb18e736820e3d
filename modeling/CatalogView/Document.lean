import CatalogView.Text.Utf8

/-!
# Documents in files

What may be found where a document is looked for, and how reading it as text can fail.
-/

namespace CatalogView

open CatalogView.Text

/-- What is found where a document is looked for. -/
inductive Document where
  | missing
  | directory
  | file (bytes : Bytes)

/-- Why a document cannot be read as text. -/
inductive Unreadable where
  | missing
  | directory
  | notText
  deriving DecidableEq, Repr

/-- What a document that cannot be read is called. -/
def Unreadable.message : Unreadable → String
  | .missing => "No such file or directory (os error 2)"
  | .directory => "Is a directory (os error 21)"
  | .notText => "stream did not contain valid UTF-8"

/-- Reads a document as text. -/
def Document.text : Document → Except Unreadable (List Char)
  | .missing => .error .missing
  | .directory => .error .directory
  | .file bytes =>
    match Utf8.decode? bytes with
    | some text => .ok text
    | none => .error .notText

end CatalogView
