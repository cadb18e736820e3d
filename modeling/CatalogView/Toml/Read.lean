import CatalogView.Toml.Lexeme
import CatalogView.Toml.Value

/-!
# Reading TOML

A document is a sequence of lines that set a field or open a table. `read?` gives the fields of
the document, or nothing if it is malformed or defines something twice.
-/

namespace CatalogView.Toml

open CatalogView.Text

/-- The number of arrays and tables in braces that stay within each other. -/
def maxNesting : Nat := 79

/-- The value that a word stands for. -/
def word? (word : List Char) : Option Value :=
  if word = ['t', 'r', 'u', 'e'] then some (.boolean true)
  else if word = ['f', 'a', 'l', 's', 'e'] then some (.boolean false)
  else
    match integer? word with
    | some n => some (.integer n)
    | none =>
      if isDate word then some (.date (.ofList word))
      else if isFloat word then some (.float (.ofList word))
      else none

/-- Reads a word. A day may have a time of day after a space. -/
def readWord? : Reader Value := fun text =>
  let word := text.takeWhile isWordChar
  let rest := text.dropWhile isWordChar
  let next := (rest.drop 1).takeWhile isWordChar
  if rest.head? = some ' ' && isDay word && (next.head?.any isDigit) then
    if isTimeWithOffset next then
      some (.date (.ofList (word ++ ' ' :: next)), (rest.drop 1).dropWhile isWordChar)
    else none
  else (word? word).map (·, rest)

/-- Reads the items of an array after its bracket, up to the bracket that closes it. The number
bounds how many there are. -/
def readItems? (value? : Reader Value) : Nat → Reader (List Value)
  | 0, _ => none
  | fuel + 1, text =>
    match skipAll text with
    | ']' :: rest => some ([], rest)
    | text => do
      let (item, rest) ← value? text
      match skipAll rest with
      | ',' :: rest =>
        let (items, rest) ← readItems? value? fuel rest
        return (item :: items, rest)
      | ']' :: rest => return ([item], rest)
      | _ => none

/-- Reads a key and its value. -/
def readPair? (value? : Reader Value) : Reader ((List String × String) × Value) := fun text => do
  let (key, rest) ← key? text
  match rest with
  | '=' :: rest =>
    let (value, rest) ← value? (skipGap rest)
    return ((key, value), rest)
  | _ => none

/-- Reads the fields of a table in braces, of which there is at least one, up to the brace that
closes it. The number bounds how many there are. -/
def readPairs? (value? : Reader Value) : Nat → Fields → Reader Fields
  | 0, _, _ => none
  | fuel + 1, fields, text => do
    let (((parts, key), value), rest) ← readPair? value? text
    let fields ← fields.assign parts key value
    match skipGap rest with
    | ',' :: rest => readPairs? value? fuel fields rest
    | '}' :: rest => return (fields, rest)
    | _ => none

/-- Reads a value within which so many arrays and tables in braces can stay within each other. -/
def readValue? : Nat → Reader Value
  | nesting, text =>
    match nesting, text with
    | nesting + 1, '[' :: rest => do
      let (items, rest) ← readItems? (readValue? nesting) (rest.length + 1) rest
      return (.array items, rest)
    | nesting + 1, '{' :: rest =>
      match skipGap rest with
      | '}' :: rest => some (.table .inline [], rest)
      | _ => do
        let (fields, rest) ← readPairs? (readValue? nesting) (rest.length + 1) [] rest
        return (.table .inline fields, rest)
    | _, '"' :: _ | _, '\'' :: _ => do
      let (string, rest) ← string? text
      return (.string string, rest)
    | _, _ => readWord? text

/-- A line of a document. -/
inductive Statement where
  | assign (parts : List String) (key : String) (value : Value)
  | openTable (parts : List String) (key : String)
  | openItem (parts : List String) (key : String)

/-- Reads a line that is not blank, and its end. -/
def readStatement? : Reader Statement := fun text =>
  match text with
  | '[' :: '[' :: rest => do
    let ((parts, key), rest) ← key? rest
    match rest with
    | ']' :: ']' :: rest => return (.openItem parts key, ← endLine? rest)
    | _ => none
  | '[' :: rest => do
    let ((parts, key), rest) ← key? rest
    match rest with
    | ']' :: rest => return (.openTable parts key, ← endLine? rest)
    | _ => none
  | _ => do
    let (((parts, key), value), rest) ← readPair? (readValue? maxNesting) text
    return (.assign parts key value, ← endLine? rest)

/-- Reads the lines of a document. The number bounds how many there are. -/
def readStatements? : Nat → List Char → Option (List Statement)
  | 0, _ => none
  | fuel + 1, text =>
    match skipAll text with
    | [] => some []
    | text => do
      let (statement, rest) ← readStatement? text
      return statement :: (← readStatements? fuel rest)

/-- A document as far as it has been built up, and the path of the table that is open. -/
structure Builder where
  fields : Fields := []
  path : List String := []

/-- Builds up the document by one line. -/
def Builder.step? (builder : Builder) : Statement → Option Builder
  | .assign parts key value => do
    let fields ← Fields.alterAt (·.assign parts key value) builder.path builder.fields
    return { builder with fields }
  | .openTable parts key => do
    let fields ← builder.fields.openTable parts key
    return { fields, path := parts ++ [key] }
  | .openItem parts key => do
    let fields ← builder.fields.openItem parts key
    return { fields, path := parts ++ [key] }

/-- The fields that the lines of a document build up. -/
def build? (statements : List Statement) : Option Fields := do
  let builder ← statements.foldlM Builder.step? {}
  return builder.fields

/-- The text without the mark that may stand at its beginning. -/
def skipMark : List Char → List Char
  | '\uFEFF' :: rest => rest
  | text => text

/-- Reads a document. -/
def read? (text : List Char) : Option Fields := do
  let body := skipMark text
  build? (← readStatements? (body.length + 1) body)

end CatalogView.Toml
