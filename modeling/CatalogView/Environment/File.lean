import CatalogView.Environment.Basic
import CatalogView.Text.Alphanumeric
import CatalogView.Text.Blank

/-!
# Files of variables

A file sets variables with lines such as `name=value`. A value may be quoted, may go on over several
lines within quotes, and may name other variables. Reading stops at the first line that makes no
sense, and what stands before it holds.
-/

namespace CatalogView.Environment

open CatalogView.Text

/-! ## Lines -/

/-- Where in a line a character stands, as far as it matters for the line's end. -/
inductive Place where
  | outside
  | blank
  | escape
  | weak
  | weakEscape
  | strong
  | strongEscape
  deriving DecidableEq, Repr

/-- The place after a character that stands outside of quotes. -/
def Place.afterOutside (place : Place) (c : Char) : Place :=
  if c = '\\' then .escape
  else if c = '"' then .weak
  else if c = '\'' then .strong
  else if place = .outside && isBlank c && c ≠ '\n' && c ≠ '\r' then .blank
  else .outside

/-- The place after a character. -/
def Place.after (place : Place) (c : Char) : Place :=
  match place with
  | .outside | .blank => place.afterOutside c
  | .escape => .outside
  | .weak => if c = '\\' then .weakEscape else if c = '"' then .outside else .weak
  | .weakEscape => .weak
  | .strong => if c = '\\' then .strongEscape else if c = '\'' then .outside else .strong
  | .strongEscape => .strong

/-- The length of the first physical line with its end. -/
def lineLength (text : List Char) : Nat := (text.takeWhile (· ≠ '\n')).length + 1

/-- Reads on in a physical line from a place: the place at its end, or what stands before a comment
that ends the line. -/
def scanLine (place : Place) : List Char → Place ⊕ List Char
  | [] => .inl place
  | c :: rest =>
    if place = .blank && c = '#' then .inr []
    else (scanLine (place.after c) rest).map id (c :: ·)

/-- A line without the mark of its end. -/
def dropLineEnd (line : List Char) : List Char :=
  if line.getLast? = some '\n' then
    let line := line.dropLast
    if line.getLast? = some '\r' then line.dropLast else line
  else line

/-- The lines of a file, of which the first goes on from a place after what was read of it. The
last one is missing if it does not come to an end. -/
def linesFrom (place : Place) (sofar : List Char) : List Char → List (Option (List Char))
  | [] => if place = .outside then [] else [none]
  | c :: text =>
    let physical := (c :: text).take (lineLength (c :: text))
    let rest := (c :: text).drop (lineLength (c :: text))
    let line := sofar ++ physical
    if (trimStart line).head? = some '#' then linesFrom .outside [] rest
    else
      match scanLine place physical with
      | .inr kept => some (sofar ++ kept) :: linesFrom .outside [] rest
      | .inl .outside => some (dropLineEnd line) :: linesFrom .outside [] rest
      | .inl place => linesFrom place line rest
termination_by text => text.length
decreasing_by
  all_goals
    simp only [List.length_drop, List.length_cons, lineLength]
    omega

/-! ## Values -/

/-- How the next character of a value is taken. -/
inductive Mode where
  | plain
  | escaped
  | strong
  /-- It may belong to the name of a variable. -/
  | name (sofar : List Char)
  /-- It belongs to a name in braces, unless it is the closing one. -/
  | braced (sofar : List Char)
  /-- The value has ended. -/
  | ended
  deriving DecidableEq, Repr

/-- The value of a variable, which is empty if the variable is not set. -/
def valueOf (environment : Environment) (name : List Char) : List Char :=
  ((environment (.ofList name)).getD "").toList

/-- Reads a value, within double quotes or not. -/
def value? (environment : Environment) (quoted : Bool) : Mode → List Char → Option (List Char)
  | .strong, [] | .braced _, [] => none
  | .name sofar, [] => if quoted then none else some (valueOf environment sofar)
  | _, [] => if quoted then none else some []
  | .ended, c :: rest =>
    if c = ' ' || c = '\t' then value? environment quoted .ended rest
    else if c = '#' then some []
    else none
  | .escaped, c :: rest =>
    if c ∈ ['\\', '\'', '"', '$', ' '] then (value? environment quoted .plain rest).map (c :: ·)
    else if c = 'n' then (value? environment quoted .plain rest).map ('\n' :: ·)
    else none
  | .strong, c :: rest =>
    if c = '\'' then value? environment quoted .plain rest
    else (value? environment quoted .strong rest).map (c :: ·)
  | .name sofar, c :: rest =>
    if isAlphanumeric c then value? environment quoted (.name (sofar ++ [c])) rest
    else if c = '\x7b' && sofar.isEmpty then value? environment quoted (.braced []) rest
    else if c = '$' then
      (value? environment quoted (.name []) rest).map (valueOf environment sofar ++ ·)
    else (value? environment quoted .plain rest).map (valueOf environment sofar ++ c :: ·)
  | .braced sofar, c :: rest =>
    if c = '\x7d' then
      (value? environment quoted .plain rest).map (valueOf environment sofar ++ ·)
    else value? environment quoted (.braced (sofar ++ [c])) rest
  | .plain, c :: rest =>
    if c = '$' then value? environment quoted (.name []) rest
    else if c = '\\' then value? environment quoted .escaped rest
    else if c = '"' then value? environment (!quoted) .plain rest
    else if quoted then (value? environment quoted .plain rest).map (c :: ·)
    else if c = '\'' then value? environment quoted .strong rest
    else if c = ' ' || c = '\t' then value? environment quoted .ended rest
    else (value? environment quoted .plain rest).map (c :: ·)

/-! ## Settings of variables -/

/-- The name at the front of a line, and what stands after it and blanks. -/
def splitName? (line : List Char) : Option (List Char × List Char) :=
  let name := line.takeWhile fun c => c.isAlphanum || c = '_' || c = '.'
  if name.head?.any fun c => c.isAlpha || c = '_' then
    some (name, trimStart (line.drop name.length))
  else none

/-- The name that a line sets and the text of its value. The word `export` may stand in front. -/
def splitSetting? (line : List Char) : Option (List Char × List Char) := do
  match ← splitName? line with
  | (name, '=' :: value) => some (name, trimStart value)
  | (name, rest) =>
    if name = "export".toList then
      match ← splitName? rest with
      | (name, '=' :: value) => some (name, trimStart value)
      | _ => none
    else none

/-- Nothing stands in the text, or a comment. -/
def isVoid (text : List Char) : Bool := text.isEmpty || text.head? = some '#'

/-- The name and the value that a line sets. -/
def setting? (environment : Environment) (line : List Char) : Option (String × String) := do
  let (name, text) ← splitSetting? line
  let value ← if isVoid text then some [] else value? environment false .plain text
  return (.ofList name, .ofList value)

/-- The variables that lines set, after those that were set before. -/
def settings (environment : Environment) (sofar : List (String × String)) :
    List (Option (List Char)) → List (String × String)
  | [] | none :: _ => sofar
  | some line :: rest =>
    let line := trimStart (trimEnd line)
    if isVoid line then settings environment sofar rest
    else
      match setting? (environment.withDefaults sofar) line with
      | none => sofar
      | some setting => settings environment (sofar ++ [setting]) rest

/-- The variables that a file sets. A mark of the byte order may stand in front. -/
def variablesOf (environment : Environment) (file : List Char) : List (String × String) :=
  let text := if file.head? = some '\ufeff' then file.drop 1 else file
  settings environment [] (linesFrom .outside [] text)

end CatalogView.Environment
