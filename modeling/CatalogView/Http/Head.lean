import CatalogView.Http.Line
import CatalogView.Text.Numeral
import CatalogView.Text.Part

/-!
# Heads of responses

A response begins with a line that gives its status, lines with fields, and an empty line. Heads
with a status that only informs are followed by others. `Head.framing?` says from the fields where
the body behind a head ends.
-/

namespace CatalogView.Http

open CatalogView.Text

/-- A field of a head. Its name is in small letters. -/
structure Field where
  name : List Char
  value : List Char
  deriving DecidableEq, Repr

/-- A head of a response. -/
structure Head where
  /-- The response follows the first version of the rules. -/
  isOld : Bool
  status : Nat
  fields : List Field
  deriving DecidableEq, Repr

/-- A character of a name. -/
def isNameChar (c : Char) : Bool :=
  c.isAlphanum || c ∈ "!#$%&'*+-.^_`|~".toList

/-- A character of a value: no control but a tab. -/
def isValueChar (c : Char) : Bool :=
  c = '\t' || (' ' ≤ c && c ≠ '\x7F')

/-- A space or a tab. -/
def isGap (c : Char) : Bool := c = ' ' || c = '\t'

/-- A value without spaces and tabs at its ends. -/
def trimGaps (value : List Char) : List Char :=
  ((value.dropWhile isGap).reverse.dropWhile isGap).reverse

/-- The name of a field has at most so many characters. -/
def maxName : Nat := 65535

/-- Reads a field. Nothing may stand between the name and the colon. -/
def Field.read? (line : List Char) : Option Field :=
  let name := line.takeWhile isNameChar
  match line.drop name.length with
  | ':' :: value =>
    if name.isEmpty || maxName < name.length || !value.all isValueChar then none
    else some ⟨name.map Char.toLower, trimGaps value⟩
  | _ => none

/-- Reads the fields up to the empty line, and gives what stands after it. -/
def readFields? (bytes : Bytes) : Option (List Field × Bytes) :=
  match h : line? bytes with
  | none => none
  | some ([], rest) => some ([], rest)
  | some (line, rest) =>
    have : rest.length < bytes.length := length_of_line h
    (Field.read? line).bind fun field =>
      (readFields? rest).map fun (fields, after) => (field :: fields, after)
termination_by bytes.length

/-- What is left after the fields is shorter. -/
theorem length_of_read_fields {bytes after : Bytes} {fields : List Field}
    (h : readFields? bytes = some (fields, after)) : after.length < bytes.length := by
  fun_induction readFields? bytes generalizing fields after with
  | case1 => cases h
  | case2 bytes rest hline =>
      cases h
      exact length_of_line hline
  | case3 bytes line rest _ hline hrest ih =>
      obtain ⟨field, -, hmap⟩ := Option.bind_eq_some_iff.1 h
      obtain ⟨⟨fields', after'⟩, hread, hpair⟩ := Option.map_eq_some_iff.1 hmap
      cases hpair
      exact Nat.lt_trans (ih hread) hrest

/-- Reads the line with the status: whether it is of the first version, and the status. A phrase
may stand behind it. -/
def readStatus? (line : List Char) : Option (Bool × Nat) :=
  let version := line.take 8
  if version = "HTTP/1.0".toList ∨ version = "HTTP/1.1".toList then
    let isOld : Bool := version = "HTTP/1.0".toList
    match line.drop 8 with
    | ' ' :: a :: b :: c :: phrase =>
      if phrase.head?.all (· = ' ') && phrase.all isValueChar then
        (nat? [a, b, c]).bind fun status => if 100 ≤ status then some (isOld, status) else none
      else none
    | _ => none
  else none

/-- A head has at most so many fields. -/
def maxFields : Nat := 100

/-- A head takes up at most so many bytes, with the empty lines before it. More of it are not waited
for: bytes are taken to arrive one by one, and of a larger head that arrives in greater pieces it
depends on these whether all of it is there by then. -/
def maxHead : Nat := 417792

/-- Reads the lines of a head, before which there may be empty ones, and gives what stands after
it. -/
def Head.readLines? (bytes : Bytes) : Option (Head × Bytes) :=
  match h : line? bytes with
  | none => none
  | some ([], rest) =>
    have : rest.length < bytes.length := length_of_line h
    Head.readLines? rest
  | some (line, rest) =>
    (readStatus? line).bind fun (isOld, status) =>
      (readFields? rest).bind fun (fields, after) =>
        if fields.length ≤ maxFields then some (⟨isOld, status, fields⟩, after) else none
termination_by bytes.length

/-- Reads a head that is not too large, and gives what stands after it. -/
def Head.read? (bytes : Bytes) : Option (Head × Bytes) :=
  (Head.readLines? bytes).filter fun (_, after) => bytes.length - after.length ≤ maxHead

/-- What is left after the lines of a head is shorter. -/
theorem length_of_read_lines {bytes after : Bytes} {head : Head}
    (h : Head.readLines? bytes = some (head, after)) : after.length < bytes.length := by
  fun_induction Head.readLines? bytes with
  | case1 => cases h
  | case2 bytes rest hline hrest ih => exact Nat.lt_trans (ih h) hrest
  | case3 bytes line rest _ hline =>
      obtain ⟨⟨isOld, status⟩, -, hfields⟩ := Option.bind_eq_some_iff.1 h
      obtain ⟨⟨fields, after'⟩, hread, hsome⟩ := Option.bind_eq_some_iff.1 hfields
      simp only at hsome
      split at hsome
      · cases hsome
        exact Nat.lt_trans (length_of_read_fields hread) (length_of_line hline)
      · cases hsome

/-- What is left after a head is shorter. -/
theorem length_of_read_head {bytes after : Bytes} {head : Head}
    (h : Head.read? bytes = some (head, after)) : after.length < bytes.length :=
  length_of_read_lines (Option.filter_eq_some_iff.1 h).1

/-- The status only informs, and another head follows. -/
def Head.isInterim (head : Head) : Bool :=
  head.status < 200 && head.status ≠ 101

/-- Reads the head of the answer itself, and gives what stands after it. -/
def Head.readFinal? (bytes : Bytes) : Option (Head × Bytes) :=
  match h : Head.read? bytes with
  | none => none
  | some (head, rest) =>
    have : rest.length < bytes.length := length_of_read_head h
    if head.isInterim then Head.readFinal? rest else some (head, rest)
termination_by bytes.length

/-! ## Framing -/

/-- Where a body ends. -/
inductive Framing where
  /-- There is no body. -/
  | empty
  /-- After a number of bytes. -/
  | sized (length : Nat)
  /-- After a chunk without bytes. -/
  | chunked
  /-- Where nothing follows any more. -/
  | untilClose
  deriving DecidableEq, Repr

/-- The values of the fields with a name. -/
def Head.values (head : Head) (name : String) : List (List Char) :=
  (head.fields.filter (·.name = name.toList)).map (·.value)

/-- The body is in chunks: that is the last of the codings that the last field names. -/
def isChunked (codings : List (List Char)) : Bool :=
  codings.getLast?.any fun value =>
    value.all (· ≤ '\x7F') &&
      (splitAt ',' value).getLast?.any fun coding =>
        (trimGaps coding).map Char.toLower = "chunked".toList

/-- The largest length that a body may have. -/
def maxLength : Nat := Nat.pow 2 64 - 3

/-- The length that fields agree on. -/
def agreedLength? (values : List (List Char)) : Option Nat := do
  let lengths ← (values.flatMap (splitAt ',')).mapM fun text => nat? (trimGaps text)
  match lengths with
  | [] => none
  | length :: rest =>
    if rest.all (· = length) && length ≤ maxLength then some length else none

/-- Where the body behind a head ends, if the fields make sense. -/
def Head.framing? (head : Head) : Option Framing :=
  let codings := head.values "transfer-encoding"
  let lengths := head.values "content-length"
  if head.status = 101 || head.status = 204 || head.status = 304 then some .empty
  else if !codings.isEmpty then
    if head.isOld then none
    else if isChunked codings then some .chunked
    else some .untilClose
  else if lengths.isEmpty then some .untilClose
  else (agreedLength? lengths).map .sized

end CatalogView.Http
