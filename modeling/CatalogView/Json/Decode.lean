import CatalogView.Json.Shape

/-!
# Reading the values of a shape

`decode` reads a whole document as a value of a shape. It goes from left to right, and the first
thing that is wrong decides how the document is refused: a value of the wrong type hides a flaw of
the text after it. A record is written as an object, whose unknown members are skipped, or as the
list of its fields in their order.
-/

namespace CatalogView.Json

open CatalogView.Text

/-- Refuses a value that begins with `b`, either because it is of the wrong type or because it is
flawed itself. The mismatch is noticed after a number, a string or a literal, but before a list or
an object. -/
def refuse {α : Type} (wanted : Wanted) (b : UInt8) (rest : Bytes) : Except Fault α := do
  let mismatch (found : Found) (rest : Bytes) : Except Fault α :=
    .error ⟨.mismatch (.wrongType found wanted), rest.length⟩
  if b = byte 'n' then
    let rest ← literal [byte 'u', byte 'l', byte 'l'] rest
    mismatch .null rest
  else if b = byte 't' then
    let rest ← literal [byte 'r', byte 'u', byte 'e'] rest
    mismatch (.boolean true) rest
  else if b = byte 'f' then
    let rest ← literal [byte 'a', byte 'l', byte 's', byte 'e'] rest
    mismatch (.boolean false) rest
  else if b = byte '-' then
    let (number, rest) ← readNumber true rest
    mismatch number.found rest
  else if isDigit b then
    let (number, rest) ← readNumber false (b :: rest)
    mismatch number.found rest
  else if b = byte '"' then
    let (text, rest) ← readString rest
    mismatch (.text text) rest
  else if b = byte '[' then mismatch .list (b :: rest)
  else if b = byte '\x7b' then mismatch .object (b :: rest)
  else .error (flawPast (b :: rest) .expectedValue)

/-- Reads a text. -/
def readText : Reader String := fun bytes =>
  match skipBlanks bytes with
  | [] => .error (flawPast [] .endOfValue)
  | b :: rest => if b = byte '"' then readString rest else refuse .text b rest

/-- Takes a number for a count, if it is an integer within the bounds. -/
def countOf (number : Number) (rest : Bytes) : Except Fault (UInt32 × Bytes) :=
  match number with
  | .real _ => .error ⟨.mismatch (.wrongType number.found .count), rest.length⟩
  | .integer value =>
    if 0 ≤ value ∧ value < Int.pow 2 32 then .ok (UInt32.ofNat value.toNat, rest)
    else .error ⟨.mismatch (.countOutOfRange value), rest.length⟩

/-- Reads a count. -/
def readCount : Reader UInt32 := fun bytes =>
  match skipBlanks bytes with
  | [] => .error (flawPast [] .endOfValue)
  | b :: rest =>
    if b = byte '-' then do
      let (number, rest) ← readNumber true rest
      countOf number rest
    else if isDigit b then do
      let (number, rest) ← readNumber false (b :: rest)
      countOf number rest
    else refuse .count b rest

/-! ## Lists -/

/-- Whether a list goes on, from before what separates its elements, and where its next element
or its closing bracket begins. -/
def nextElement (first : Bool) (bytes : Bytes) : Except Fault (Bool × Bytes) :=
  match skipBlanks bytes with
  | [] => .error (flawPast [] .endOfList)
  | b :: rest =>
    if b = byte ']' then .ok (false, b :: rest)
    else if first then .ok (true, b :: rest)
    else if b = byte ',' then
      match skipBlanks rest with
      | [] => .error (flawPast [] .endOfValue)
      | c :: after =>
        if c = byte ']' then .error (flawPast (c :: after) .trailingComma)
        else .ok (true, c :: after)
    else .error (flawPast (b :: rest) .expectedListEnd)

/-- Reads the closing bracket of a list. -/
def endList (bytes : Bytes) : Except Fault Bytes :=
  match skipBlanks bytes with
  | [] => .error (flawPast [] .endOfList)
  | b :: rest =>
    if b = byte ']' then .ok rest
    else if b = byte ',' then
      match skipBlanks rest with
      | [] => .error (flawPast [] .trailingText)
      | c :: after =>
        .error (flawPast (c :: after) (if c = byte ']' then .trailingComma else .trailingText))
    else .error (flawPast (b :: rest) .trailingText)

/-- Reads the elements of a list up to its closing bracket. Every element takes a byte, so `fuel`
need not exceed the number of bytes by more than one. -/
def elementsFrom {α : Type} (element : Reader α) : Nat → Bool → Reader (List α)
  | 0, _, _ => .error (flawAt [] .endOfList)
  | fuel + 1, first, bytes => do
    let (goesOn, bytes) ← nextElement first bytes
    if goesOn then
      let (value, bytes) ← element bytes
      let (values, bytes) ← elementsFrom element fuel false bytes
      pure (value :: values, bytes)
    else pure ([], bytes)

/-- Reads a list. -/
def readList {α : Type} (element : Reader α) : Reader (List α) := fun bytes =>
  match skipBlanks bytes with
  | [] => .error (flawPast [] .endOfValue)
  | b :: rest =>
    if b = byte '[' then do
      let (values, rest) ← elementsFrom element (rest.length + 1) true rest
      let rest ← endList rest
      pure (values, rest)
    else refuse .list b rest

/-! ## Objects -/

/-- Whether an object goes on, from before what separates its members, and what follows the
opening quote of its next key, or its closing bracket. -/
def nextKey (first : Bool) (bytes : Bytes) : Except Fault (Bool × Bytes) :=
  match skipBlanks bytes with
  | [] => .error (flawPast [] .endOfObject)
  | b :: rest =>
    if b = byte '\x7d' then .ok (false, b :: rest)
    else if first then
      if b = byte '"' then .ok (true, rest) else .error (flawPast (b :: rest) .keyNotText)
    else if b = byte ',' then
      match skipBlanks rest with
      | [] => .error (flawPast [] .endOfValue)
      | c :: after =>
        if c = byte '"' then .ok (true, after)
        else if c = byte '\x7d' then .error (flawPast (c :: after) .trailingComma)
        else .error (flawPast (c :: after) .keyNotText)
    else .error (flawPast (b :: rest) .expectedObjectEnd)

/-- Reads the colon after a key. -/
def readColon (bytes : Bytes) : Except Fault Bytes :=
  match skipBlanks bytes with
  | [] => .error (flawPast [] .endOfObject)
  | b :: rest =>
    if b = byte ':' then .ok rest else .error (flawPast (b :: rest) .expectedColon)

/-- Reads the closing bracket of an object. -/
def endObject (bytes : Bytes) : Except Fault Bytes :=
  match skipBlanks bytes with
  | [] => .error (flawPast [] .endOfObject)
  | b :: rest =>
    if b = byte '\x7d' then .ok rest
    else .error (flawPast (b :: rest) (if b = byte ',' then .trailingComma else .trailingText))

/-- Where a mismatch of a record as a whole is noticed: after the bracket that may close it. -/
def pastClose (close : UInt8) (bytes : Bytes) : Bytes :=
  match skipBlanks bytes with
  | [] => []
  | b :: rest => if b = close then rest else b :: rest

/-- Reads the members of an object up to its closing bracket. What a member does to the values
read so far is given by its key. Every member takes a byte, so `fuel` need not exceed the number
of bytes by more than one. -/
def membersFrom {σ : Type} (member : String → σ → Reader σ) : Nat → Bool → σ → Reader σ
  | 0, _, _, _ => .error (flawAt [] .endOfObject)
  | fuel + 1, first, slots, bytes => do
    let (goesOn, bytes) ← nextKey first bytes
    if goesOn then
      let (key, bytes) ← readString bytes
      let (slots, bytes) ← member key slots bytes
      membersFrom member fuel false slots bytes
    else pure (slots, bytes)

/-! ## Values of a shape -/

mutual

/-- Reads a value of a shape. -/
def Shape.read : (shape : Shape) → Reader shape.Value
  | .text => readText
  | .count => readCount
  | .optional inner => fun bytes =>
    match skipBlanks bytes with
    | [] => do
      let (value, rest) ← inner.read []
      pure (some value, rest)
    | b :: rest =>
      if b = byte 'n' then do
        let rest ← literal [byte 'u', byte 'l', byte 'l'] rest
        pure ((none : Option inner.Value), rest)
      else do
        let (value, rest) ← inner.read (b :: rest)
        pure ((some value : Option inner.Value), rest)
  | .list element => readList element.read
  | .record name fields => fun bytes =>
    match skipBlanks bytes with
    | [] => .error (flawPast [] .endOfValue)
    | b :: rest =>
      if b = byte '[' then do
        let (values, rest) ← fields.readElements name fields.size 0 rest
        let rest ← endList rest
        pure (values, rest)
      else if b = byte '\x7b' then do
        let (slots, rest) ←
          membersFrom fields.readMember (rest.length + 1) true fields.unread rest
        match fields.close slots with
        | .ok values =>
          let rest ← endObject rest
          pure (values, rest)
        | .error mismatch => .error ⟨.mismatch mismatch, (pastClose (byte '\x7d') rest).length⟩
      else refuse (.record name) b rest

/-- Reads the fields of a record from the elements of a list, of which `index` have been read
already. -/
def Fields.readElements (name : String) (size : Nat) :
    (fields : Fields) → Nat → Reader fields.Values
  | .nil, _, bytes => .ok ((), bytes)
  | .cons _ shape mayBeOmitted rest, index, bytes => do
    let (goesOn, bytes) ← nextElement (index == 0) bytes
    let (value, bytes) ←
      if goesOn then shape.read bytes
      else if mayBeOmitted then .ok (shape.blank, bytes)
      else .error ⟨.mismatch (.wrongLength index name size), (pastClose (byte ']') bytes).length⟩
    let (values, bytes) ← rest.readElements name size (index + 1) bytes
    pure ((value, values), bytes)

/-- Reads the member of an object with the given key, from after the key. A member of another
name is skipped, and one that has been read already is refused. -/
def Fields.readMember : (fields : Fields) → String → fields.Slots → Reader fields.Slots
  | .nil, _, _, bytes => do
    let bytes ← readColon bytes
    let bytes ← skipValue bytes
    pure ((), bytes)
  | .cons name shape _ rest, key, (slot, slots), bytes =>
    if key = name then
      match slot with
      | some _ =>
        .error ⟨.mismatch (.repeatedField name), (pastClose (byte '\x7d') bytes).length⟩
      | none => do
        let bytes ← readColon bytes
        let (value, bytes) ← shape.read bytes
        pure ((some value, slots), bytes)
    else do
      let (slots, bytes) ← rest.readMember key slots bytes
      pure ((slot, slots), bytes)

end

/-- Reads a whole document as a value of a shape. -/
def Shape.decode (shape : Shape) (document : Bytes) : Except Fault shape.Value := do
  let (value, rest) ← shape.read document
  match skipBlanks rest with
  | [] => pure value
  | b :: rest => .error (flawPast (b :: rest) .trailingText)

end CatalogView.Json
