import CatalogView.Proofs.Json.RoundTrip

/-!
# JSON texts

A `Tree` is a JSON value with all that can be chosen when it is written: the blanks between its
parts, the order of its members, the escapes in its texts and the form of its numbers. `Tree.bytes`
writes it down. What must not follow a value is only what would go on with a number (`EndsNumber`).
-/

namespace CatalogView.Json

open CatalogView.Text

/-- Blanks between the parts of a document. -/
structure Gap where
  bytes : Bytes
  blank : ∀ b ∈ bytes, isBlank b = true

/-- No blanks. -/
def Gap.none : Gap := ⟨[], nofun⟩

/-- Digits, of which there is at least one. -/
structure Digits where
  first : UInt8
  more : Bytes
  digit : isDigit first = true
  digits : ∀ d ∈ more, isDigit d = true

/-- The bytes of digits. -/
def Digits.bytes (digits : Digits) : Bytes := digits.first :: digits.more

/-- The number that digits stand for. -/
def Digits.value (digits : Digits) : Nat :=
  digits.more.foldl (fun sofar d => sofar * 10 + digitValue d) (digitValue digits.first)

/-- The exponent of a number, with its mark and the sign that may stand before its digits. -/
structure Exponent where
  mark : UInt8
  sign : Bytes
  digits : Digits
  isMark : isExponentMark mark = true
  isSign : sign ∈ [[], [byte '+'], [byte '-']]

/-- The bytes of an exponent. -/
def Exponent.bytes (exponent : Exponent) : Bytes :=
  exponent.mark :: (exponent.sign ++ exponent.digits.bytes)

/-- A number as it is written. -/
structure Numeral where
  isNegative : Bool := false
  whole : Digits
  fraction? : Option Digits := none
  exponent? : Option Exponent := none
  /-- No zero leads. -/
  zero : whole.first = byte '0' → whole.more = []

/-- The bytes of a fraction, if there is one. -/
def fractionBytes : Option Digits → Bytes
  | none => []
  | some digits => byte '.' :: digits.bytes

/-- The bytes of an exponent, if there is one. -/
def exponentBytes : Option Exponent → Bytes
  | none => []
  | some exponent => exponent.bytes

/-- The bytes of a number after its sign. -/
def Numeral.unsigned (numeral : Numeral) : Bytes :=
  numeral.whole.bytes ++ (fractionBytes numeral.fraction? ++ exponentBytes numeral.exponent?)

/-- The bytes of a number. -/
def Numeral.bytes (numeral : Numeral) : Bytes :=
  if numeral.isNegative then byte '-' :: numeral.unsigned else numeral.unsigned

/-- A part of a string. The bytes of a character that is not escaped are each a part. -/
inductive Part where
  | plain (b : UInt8) (isPlain : IsPlain b)
  | escape (letter : UInt8) (isEscape : (escaped? letter).isSome = true)
  | unit (a b c d : UInt8) (isUnit : (hexFour? [d, c, b, a]).isSome = true)

/-- The bytes of a part of a string. -/
def Part.bytes : Part → Bytes
  | .plain b _ => [b]
  | .escape letter _ => [byte '\\', letter]
  | .unit a b c d _ => [byte '\\', byte 'u', a, b, c, d]

/-- The bytes of a string from after its opening quote. -/
def closedBytes (parts : List Part) : Bytes :=
  parts.flatMap Part.bytes ++ [byte '"']

/-- Something with blanks around it. -/
structure Spaced (α : Type) where
  before : Gap := .none
  item : α
  after : Gap := .none

/-- A member of an object. -/
structure Member (α : Type) where
  before : Gap := .none
  key : List Part
  between : Gap := .none
  value : Spaced α

/-- A JSON value as it is written. The blanks inside of a list or an object are those before its
first part, or all that stands in it. -/
inductive Tree where
  | null
  | boolean (value : Bool)
  | number (numeral : Numeral)
  | text (parts : List Part)
  | list (inside : Gap) (elements : List (Spaced Tree))
  | object (inside : Gap) (members : List (Member Tree))

mutual

/-- The bytes of a value. -/
def Tree.bytes : Tree → Bytes
  | .null => ascii ['n', 'u', 'l', 'l']
  | .boolean true => ascii ['t', 'r', 'u', 'e']
  | .boolean false => ascii ['f', 'a', 'l', 's', 'e']
  | .number numeral => numeral.bytes
  | .text parts => byte '"' :: closedBytes parts
  | .list inside elements =>
    byte '[' :: (inside.bytes ++ (separate (elementsBytes elements) ++ [byte ']']))
  | .object inside members =>
    byte '\x7b' :: (inside.bytes ++ (separate (membersBytes members) ++ [byte '\x7d']))

/-- The bytes of a value with blanks around it. -/
def elementBytes : Spaced Tree → Bytes
  | ⟨before, value, after⟩ => before.bytes ++ (value.bytes ++ after.bytes)

/-- The bytes of each of the elements of a list. -/
def elementsBytes : List (Spaced Tree) → List Bytes
  | [] => []
  | element :: elements => elementBytes element :: elementsBytes elements

/-- The bytes of a member. -/
def memberBytes : Member Tree → Bytes
  | ⟨before, key, between, value⟩ =>
    before.bytes ++ (byte '"' :: (closedBytes key ++
      (between.bytes ++ (byte ':' :: elementBytes value))))

/-- The bytes of each of the members of an object. -/
def membersBytes : List (Member Tree) → List Bytes
  | [] => []
  | member :: members => memberBytes member :: membersBytes members

end

/-- A whole document. -/
abbrev Document := Spaced Tree

/-- The bytes of a document. -/
def Spaced.bytes (document : Document) : Bytes := elementBytes document

/-! ## Blanks -/

/-- Blanks are skipped before anything. -/
theorem skip_blanks_gap (gap : Gap) (bytes : Bytes) :
    skipBlanks (gap.bytes ++ bytes) = skipBlanks bytes :=
  List.dropWhile_append_of_pos gap.blank

/-- The blanks before something else are skipped. -/
theorem skip_blanks_gap_cons (gap : Gap) {b : UInt8} (h : isBlank b = false) (rest : Bytes) :
    skipBlanks (gap.bytes ++ b :: rest) = b :: rest := by
  rw [skip_blanks_gap, skip_blanks_cons h]

/-- A blank does not belong to a number. -/
theorem EndsNumber.gap (gap : Gap) {rest : Bytes} (h : EndsNumber rest) :
    EndsNumber (gap.bytes ++ rest) := by
  obtain ⟨bytes, hblank⟩ := gap
  cases bytes with
  | nil => exact h
  | cons b bytes =>
      intro c hc
      obtain rfl : b = c := by simpa using hc
      have hb := hblank b (List.mem_cons_self ..)
      simp only [isBlank, Bool.or_eq_true, beq_iff_eq] at hb
      rcases hb with ((rfl | rfl) | rfl) | rfl <;> decide

/-! ## How values begin -/

/-- The byte begins a value: it is no blank and no closing bracket, and it says of what kind the
value is. -/
structure Tree.BeginsWith (tree : Tree) (b : UInt8) : Prop where
  blank : isBlank b = false
  close : b ≠ byte ']'
  null : b = byte 'n' → tree = .null
  number : b = byte '-' ∨ isDigit b = true → ∃ numeral, tree = .number numeral
  text : b = byte '"' → ∃ parts, tree = .text parts
  list : b = byte '[' → ∃ inside elements, tree = .list inside elements
  object : b = byte '\x7b' → ∃ inside members, tree = .object inside members

/-- Every value begins with such a byte. -/
theorem Tree.begins (tree : Tree) :
    ∃ b more, tree.bytes = b :: more ∧ tree.BeginsWith b := by
  have hother : ∀ {tree : Tree} {b : UInt8}, isBlank b = false → isDigit b = false →
      b ∉ [byte ']', byte 'n', byte '-', byte '"', byte '[', byte '\x7b'] →
      tree.BeginsWith b := by
    intro tree b hblank hdigit hb
    simp only [List.mem_cons, List.not_mem_nil, or_false, not_or] at hb
    obtain ⟨hclose, hnull, hminus, htext, hlist, hobject⟩ := hb
    exact ⟨hblank, hclose, fun h => absurd h hnull,
      fun h => absurd h (by simp [hminus, hdigit]), fun h => absurd h htext,
      fun h => absurd h hlist, fun h => absurd h hobject⟩
  cases tree with
  | null =>
      exact ⟨byte 'n', _, rfl, rfl, by decide, fun _ => rfl, fun h => absurd h (by decide),
        fun h => absurd h (by decide), fun h => absurd h (by decide),
        fun h => absurd h (by decide)⟩
  | boolean value =>
      cases value with
      | true => exact ⟨byte 't', _, rfl, hother rfl rfl (by decide)⟩
      | false => exact ⟨byte 'f', _, rfl, hother rfl rfl (by decide)⟩
  | number numeral =>
      have hdigit := numeral.whole.digit
      have hne : ∀ c, isDigit c = false → numeral.whole.first ≠ c := fun c hc =>
        ne_of_digit hdigit hc
      cases hnegative : numeral.isNegative with
      | true =>
          refine ⟨byte '-', numeral.unsigned, ?_, rfl, by decide, fun h => absurd h (by decide),
            fun _ => ⟨numeral, rfl⟩, fun h => absurd h (by decide), fun h => absurd h (by decide),
            fun h => absurd h (by decide)⟩
          simp [Tree.bytes, Numeral.bytes, hnegative]
      | false =>
          have htext : (Tree.number numeral).bytes = numeral.whole.first :: (numeral.whole.more ++
              (fractionBytes numeral.fraction? ++ exponentBytes numeral.exponent?)) := by
            simp [Tree.bytes, Numeral.bytes, hnegative, Numeral.unsigned, Digits.bytes]
          exact ⟨_, _, htext, not_blank_of_digit hdigit, hne _ rfl, fun h => absurd h (hne _ rfl),
            fun _ => ⟨numeral, rfl⟩, fun h => absurd h (hne _ rfl), fun h => absurd h (hne _ rfl),
            fun h => absurd h (hne _ rfl)⟩
  | text parts =>
      exact ⟨byte '"', _, rfl, rfl, by decide, fun h => absurd h (by decide),
        fun h => absurd h (by decide), fun _ => ⟨parts, rfl⟩, fun h => absurd h (by decide),
        fun h => absurd h (by decide)⟩
  | list inside elements =>
      exact ⟨byte '[', _, rfl, rfl, by decide, fun h => absurd h (by decide),
        fun h => absurd h (by decide), fun h => absurd h (by decide),
        fun _ => ⟨inside, elements, rfl⟩, fun h => absurd h (by decide)⟩
  | object inside members =>
      exact ⟨byte '\x7b', _, rfl, rfl, by decide, fun h => absurd h (by decide),
        fun h => absurd h (by decide), fun h => absurd h (by decide),
        fun h => absurd h (by decide), fun _ => ⟨inside, members, rfl⟩⟩

/-! ## Parts of lists and objects -/

/-- The elements of a list are written each by itself. -/
theorem elements_bytes_eq (elements : List (Spaced Tree)) :
    elementsBytes elements = elements.map elementBytes := by
  induction elements with
  | nil => rfl
  | cons element elements ih => rw [elementsBytes, ih, List.map_cons]

/-- The members of an object are written each by itself. -/
theorem members_bytes_eq (members : List (Member Tree)) :
    membersBytes members = members.map memberBytes := by
  induction members with
  | nil => rfl
  | cons member members ih => rw [membersBytes, ih, List.map_cons]

/-- An element takes a byte. -/
theorem element_bytes_ne_nil (element : Spaced Tree) : elementBytes element ≠ [] := by
  obtain ⟨before, value, after⟩ := element
  obtain ⟨b, more, hbytes, -⟩ := value.begins
  simp [elementBytes, hbytes]

/-- A member takes a byte. -/
theorem member_bytes_ne_nil (member : Member Tree) : memberBytes member ≠ [] := by
  obtain ⟨before, key, between, value⟩ := member
  simp [memberBytes]

/-- There are no more elements than bytes. -/
theorem length_le_elements (elements : List (Spaced Tree)) :
    elements.length ≤ (separate (elementsBytes elements)).length := by
  have hparts : ∀ part ∈ elementsBytes elements, part ≠ [] := by
    intro part hmem
    rw [elements_bytes_eq] at hmem
    obtain ⟨element, -, rfl⟩ := List.mem_map.1 hmem
    exact element_bytes_ne_nil element
  have hlength := length_le_separate_after hparts true
  rwa [← separate_eq, elements_bytes_eq, List.length_map, ← elements_bytes_eq] at hlength

/-- There are no more members than bytes. -/
theorem length_le_members (members : List (Member Tree)) :
    members.length ≤ (separate (membersBytes members)).length := by
  have hparts : ∀ part ∈ membersBytes members, part ≠ [] := by
    intro part hmem
    rw [members_bytes_eq] at hmem
    obtain ⟨member, -, rfl⟩ := List.mem_map.1 hmem
    exact member_bytes_ne_nil member
  have hlength := length_le_separate_after hparts true
  rwa [← separate_eq, members_bytes_eq, List.length_map, ← members_bytes_eq] at hlength

end CatalogView.Json
