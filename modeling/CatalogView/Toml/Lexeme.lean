import CatalogView.Text.CodeSet
import CatalogView.Text.Numeral
import CatalogView.Text.Part

/-!
# The lexemes of TOML

Keys, strings, numbers and dates. A lexeme is read from the front of a text, and what is left of
the text is given back with its value.
-/

namespace CatalogView.Toml

open CatalogView.Text

/-- Reads something from the front of a text. -/
abbrev Reader (α : Type) := List Char → Option (α × List Char)

/-- Blanks within a line. -/
def isGap (c : Char) : Bool := c = ' ' || c = '\t'

/-- A character that may stand in a comment or a text: no control but the tab. -/
def isPlain (c : Char) : Bool := c = '\t' || (' ' ≤ c && c ≠ '\x7F')

/-- The text after its blanks. -/
def skipGap (text : List Char) : List Char := text.dropWhile isGap

/-- The text after a comment, if it begins with one. -/
def skipComment : List Char → List Char
  | '#' :: rest => rest.dropWhile isPlain
  | text => text

/-- The text after the end of a line. -/
def newline? : List Char → Option (List Char)
  | '\n' :: rest => some rest
  | '\r' :: '\n' :: rest => some rest
  | _ => none

/-- The text after what may stand behind a value or a header on its line, and after that line. -/
def endLine? (text : List Char) : Option (List Char) :=
  match skipComment (skipGap text) with
  | [] => some []
  | rest => newline? rest

/-- The text after blanks, ends of lines and comments. The number bounds how many there are. -/
def skipLines : Nat → List Char → List Char
  | 0, text => text
  | fuel + 1, text =>
    let rest := skipComment (skipGap text)
    match newline? rest with
    | some next => skipLines fuel next
    | none => rest

/-- Blanks, ends of lines and comments are skipped. -/
def skipAll (text : List Char) : List Char := skipLines text.length text

/-! ## Strings -/

/-- The character with a code point, if there is one. -/
def charOfCode? (code : Nat) : Option Char :=
  if code.isValidChar then some (Char.ofNat code) else none

/-- Reads so many hexadecimal digits as a number. -/
def hexDigits? : Nat → Nat → Reader Nat
  | 0, sofar, text => some (sofar, text)
  | count + 1, sofar, c :: rest => do
    let digit ← hexDigit? c
    hexDigits? count (sofar * 16 + digit) rest
  | _ + 1, _, [] => none

/-- Reads what follows the backslash of an escape. -/
def escape? : Reader Char
  | 'b' :: rest => some ('\x08', rest)
  | 't' :: rest => some ('\t', rest)
  | 'n' :: rest => some ('\n', rest)
  | 'f' :: rest => some ('\x0C', rest)
  | 'r' :: rest => some ('\r', rest)
  | '"' :: rest => some ('"', rest)
  | '\\' :: rest => some ('\\', rest)
  | 'u' :: rest => do
    let (code, rest) ← hexDigits? 4 0 rest
    return (← charOfCode? code, rest)
  | 'U' :: rest => do
    let (code, rest) ← hexDigits? 8 0 rest
    return (← charOfCode? code, rest)
  | _ => none

/-- The text after blanks and ends of lines. -/
def skipBlankLines : List Char → List Char
  | '\n' :: rest => skipBlankLines rest
  | '\r' :: '\n' :: rest => skipBlankLines rest
  | c :: rest => if isGap c then skipBlankLines rest else c :: rest
  | [] => []

/-- The text after the blanks and ends of lines that a backslash at the end of a line hides. -/
def skipHidden (text : List Char) : Option (List Char) :=
  (newline? (skipGap text)).map skipBlankLines

/-- How a string is written: with which quotes, and whether over several lines. -/
structure Quotes where
  mark : Char
  isLong : Bool

/-- Escapes stand for characters. -/
def Quotes.hasEscapes (quotes : Quotes) : Bool := quotes.mark = '"'

/-- Reads the rest of a string, after some characters of it, last first. The number bounds how
many follow. In a string over several lines up to two quotes stand for themselves, also right
before the three that end it. -/
def stringRest? (quotes : Quotes) : Nat → List Char → Reader String
  | 0, _, _ => none
  | _ + 1, _, [] => none
  | fuel + 1, found, c :: rest =>
    let mark := quotes.mark
    if c = mark then
      if quotes.isLong then
        let count := (rest.takeWhile (· = mark)).length + 1
        if count < 3 then stringRest? quotes fuel (c :: found) rest
        else
          let kept := min (count - 3) 2
          some (.ofList (List.replicate kept mark ++ found).reverse, rest.drop (kept + 2))
      else some (.ofList found.reverse, rest)
    else if c = '\\' && quotes.hasEscapes then
      match escape? rest with
      | some (escaped, rest) => stringRest? quotes fuel (escaped :: found) rest
      | none =>
        if quotes.isLong then do stringRest? quotes fuel found (← skipHidden rest) else none
    else if isPlain c then stringRest? quotes fuel (c :: found) rest
    else if quotes.isLong then do
      stringRest? quotes fuel ('\n' :: found) (← newline? (c :: rest))
    else none

/-- Reads a string on one line, after its first quote. -/
def shortString? (mark : Char) : Reader String := fun text =>
  stringRest? { mark, isLong := false } (text.length + 1) [] text

/-- Reads a string over several lines, after its first three quotes. The end of the line that they
stand on does not belong to it. -/
def longString? (mark : Char) : Reader String := fun text =>
  let body := (newline? text).getD text
  stringRest? { mark, isLong := true } (body.length + 1) [] body

/-- Reads a string. -/
def string? : Reader String
  | '"' :: '"' :: '"' :: rest => longString? '"' rest
  | '\'' :: '\'' :: '\'' :: rest => longString? '\'' rest
  | '"' :: rest => shortString? '"' rest
  | '\'' :: rest => shortString? '\'' rest
  | _ => none

/-! ## Keys -/

/-- A character of a key without quotes. -/
def isBare (c : Char) : Bool :=
  c.isAlphanum || c = '_' || c = '-'

/-- Reads a part of a key. -/
def keyPart? : Reader String
  | '"' :: rest => shortString? '"' rest
  | '\'' :: rest => shortString? '\'' rest
  | text =>
    match text.takeWhile isBare with
    | [] => none
    | name => some (.ofList name, text.dropWhile isBare)

/-- The number of parts that a key stays below. -/
def maxKeyParts : Nat := 80

/-- Reads the parts of a key, which stand between its dots, with blanks around them. The number
bounds how many there are. -/
def keyParts? : Nat → Reader (List String)
  | 0, _ => none
  | fuel + 1, text => do
    let (part, rest) ← keyPart? (skipGap text)
    match skipGap rest with
    | '.' :: rest =>
      let (parts, rest) ← keyParts? fuel rest
      return (part :: parts, rest)
    | rest => return ([part], rest)

/-- Reads a key. The last of its parts stands alone. -/
def key? : Reader (List String × String) := fun text => do
  let (parts, rest) ← keyParts? (maxKeyParts - 1) text
  let last ← parts.getLast?
  return ((parts.dropLast, last), rest)

/-! ## Numbers -/

/-- The digits of a number, where one underscore may stand between two of them. -/
def digits? (isMember : Char → Bool) : List Char → Option (List Char)
  | [] => none
  | [c] => if isMember c then some [c] else none
  | c :: '_' :: rest => if isMember c then (digits? isMember rest).map (c :: ·) else none
  | c :: d :: rest => if isMember c then (digits? isMember (d :: rest)).map (c :: ·) else none

/-- A sign and what follows it. -/
def splitSign : List Char → Bool × List Char
  | '-' :: rest => (true, rest)
  | '+' :: rest => (false, rest)
  | text => (false, text)

/-- The digits of a decimal number that begins with a zero only if it is zero. -/
def wholeDigits? (text : List Char) : Option (List Char) := do
  let digits ← digits? isDigit text
  if digits.head? = some '0' ∧ text ≠ ['0'] then none else some digits

/-- The number that digits of a base stand for. -/
def ofDigits (base : Nat) (digits : List Char) : Nat :=
  digits.foldl (fun sofar c => sofar * base + (hexDigit? c).getD 0) 0

/-- The number is one of the integers of 64 bits. -/
def isInteger64 (n : Int) : Bool := -(Int.pow 2 63) ≤ n && n < Int.pow 2 63

/-- The integer that a word is written for. -/
def integer? (word : List Char) : Option Int := do
  let n : Int ←
    match word with
    | '0' :: 'x' :: rest =>
      (digits? (fun c => (hexDigit? c).isSome) rest).map fun digits => (ofDigits 16 digits : Int)
    | '0' :: 'o' :: rest =>
      (digits? (fun c => '0' ≤ c && c ≤ '7') rest).map fun digits => (ofDigits 8 digits : Int)
    | '0' :: 'b' :: rest =>
      (digits? (fun c => c = '0' || c = '1') rest).map fun digits => (ofDigits 2 digits : Int)
    | _ =>
      let (negative, rest) := splitSign word
      (wholeDigits? rest).map fun digits =>
        if negative then -(ofDigits 10 digits : Int) else (ofDigits 10 digits : Int)
  if isInteger64 n then some n else none

/-- The decimal `digits * 10 ^ exponent` is so great that the nearest number of a float is
infinite. -/
def isInfinite (digits : Nat) (exponent : Int) : Bool :=
  let length := (Nat.toDigits 10 digits).length
  if digits = 0 ∨ length + exponent < 308 then false
  else if 310 < length + exponent then true
  else
    let bound := Nat.pow 2 1024 - Nat.pow 2 970
    if 0 ≤ exponent then bound ≤ digits * Nat.pow 10 exponent.toNat
    else bound * Nat.pow 10 exponent.natAbs ≤ digits

/-- The exponent of a float, after its letter. -/
def exponent? (text : List Char) : Option Int := do
  let (negative, rest) := splitSign text
  let digits ← digits? isDigit rest
  return if negative then -(ofDigits 10 digits : Int) else ofDigits 10 digits

/-- A float has a fraction or an exponent, or is a word of its own. A positive one that is too
great is none. -/
def isFloat (word : List Char) : Bool :=
  let (negative, unsigned) := splitSign word
  if unsigned = ['i', 'n', 'f'] ∨ unsigned = ['n', 'a', 'n'] then true
  else
    let mantissa := unsigned.takeWhile fun c => c ≠ 'e' && c ≠ 'E'
    let scale := unsigned.drop mantissa.length
    let exponent? := if scale.isEmpty then some 0 else exponent? (scale.drop 1)
    let parts? : Option (List Char × List Char) :=
      match splitAt '.' mantissa with
      | [whole] => do if scale.isEmpty then none else return (← wholeDigits? whole, [])
      | [whole, fraction] => do return (← wholeDigits? whole, ← digits? isDigit fraction)
      | _ => none
    match parts?, exponent? with
    | some (whole, fraction), some exponent =>
      negative || !isInfinite (ofDigits 10 (whole ++ fraction)) (exponent - fraction.length)
    | _, _ => false

/-! ## Dates -/

/-- The number written with exactly so many digits. -/
def fixed? (count : Nat) (text : List Char) : Option Nat :=
  if text.length = count then nat? text else none

/-- The number of days of a month. -/
def daysOf (year month : Nat) : Nat :=
  if month = 2 then
    if year % 4 = 0 ∧ (year % 100 ≠ 0 ∨ year % 400 = 0) then 29 else 28
  else if month = 4 ∨ month = 6 ∨ month = 9 ∨ month = 11 then 30
  else 31

/-- The text is a day such as `1979-05-27`. -/
def isDay (text : List Char) : Bool :=
  match splitAt '-' text with
  | [year, month, day] =>
    match fixed? 4 year, fixed? 2 month, fixed? 2 day with
    | some year, some month, some day =>
      1 ≤ month && month ≤ 12 && 1 ≤ day && day ≤ daysOf year month
    | _, _, _ => false
  | _ => false

/-- The text is an hour and a minute such as `07:32`. -/
def isClock (text : List Char) : Bool :=
  match splitAt ':' text with
  | [hour, minute] =>
    match fixed? 2 hour, fixed? 2 minute with
    | some hour, some minute => hour ≤ 23 && minute ≤ 59
    | _, _ => false
  | _ => false

/-- The text is a second with a fraction or without, such as `00.5`. -/
def isSecond (text : List Char) : Bool :=
  match fixed? 2 (text.take 2) with
  | some second =>
    second ≤ 60 &&
      match text.drop 2 with
      | [] => true
      | '.' :: fraction => !fraction.isEmpty && fraction.all isDigit
      | _ => false
  | none => false

/-- The text is a time of day such as `07:32:00`. -/
def isTime (text : List Char) : Bool :=
  isClock (text.take 5) && text[5]? = some ':' && isSecond (text.drop 6)

/-- The text is a time of day, with the distance from universal time or without. -/
def isTimeWithOffset (text : List Char) : Bool :=
  let time := text.takeWhile fun c => c ≠ 'Z' && c ≠ 'z' && c ≠ '+' && c ≠ '-'
  isTime time &&
    match text.drop time.length with
    | [] | ['Z'] | ['z'] => true
    | '+' :: offset | '-' :: offset => isClock offset
    | _ => false

/-- The text is a day, a time of day or both. -/
def isDate (text : List Char) : Bool :=
  isTime text || isDay text ||
    (isDay (text.take 10) && (text[10]? = some 'T' || text[10]? = some 't') &&
      isTimeWithOffset (text.drop 11))

/-- A character of a number, of a date or of a word such as `true`. -/
def isWordChar (c : Char) : Bool :=
  c.isAlphanum || c = '+' || c = '-' || c = '_' || c = '.' || c = ':'

end CatalogView.Toml
