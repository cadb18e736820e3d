import CatalogView.Http.Head
import CatalogView.Text.CodeSet

/-!
# Responses

A response is the head of the answer and a body. The body may be cut short, or be no sequence of
chunks although the head says so. The response is still there then, but its body is not. There is
none, though, if the head does not say where its body ends: that is read with the head (`Arrival`).
-/

namespace CatalogView.Http

open CatalogView.Text

/-- A response. The body is missing if it is incomplete. -/
structure Response where
  status : Nat
  body? : Option Bytes
  deriving DecidableEq, Repr

/-- The number that hexadecimal digits stand for. -/
def hexNat (digits : List Char) : Nat :=
  digits.foldl (fun sofar c => sofar * 16 + (hexDigit? c).getD 0) 0

/-- The length of a chunk from the line before it. Behind the length there may be spaces, and an
extension after a semicolon. -/
def chunkLength? (line : List Char) : Option Nat :=
  let digits := line.takeWhile fun c => (hexDigit? c).isSome
  let behind := (line.drop digits.length).dropWhile isGap
  if digits.isEmpty || !behind.head?.all (· = ';') || Nat.pow 2 64 ≤ hexNat digits then none
  else some (hexNat digits)

/-- The number of characters behind the semicolon in the line before a chunk. -/
def extensionLength (line : List Char) : Nat :=
  (line.dropWhile (· ≠ ';')).length - 1

/-- The extensions of all chunks of a body have at most so many characters. -/
def maxExtensions : Nat := 16383

/-- The fields behind the last chunk, if there are any, take up at most so many bytes. -/
def maxTrailer : Nat := 16383

/-- The fields behind the last chunk are well formed and end with an empty line. There are at most
so many of them, and they have room with their ends. -/
def hasTrailer (fields room : Nat) (bytes : Bytes) : Bool :=
  match h : strictLine? bytes with
  | none => false
  | some ([], _) => 2 ≤ room
  | some (line, rest) =>
    have : rest.length < bytes.length := length_of_strict_line h
    let size := line.length + 2
    (Field.read? line).isSome && 0 < fields && size ≤ room &&
      hasTrailer (fields - 1) (room - size) rest
termination_by bytes.length

/-- The bytes behind a chunk, after the end of its line. -/
def dropLineEnd? : Bytes → Option Bytes
  | 0x0D :: 0x0A :: rest => some rest
  | _ => none

/-- The end of a line takes bytes. -/
theorem length_of_drop_line_end {bytes rest : Bytes} (h : dropLineEnd? bytes = some rest) :
    rest.length < bytes.length := by
  unfold dropLineEnd? at h
  split at h
  · cases h
    simp only [List.length_cons]
    omega
  · cases h

/-- Reads a body of chunks, where there is room for so many characters in extensions. -/
def readChunks? (room : Nat) (bytes : Bytes) : Option Bytes :=
  match h : strictLine? bytes with
  | none => none
  | some (line, rest) =>
    let size := extensionLength line
    match chunkLength? line with
    | none => none
    | some 0 =>
      if size ≤ room && hasTrailer maxFields maxTrailer rest then some [] else none
    | some length =>
      match hend : dropLineEnd? (rest.drop length) with
      | none => none
      | some after =>
        have : after.length < bytes.length := by
          have hline := length_of_strict_line h
          have hdrop := length_of_drop_line_end hend
          rw [List.length_drop] at hdrop
          omega
        if size ≤ room then (readChunks? (room - size) after).map (rest.take length ++ ·) else none
termination_by bytes.length

/-- The body that begins bytes, if it is complete. -/
def Framing.body? (bytes : Bytes) : Framing → Option Bytes
  | .empty => some []
  | .sized length => if length ≤ bytes.length then some (bytes.take length) else none
  | .chunked => readChunks? maxExtensions bytes
  | .untilClose => some bytes

/-- What arrives of an answer: its head, where its body ends, and the bytes behind the head. -/
structure Arrival where
  head : Head
  framing : Framing
  rest : Bytes
  deriving DecidableEq, Repr

namespace Arrival

/-- What arrives with all bytes of a reply, if they begin with the head of an answer and its fields
say where the body ends. A head with fields that make no sense for that is none. -/
def read? (bytes : Bytes) : Option Arrival := do
  let (head, rest) ← Head.readFinal? bytes
  return { head, framing := ← head.framing?, rest }

/-- The body that arrives, if all of it does. -/
def body? (arrival : Arrival) : Option Bytes :=
  arrival.framing.body? arrival.rest

/-- What arrives as a response. -/
def response (arrival : Arrival) : Response :=
  { status := arrival.head.status, body? := arrival.body? }

end Arrival

/-- Reads a response from all bytes that arrive. -/
def Response.read? (bytes : Bytes) : Option Response :=
  (Arrival.read? bytes).map Arrival.response

end CatalogView.Http
