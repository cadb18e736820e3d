import CatalogView.Text.Utf8

/-!
# Lines of messages

Messages between programs begin with lines of bytes, of which each stands for one character. A line
ends with a line feed, before which there may be a carriage return. `length_of_split_line` says
that a line is never longer than what it is taken from, so reading line by line comes to an end.
-/

namespace CatalogView.Http

open CatalogView.Text

/-- The characters of bytes, one for each byte. -/
def chars (bytes : Bytes) : List Char :=
  bytes.map fun byte => Char.ofNat byte.toNat

/-- The bytes before the first line feed and those after it. -/
def splitLine? (bytes : Bytes) : Option (Bytes × Bytes) :=
  let line := bytes.takeWhile (· ≠ 0x0A)
  if 0x0A ∈ bytes then some (line, bytes.drop (line.length + 1)) else none

/-- A line takes its bytes and one more. -/
theorem length_of_split_line {bytes line rest : Bytes}
    (h : splitLine? bytes = some (line, rest)) : rest.length < bytes.length := by
  unfold splitLine? at h
  simp only at h
  split at h
  · rename_i hmem
    cases h
    have hpos : 0 < bytes.length := List.length_pos_of_mem hmem
    rw [List.length_drop]
    omega
  · cases h

/-- The characters of the first line, without a carriage return at its end, and the bytes after the
line. -/
def line? (bytes : Bytes) : Option (List Char × Bytes) :=
  (splitLine? bytes).map fun (line, rest) =>
    (chars (if line.getLast? = some 0x0D then line.dropLast else line), rest)

/-- The characters of the first line, which has to end with a carriage return and a line feed, and
the bytes after the line. -/
def strictLine? (bytes : Bytes) : Option (List Char × Bytes) := do
  let (line, rest) ← splitLine? bytes
  if line.getLast? = some 0x0D ∧ 0x0D ∉ line.dropLast then some (chars line.dropLast, rest)
  else none

/-- What is left after a line is shorter. -/
theorem length_of_line {bytes rest : Bytes} {line : List Char}
    (h : line? bytes = some (line, rest)) : rest.length < bytes.length := by
  unfold line? at h
  obtain ⟨⟨raw, after⟩, hsplit, hpair⟩ := Option.map_eq_some_iff.1 h
  cases hpair
  exact length_of_split_line hsplit

/-- What is left after a strict line is shorter. -/
theorem length_of_strict_line {bytes rest : Bytes} {line : List Char}
    (h : strictLine? bytes = some (line, rest)) : rest.length < bytes.length := by
  unfold strictLine? at h
  obtain ⟨⟨raw, after⟩, hsplit, hpair⟩ := Option.bind_eq_some_iff.1 h
  simp only at hpair
  split at hpair
  · cases hpair
    exact length_of_split_line hsplit
  · cases hpair

end CatalogView.Http
