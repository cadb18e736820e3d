import CatalogView.Http.Response
import CatalogView.Proofs.Text.Numeral

/-!
# Responses read back

`sent` puts a response into bytes: a head with the status and the length of the body, and the body.
`read_sent` says that the status and the body are read back, unless the status is one whose
responses have no body.
-/

namespace CatalogView.Http

open CatalogView.Text

/-- The bytes of a line. -/
def lineBytes (text : List Char) : Bytes :=
  text.map Char.toUInt8 ++ [0x0D, 0x0A]

/-- The line with the status. -/
def statusLine (status : Nat) : List Char :=
  "HTTP/1.1 ".toList ++ Nat.toDigits 10 status

/-- The line with the length of the body. -/
def lengthLine (length : Nat) : List Char :=
  "content-length: ".toList ++ Nat.toDigits 10 length

/-- A response with its body, as it is sent. -/
def sent (status : Nat) (body : Bytes) : Bytes :=
  lineBytes (statusLine status) ++ (lineBytes (lengthLine body.length) ++ (lineBytes [] ++ body))

/-- Responses with the status have a body. -/
def allowsBody (status : Nat) : Bool :=
  status ≠ 101 && status ≠ 204 && status ≠ 304

/-! ## Lines -/

/-- A character of ASCII that is seen, or a space. -/
def IsSeen (c : Char) : Prop :=
  0x20 ≤ c.toNat ∧ c.toNat < 0x7F

instance (c : Char) : Decidable (IsSeen c) :=
  inferInstanceAs (Decidable (_ ∧ _))

/-- A digit is seen. -/
theorem seen_of_digit {c : Char} (h : isDigit c = true) : IsSeen c := by
  obtain ⟨hlow, hhigh⟩ := is_digit_iff.1 h
  exact ⟨by omega, by omega⟩

/-- A character that is seen is the one of its byte. -/
theorem char_of_seen {c : Char} (h : IsSeen c) :
    c.toUInt8.toNat = c.toNat ∧ Char.ofNat c.toUInt8.toNat = c := by
  have hlt : c.toNat < 0x7F := h.2
  have hbyte : c.toUInt8.toNat = c.toNat := by
    show c.toNat % 2 ^ 8 = c.toNat
    omega
  exact ⟨hbyte, by rw [hbyte, Char.ofNat_toNat]⟩

/-- Bytes are split at their first line feed. -/
theorem split_line_append {front : Bytes} (h : ∀ b ∈ front, b ≠ 0x0A) (rest : Bytes) :
    splitLine? (front ++ 0x0A :: rest) = some (front, rest) := by
  have hfront : ∀ b ∈ front, decide (b ≠ 0x0A) = true := by simpa using h
  have hline : (front ++ 0x0A :: rest).takeWhile (fun b => decide (b ≠ 0x0A)) = front := by
    rw [List.takeWhile_append_of_pos hfront]
    simp
  have hafter : (front ++ 0x0A :: rest).drop (front.length + 1) = rest := by
    rw [List.append_cons]
    exact List.drop_left' (by simp)
  simp only [splitLine?, hline, hafter]
  rw [if_pos (by simp)]

/-- A line is read up to its end. -/
theorem line_of_line_bytes {text : List Char} (h : ∀ c ∈ text, IsSeen c) (rest : Bytes) :
    line? (lineBytes text ++ rest) = some (text, rest) := by
  -- the line feed at the end is the first one
  have hbytes : ∀ b ∈ text.map Char.toUInt8 ++ [0x0D], b ≠ 0x0A := by
    intro b hb
    rcases List.mem_append.1 hb with hb | hb
    · obtain ⟨c, hc, rfl⟩ := List.mem_map.1 hb
      have hlow : 0x20 ≤ c.toNat := (h c hc).1
      rw [← (char_of_seen (h c hc)).1] at hlow
      rintro he
      rw [he] at hlow
      exact absurd hlow (by decide)
    · rw [List.mem_singleton.1 hb]
      decide
  have hchars : chars (text.map Char.toUInt8) = text := by
    rw [chars, List.map_map]
    exact (List.map_congr_left fun c hc => (char_of_seen (h c hc)).2).trans (List.map_id text)
  have hline : lineBytes text ++ rest = (text.map Char.toUInt8 ++ [0x0D]) ++ 0x0A :: rest := by
    simp [lineBytes]
  rw [line?, hline, split_line_append hbytes]
  simp [hchars]

/-! ## Heads -/

variable {bytes rest : Bytes} {line : List Char}

/-- A line with a field comes before the other fields. -/
theorem read_fields_cons {field : Field} (hline : line? bytes = some (line, rest)) (hne : line ≠ [])
    (hfield : Field.read? line = some field) :
    readFields? bytes = (readFields? rest).map fun (fields, after) => (field :: fields, after) := by
  rw [readFields?]
  split
  · simp_all
  · simp_all
  · simp_all

/-- The fields end at an empty line. -/
theorem read_fields_end (hline : line? bytes = some ([], rest)) :
    readFields? bytes = some ([], rest) := by
  rw [readFields?]
  split <;> simp_all

/-- A head begins with the line that gives its status. -/
theorem read_head_of_line {isOld : Bool} {status : Nat} {fields : List Field} {after : Bytes}
    (hline : line? bytes = some (line, rest)) (hne : line ≠ [])
    (hstatus : readStatus? line = some (isOld, status))
    (hfields : readFields? rest = some (fields, after)) (hcount : fields.length ≤ maxFields)
    (hsize : bytes.length - after.length ≤ maxHead) :
    Head.read? bytes = some (⟨isOld, status, fields⟩, after) := by
  have hlines : Head.readLines? bytes = some (⟨isOld, status, fields⟩, after) := by
    rw [Head.readLines?]
    split <;> simp_all
  rw [Head.read?, hlines]
  exact Option.filter_some_pos (decide_eq_true hsize)

/-- A status has three digits. -/
theorem to_digits_of_status {status : Nat} (hlow : 100 ≤ status) (hhigh : status < 1000) :
    ∃ a b c, Nat.toDigits 10 status = [a, b, c] := by
  have hall : 10 ≤ status := by omega
  have htens : 10 ≤ status / 10 := by omega
  have hhundreds : status / 10 / 10 < 10 := by omega
  rw [Nat.toDigits_of_base_le (by decide) hall, Nat.toDigits_of_base_le (by decide) htens,
    Nat.toDigits_of_lt_base hhundreds]
  exact ⟨_, _, _, rfl⟩

/-- The status is read from its line. -/
theorem read_status_line {status : Nat} (hlow : 100 ≤ status) (hhigh : status < 1000) :
    readStatus? (statusLine status) = some (false, status) := by
  obtain ⟨a, b, c, hdigits⟩ := to_digits_of_status hlow hhigh
  have hnumber : nat? [a, b, c] = some status := by rw [← hdigits, nat_to_digits]
  have hline : statusLine status = "HTTP/1.1".toList ++ [' ', a, b, c] := by
    have hversion : "HTTP/1.1 ".toList = "HTTP/1.1".toList ++ [' '] := by decide +kernel
    unfold statusLine
    rw [hdigits, hversion, List.append_assoc, List.singleton_append]
  have hversion : (statusLine status).take 8 = "HTTP/1.1".toList := by
    rw [hline]
    exact List.take_left' (by decide +kernel)
  have hrest : (statusLine status).drop 8 = [' ', a, b, c] := by
    rw [hline]
    exact List.drop_left' (by decide +kernel)
  simp [readStatus?, hversion, hrest, hnumber, hlow]

/-- Nothing is trimmed from a value without spaces and tabs. -/
theorem trim_gaps_of_none {value : List Char} (h : ∀ c ∈ value, isGap c = false) :
    trimGaps value = value := by
  have hkeep : ∀ value : List Char, (∀ c ∈ value, isGap c = false) →
      value.dropWhile isGap = value := by
    intro value h
    cases value with
    | nil => rfl
    | cons c rest => simp [h c (List.mem_cons_self ..)]
  have hreverse : ∀ c ∈ value.reverse, isGap c = false := by simpa using h
  rw [trimGaps, hkeep value h, hkeep value.reverse hreverse, List.reverse_reverse]

/-- The digits of a number are a value, and nothing is trimmed from them. -/
theorem value_of_to_digits (n : Nat) :
    (Nat.toDigits 10 n).all isValueChar = true ∧
      trimGaps (Nat.toDigits 10 n) = Nat.toDigits 10 n := by
  have hdigit : ∀ c ∈ Nat.toDigits 10 n, isValueChar c = true ∧ isGap c = false := by
    intro c hc
    have h := is_digit_iff.1 (is_digit_of_mem_to_digits hc)
    -- what is trimmed or refused lies outside of the digits
    have hne : ∀ other : Char, other.toNat < 48 ∨ 57 < other.toNat → c ≠ other := by
      rintro other hother rfl
      omega
    have hspace : c ≠ ' ' := hne ' ' (by decide)
    have htab : c ≠ '\t' := hne '\t' (by decide)
    have hdelete : c ≠ '\x7F' := hne '\x7F' (by decide)
    have hlow : ' ' ≤ c := by
      rw [Char.le_def, UInt32.le_iff_toNat_le]
      exact Nat.le_trans (by decide) h.1
    simp [isValueChar, isGap, hspace, htab, hdelete, hlow]
  exact ⟨List.all_eq_true.2 fun c hc => (hdigit c hc).1,
    trim_gaps_of_none fun c hc => (hdigit c hc).2⟩

/-- The length is read from its line. -/
theorem read_length_line (length : Nat) :
    Field.read? (lengthLine length) = some ⟨"content-length".toList, Nat.toDigits 10 length⟩ := by
  have hline : lengthLine length =
      "content-length".toList ++ ':' :: ' ' :: Nat.toDigits 10 length := by
    have hname : "content-length: ".toList = "content-length".toList ++ [':', ' '] := by
      decide +kernel
    unfold lengthLine
    rw [hname, List.append_assoc, List.cons_append, List.singleton_append]
  have hname : (lengthLine length).takeWhile isNameChar = "content-length".toList := by
    have hchars : "content-length".toList.all isNameChar = true := by decide +kernel
    have hcolon : isNameChar ':' = false := by decide +kernel
    rw [hline, List.takeWhile_append_of_pos (List.all_eq_true.1 hchars),
      List.takeWhile_cons_of_neg (by simp [hcolon]), List.append_nil]
  have hvalue : (lengthLine length).drop "content-length".toList.length =
      ':' :: ' ' :: Nat.toDigits 10 length := by
    rw [hline]
    exact List.drop_left' rfl
  have hsmall : "content-length".toList.map Char.toLower = "content-length".toList := by
    decide +kernel
  have hnonempty : "content-length".toList.isEmpty = false := by decide +kernel
  have hshort : ¬ maxName < "content-length".toList.length := by decide +kernel
  obtain ⟨hdigits, htrim⟩ := value_of_to_digits length
  have htrim' : trimGaps (' ' :: Nat.toDigits 10 length) = Nat.toDigits 10 length := htrim
  have hspace : isValueChar ' ' = true := by decide
  simp only [Field.read?, hname, hvalue, hnonempty, hshort, List.all_cons, hspace, hdigits, hsmall,
    htrim']
  rfl

/-! ## Responses -/

/-- The head of a response that is sent. -/
def sentHead (status length : Nat) : Head :=
  ⟨false, status, [⟨"content-length".toList, Nat.toDigits 10 length⟩]⟩

/-- A line takes two bytes more than it has characters. -/
theorem length_line_bytes (text : List Char) : (lineBytes text).length = text.length + 2 := by
  rw [lineBytes, List.length_append, List.length_map]
  rfl

/-- Both lines of a response are a short text and a number. -/
theorem length_lines (status length : Nat) :
    (statusLine status).length = 9 + (Nat.toDigits 10 status).length ∧
      (lengthLine length).length = 16 + (Nat.toDigits 10 length).length := by
  have hline : ∀ (front digits : List Char) (size : Nat), front.length = size →
      (front ++ digits).length = size + digits.length := by
    rintro front digits _ rfl
    exact List.length_append
  exact ⟨hline "HTTP/1.1 ".toList _ 9 (by decide +kernel),
    hline "content-length: ".toList _ 16 (by decide +kernel)⟩

/-- The head of a response is small. -/
theorem length_sent_le {status : Nat} {body : Bytes} (hhigh : status < 1000)
    (hlength : body.length ≤ maxLength) : (sent status body).length - body.length ≤ maxHead := by
  have hstatus : (Nat.toDigits 10 status).length ≤ 3 :=
    (Nat.length_toDigits_le_iff (by decide) (by decide)).2 hhigh
  have hdigits : (Nat.toDigits 10 body.length).length ≤ 20 := by
    have hmax : maxLength < 10 ^ 20 := by decide
    exact (Nat.length_toDigits_le_iff (by decide) (by decide)).2 (Nat.lt_of_le_of_lt hlength hmax)
  have hlines := length_lines status body.length
  simp only [sent, List.length_append, length_line_bytes, hlines, List.length_nil, maxHead]
  omega

/-- The head of a response is read up to its body. -/
theorem read_sent_head {status : Nat} {body : Bytes} (hlow : 100 ≤ status) (hhigh : status < 1000)
    (hlength : body.length ≤ maxLength) :
    Head.read? (sent status body) = some (sentHead status body.length, body) := by
  have hseen : ∀ front : List Char, front.all (fun c => decide (IsSeen c)) = true →
      ∀ n : Nat, ∀ c ∈ front ++ Nat.toDigits 10 n, IsSeen c := by
    intro front hfront n c hc
    rcases List.mem_append.1 hc with hc | hc
    · exact of_decide_eq_true (List.all_eq_true.1 hfront c hc)
    · exact seen_of_digit (is_digit_of_mem_to_digits hc)
  have hne : ∀ (front : List Char) (n : Nat), front ++ Nat.toDigits 10 n ≠ [] := by
    simp [Nat.toDigits_ne_nil]
  have hstatus : ∀ c ∈ statusLine status, IsSeen c := hseen _ (by decide +kernel) status
  have hcount : ∀ c ∈ lengthLine body.length, IsSeen c := hseen _ (by decide +kernel) body.length
  have hempty : ∀ c ∈ ([] : List Char), IsSeen c := nofun
  have hend := read_fields_end (line_of_line_bytes hempty body)
  have hfields := read_fields_cons (line_of_line_bytes hcount (lineBytes [] ++ body)) (hne _ _)
    (read_length_line body.length)
  rw [hend] at hfields
  exact read_head_of_line (line_of_line_bytes hstatus _) (hne _ _) (read_status_line hlow hhigh)
    hfields (by simp [maxFields]) (length_sent_le hhigh hlength)

/-- One length agrees with itself. -/
theorem agreed_length_of_digits {length : Nat} (h : length ≤ maxLength) :
    agreedLength? [Nat.toDigits 10 length] = some length := by
  have hcomma : ',' ∉ Nat.toDigits 10 length := fun hmem =>
    absurd (is_digit_of_mem_to_digits hmem) (by decide)
  simp [agreedLength?, split_at_of_not_mem hcomma, (value_of_to_digits length).2, nat_to_digits, h]

/-- The statuses whose responses have no body. -/
theorem not_allows_body (status : Nat) :
    (!allowsBody status) = (status = 101 || status = 204 || status = 304) := by
  simp [allowsBody, Bool.or_assoc]

/-- The body of a response has the length that its head says, unless it has none. -/
theorem framing_of_sent_head (status : Nat) {length : Nat} (h : length ≤ maxLength) :
    (sentHead status length).framing? =
      some (if allowsBody status then .sized length else .empty) := by
  have hlengths : (sentHead status length).values "content-length" = [Nat.toDigits 10 length] := by
    simp [sentHead, Head.values]
  have hcodings : (sentHead status length).values "transfer-encoding" = [] := by
    simp [sentHead, Head.values]
  have hstatus : (sentHead status length).status = status := rfl
  simp only [Head.framing?, hlengths, hcodings, hstatus, agreed_length_of_digits h,
    ← not_allows_body]
  cases allowsBody status <;> rfl

/-- The status and the body of a response are read back. -/
theorem read_sent {status : Nat} {body : Bytes} (hlow : 200 ≤ status) (hhigh : status < 1000)
    (hlength : body.length ≤ maxLength) :
    Response.read? (sent status body) =
      some ⟨status, some (if allowsBody status then body else [])⟩ := by
  have hhead := read_sent_head (by omega) hhigh hlength
  have hfinal : (sentHead status body.length).isInterim = false := by
    simp [Head.isInterim, sentHead, Nat.not_lt.2 hlow]
  have hread : Head.readFinal? (sent status body) = some (sentHead status body.length, body) := by
    rw [Head.readFinal?]
    split <;> simp_all
  have hframing := framing_of_sent_head status hlength
  have hstatus : (sentHead status body.length).status = status := rfl
  simp only [Response.read?, Arrival.read?, hread, hframing, Option.bind_eq_bind, Option.bind_some,
    Option.pure_def, Option.map_some, Arrival.response, Arrival.body?, hstatus]
  cases allowsBody status with
  | true => simp [Framing.body?]
  | false => simp [Framing.body?]

/-- A response whose status allows no body has an empty one, whatever stands behind the head. -/
theorem body_of_not_allowed {response : Response} (hread : Response.read? bytes = some response)
    (hstatus : allowsBody response.status = false) : response.body? = some [] := by
  obtain ⟨arrival, harrival, rfl⟩ := Option.map_eq_some_iff.1 hread
  obtain ⟨⟨head, after⟩, -, hframed⟩ := Option.bind_eq_some_iff.1 harrival
  obtain ⟨framing, hframing, hpair⟩ := Option.bind_eq_some_iff.1 hframed
  cases hpair
  have hnone : (head.status = 101 || head.status = 204 || head.status = 304) = true := by
    rw [← not_allows_body]
    exact congrArg (!·) hstatus
  rw [Head.framing?, if_pos hnone] at hframing
  cases hframing
  rfl

end CatalogView.Http
