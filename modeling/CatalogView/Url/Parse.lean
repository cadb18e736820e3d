import CatalogView.Idna.Domain
import CatalogView.Url.Basic
import CatalogView.Url.Percent

/-!
# Reading addresses

An address is read part by part. What stands in a part that may not is escaped, and segments of
points are taken out of the path. `Url.parse` reads an address that stands alone and `Url.join`
one that another address may complete.
-/

namespace CatalogView.Url

open CatalogView.Text

/-- Why a text is no address. -/
inductive ParseError where
  | emptyHost
  | domain
  | hostCharacter
  | port
  | ipv4
  | ipv6
  | noBase
  | unfitBase
  deriving DecidableEq, Repr

/-- What a text that is no address is called. -/
def ParseError.message : ParseError → String
  | .emptyHost => "empty host"
  | .domain => "invalid international domain name"
  | .hostCharacter => "invalid domain character"
  | .port => "invalid port number"
  | .ipv4 => "invalid IPv4 address"
  | .ipv6 => "invalid IPv6 address"
  | .noBase => "relative URL without a base"
  | .unfitBase => "relative URL with a cannot-be-a-base base"

/-- The text without controls and spaces at its ends, and without the ends of lines and tabs in
it. -/
def clean (text : List Char) : List Char :=
  let front := text.dropWhile (· ≤ ' ')
  let trimmed := (front.reverse.dropWhile (· ≤ ' ')).reverse
  trimmed.filter fun c => c ≠ '\t' && c ≠ '\n' && c ≠ '\r'

/-! ## Scheme -/

/-- The scheme before the colon, in small letters, and what stands after the colon. -/
def splitScheme? (text : List Char) : Option (List Char × List Char) :=
  let isMember (c : Char) := c.isAlphanum || c = '+' || c = '-' || c = '.'
  match text.dropWhile isMember with
  | ':' :: rest =>
    if text.head?.any Char.isAlpha then some ((text.takeWhile isMember).map Char.toLower, rest)
    else none
  | _ => none

/-- A slash, or a backslash where that is the same. -/
def isSlash (kind : SchemeKind) (c : Char) : Bool :=
  c = '/' || (kind.isSpecial && c = '\\')

/-! ## Host and port -/

/-- Reads the host of a scheme with rules of its own. -/
def readHost (text : List Char) : Except ParseError Host :=
  match Utf8.decode? (Percent.decode text) with
  | none => .error .domain
  | some decoded =>
    match Idna.toAscii? decoded with
    | none => .error .domain
    | some [] => .error .emptyHost
    | some domain =>
      if Ipv4.looksLikeAddress domain then
        match Ipv4.address? domain with
        | some address => .ok (.ipv4 address)
        | none => .error .ipv4
      else .ok (.name domain)

/-- A character that may not stand in the host of another scheme. -/
def isHostBreak (c : Char) : Bool :=
  c ∈ ['\x00', '\t', '\n', '\r', ' ', '#', '/', ':', '<', '>', '?', '@', '[', '\\', ']', '^',
    '|']

/-- Reads a host. An address of version 6 stands in brackets. -/
def hostOf (kind : SchemeKind) (text : List Char) : Except ParseError Host :=
  match text with
  | '[' :: rest =>
    if rest.getLast? = some ']' then
      match Ipv6.address? rest.dropLast with
      | some pieces => .ok (.ipv6 pieces)
      | none => .error .ipv6
    else .error .ipv6
  | _ =>
    if kind.isSpecial then readHost text
    else if text.any isHostBreak then .error .hostCharacter
    else .ok (.name (Percent.encode Percent.control text))

/-- The host at the front of a text and what stands after it. Within brackets a colon belongs to
the host. -/
def splitHost (isBracketed : Bool) : List Char → List Char × List Char
  | [] => ([], [])
  | c :: rest =>
    if c = ':' && !isBracketed then ([], c :: rest)
    else
      let bracketed := if c = '[' then true else if c = ']' then false else isBracketed
      let (host, after) := splitHost bracketed rest
      (c :: host, after)

/-- Reads a port, which ends at a backslash at the latest, and gives what stands after it. A port
that the scheme has anyway is left out. -/
def readPort (scheme text : List Char) : Except ParseError (Option Nat × List Char) :=
  let digits := text.takeWhile (· ≠ '\\')
  let after := text.drop digits.length
  if digits.isEmpty then .ok (none, after)
  else
    match nat? digits with
    | none => .error .port
    | some port =>
      if 65535 < port then .error .port
      else if webSchemes.lookup scheme = some port then .ok (none, after)
      else .ok (some port, after)

/-! ## Path -/

/-- A segment that stands for a place, written with points or their escapes. -/
def pointsOf (segment : List Char) : Option Nat :=
  match segment with
  | [] => some 0
  | '.' :: rest => (pointsOf rest).map (· + 1)
  | '%' :: '2' :: 'e' :: rest | '%' :: '2' :: 'E' :: rest => (pointsOf rest).map (· + 1)
  | _ => none

/-- The letter of a drive, such as `C:`. -/
def isDrive (segment : List Char) : Bool :=
  match segment with
  | [c, mark] => c.isAlpha && (mark = ':' || mark = '|')
  | _ => false

/-- The path one level up. Nothing is above a drive. -/
def parent (segments : List (List Char)) : List (List Char) :=
  if segments.getLast?.any isDrive then segments else segments.dropLast

/-- The path after one more segment. The drive of a file gets its usual mark. -/
def addSegment (kind : SchemeKind) (isLast : Bool) (segments : List (List Char))
    (segment : List Char) : List (List Char) :=
  match pointsOf segment with
  | some 1 => if isLast then segments ++ [[]] else segments
  | some 2 => if isLast then parent segments ++ [[]] else parent segments
  | _ =>
    if kind = .file && segments.isEmpty && isDrive segment then [[segment.headD 'C', ':']]
    else segments ++ [segment]

/-- The path after more segments. -/
def addSegments (kind : SchemeKind) (segments : List (List Char)) :
    List (List Char) → List (List Char)
  | [] => segments
  | [last] => addSegment kind true segments last
  | segment :: rest => addSegments kind (addSegment kind false segments segment) rest

/-- The segments of a path that begins after its first slash, added to some segments. -/
def readSegments (kind : SchemeKind) (segments : List (List Char)) (text : List Char) :
    List (List Char) :=
  let separated := text.map fun c => if isSlash kind c then '/' else c
  addSegments kind segments ((splitAt '/' separated).map (Percent.encode Percent.path))

/-- The segments without the empty ones in front, except for the last of all. -/
def dropEmpty : List (List Char) → List (List Char)
  | [] :: segment :: rest => dropEmpty (segment :: rest)
  | segments => segments

/-- The path with some segments. That of a file does not begin with an empty one. -/
def pathOf (kind : SchemeKind) (segments : List (List Char)) : UrlPath :=
  .rooted (if kind = .file then dropEmpty segments else segments)

/-! ## Query and fragment -/

/-- The parts of a text before and after the first occurrence of a character. -/
def splitFirst (mark : Char) (text : List Char) : List Char × Option (List Char) :=
  let before := text.takeWhile (· ≠ mark)
  (before, if mark ∈ text then some (text.drop (before.length + 1)) else none)

/-- A text up to its query, the query and the fragment. -/
structure Tail where
  front : List Char
  query? : Option (List Char)
  fragment? : Option (List Char)

/-- Takes the query and the fragment off a text. -/
def Tail.of (kind : SchemeKind) (text : List Char) : Tail :=
  let (rest, fragment?) := splitFirst '#' text
  let (front, query?) := splitFirst '?' rest
  let set := if kind.isSpecial then Percent.specialQuery else Percent.query
  { front
    query? := query?.map (Percent.encode set)
    fragment? := fragment?.map (Percent.encode Percent.fragment) }

/-! ## Whole addresses -/

/-- Reads the name and the password of a user. -/
def readUser (text : List Char) : List Char × List Char :=
  let (username, password?) := splitFirst ':' text
  (Percent.encode Percent.userinfo username,
    Percent.encode Percent.userinfo (password?.getD []))

/-- The part of a text before its last at sign, if there is one, and the part after it. -/
def splitUser (text : List Char) : Option (List Char) × List Char :=
  let host := (text.reverse.takeWhile (· ≠ '@')).reverse
  if '@' ∈ text then (some (text.take (text.length - host.length - 1)), host) else (none, text)

/-- The text of a path after its first slash, if it has one. -/
def dropSlash (kind : SchemeKind) (text : List Char) : List Char :=
  match text with
  | c :: rest => if isSlash kind c then rest else text
  | [] => []

/-- There may be no host before the rest of the address: the scheme has no rules of its own, and
neither a user nor a port is given. A user without a name counts if there is a rest. -/
def mayLackHost (kind : SchemeKind) (user? : Option (List Char)) (afterHost rest : List Char) :
    Bool :=
  !kind.isSpecial && afterHost.isEmpty &&
    match user? with
    | none => true
    | some [] => rest.isEmpty
    | some user => user = [':']

/-- Reads an address after the two slashes behind its scheme. -/
def parseAuthority (scheme text : List Char) : Except ParseError Url := do
  let kind := kindOf scheme
  let tail := Tail.of kind text
  let authority := tail.front.takeWhile (!isSlash kind ·)
  let afterAuthority := tail.front.drop authority.length
  let (user?, hostAndPort) := splitUser authority
  let (hostText, afterHost) := splitHost false hostAndPort
  if hostText.isEmpty &&
      !mayLackHost kind user? afterHost (text.drop authority.length) then
    .error .emptyHost
  else do
    let (username, password) := readUser (user?.getD [])
    let host ← hostOf kind hostText
    let (port?, afterPort) ← readPort scheme (afterHost.drop 1)
    let pathText := afterPort ++ afterAuthority
    let segments :=
      if pathText.isEmpty && !kind.isSpecial then []
      else readSegments kind [] (dropSlash kind pathText)
    return { scheme, username, password, host? := some host, port?, path := pathOf kind segments
             query? := tail.query?, fragment? := tail.fragment? }

/-- Reads the address of a file after the colon behind its scheme. The host is left out if it is
the own computer, or if the path begins with a drive. -/
def parseFile (text : List Char) : Except ParseError Url := do
  let scheme := "file".toList
  let tail := Tail.of .file text
  let slashes := (tail.front.takeWhile (isSlash .file)).length
  let atHost := tail.front.drop 2
  let hostText := if 2 ≤ slashes then atHost.takeWhile (!isSlash .file ·) else []
  let isLocal := hostText.isEmpty || isDrive hostText
  let pathText :=
    if slashes < 2 then tail.front else if isLocal then atHost else atHost.drop hostText.length
  let segments := readSegments .file [] (dropSlash .file pathText)
  let host? ←
    if isLocal then pure none
    else do
      let host ← hostOf .file hostText
      pure (if host = .name "localhost".toList then none else some host)
  return { scheme
           host? := if segments.head?.any isDrive then none else host?
           path := pathOf .file segments, query? := tail.query?, fragment? := tail.fragment? }

/-- Reads an address under another scheme, after the colon. -/
def parseOther (scheme text : List Char) : Except ParseError Url :=
  match text with
  | '/' :: '/' :: rest => parseAuthority scheme rest
  | _ =>
    let tail := Tail.of .other text
    let path :=
      match tail.front with
      | '/' :: rest => pathOf .other (readSegments .other [] rest)
      | front => .bare (Percent.encode Percent.control front)
    .ok { scheme, path, query? := tail.query?, fragment? := tail.fragment? }

/-- Reads the rest of an address, after the colon behind its scheme. -/
def parseAfter (scheme rest : List Char) : Except ParseError Url :=
  match kindOf scheme with
  | .file => parseFile rest
  | .web => parseAuthority scheme (rest.dropWhile (isSlash .web))
  | .other => parseOther scheme rest

/-- Reads an address that stands alone. -/
def parse (text : List Char) : Except ParseError Url :=
  match splitScheme? (clean text) with
  | none => .error .noBase
  | some (scheme, rest) => parseAfter scheme rest

/-! ## References -/

/-- What a text means where an address is at hand. -/
inductive Reference where
  /-- Another address, which begins with a scheme. -/
  | absolute (scheme rest : List Char)
  /-- Another host under the same scheme. It stands behind two slashes. -/
  | authority (rest : List Char)
  /-- A path from the root. It stands behind one slash. -/
  | rooted (rest : List Char)
  /-- A path from the place of the last segment. -/
  | relative (text : List Char)
  /-- At most a query and a fragment. -/
  | samePath (text : List Char)
  deriving DecidableEq, Repr

namespace Reference

/-- What a text without a scheme means. -/
def ofRest (kind : SchemeKind) : List Char → Reference
  | [] => .samePath []
  | c :: rest =>
    if isSlash kind c then
      match rest with
      | [] => .rooted []
      | d :: after => if isSlash kind d then .authority after else .rooted rest
    else if c = '?' || c = '#' then .samePath (c :: rest)
    else .relative (c :: rest)

/-- What a text means. Under a scheme with rules of its own, the same scheme in front counts for
nothing. -/
def of (base : Url) (text : List Char) : Reference :=
  match splitScheme? text with
  | some (scheme, rest) =>
    if base.kind.isSpecial && scheme = base.scheme then ofRest base.kind rest
    else .absolute scheme rest
  | none => ofRest base.kind text

/-- The meaning does not depend on the path of the address. -/
def isFree : Reference → Bool
  | .absolute .. => true
  | .samePath text => text.head? = some '#'
  | _ => false

end Reference

/-- The segments of the path. -/
def segments (url : Url) : List (List Char) :=
  match url.path with
  | .bare _ => []
  | .rooted segments => segments

/-- The segment with the drive of a file, which is part of each path from the root. -/
def driveOf (url : Url) : List (List Char) :=
  match url.kind, url.path with
  | .file, .rooted ([c, ':'] :: _) => if c.isAlpha then [[c, ':']] else []
  | _, _ => []

/-- The path of a file begins with a drive of its own. -/
def namesDrive (kind : SchemeKind) (text : List Char) : Bool :=
  kind = .file && isDrive (text.takeWhile (!isSlash kind ·))

/-- The segments before the last one, where relative paths begin. -/
def directory (url : Url) : List (List Char) :=
  if url.kind = .file then parent url.segments else url.segments.dropLast

/-- The address with another path, query and fragment. -/
def withPath (url : Url) (segments : List (List Char)) (tail : Tail) : Url :=
  { url with path := pathOf url.kind segments, query? := tail.query?, fragment? := tail.fragment? }

/-- The address that a reference leads to. Behind a drive no host is needed. -/
def resolve (base : Url) : Reference → Except ParseError Url
  | .absolute scheme rest => parseAfter scheme rest
  | .authority rest => parseAfter base.scheme ('/' :: '/' :: rest)
  | .rooted rest =>
    let tail := Tail.of base.kind rest
    let named := namesDrive base.kind tail.front
    let drive := if named then [] else base.driveOf
    let placed := if named || !drive.isEmpty then { base with host? := none } else base
    .ok (placed.withPath (readSegments base.kind drive tail.front) tail)
  | .relative text =>
    let tail := Tail.of base.kind text
    let before := if namesDrive base.kind tail.front then [] else base.directory
    .ok (base.withPath (readSegments base.kind before tail.front) tail)
  | .samePath text =>
    let tail := Tail.of base.kind text
    .ok
      { base with
        query? := if text.head? = some '?' then tail.query? else base.query?
        fragment? := tail.fragment? }

/-- The address that a text leads to from another address. -/
def join (base : Url) (text : List Char) : Except ParseError Url :=
  let reference := Reference.of base (clean text)
  if base.canBeBase || reference.isFree then base.resolve reference
  else .error .unfitBase

end CatalogView.Url
