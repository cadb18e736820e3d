import CatalogView.Text.Printable

/-!
# The width of a text

How many columns of a screen a text takes up. A character takes one, two or no columns, and a few
sequences take less or more than their characters: emoji that are joined, modified or asked for by
a selector, and letters that are written below or into one another. A text is measured from its
end to its beginning, since it is what follows a character that changes its width.
-/

namespace CatalogView.Text

/-- The characters that East Asian typography sets in a full square. -/
def wideChars : CodeSet := .ofHex
  "1100-115f 231a-231b 2329-232a 23e9-23ec 23f0 23f3 25fd-25fe 2614-2615 2630-2637 2648-2653 267f
268a-268f 2693 26a1 26aa-26ab 26bd-26be 26c4-26c5 26ce 26d4 26ea 26f2-26f3 26f5 26fa 26fd 2705
270a-270b 2728 274c 274e 2753-2755 2757 2795-2797 27b0 27bf 2b1b-2b1c 2b50 2b55 2e80-2e99
2e9b-2ef3 2f00-2fd5 2ff0-303e 3041-3096 3099-30ff 3105-312f 3131-318e 3190-31e5 31ef-321e
3220-3247 3250-a48c a490-a4c6 a960-a97c ac00-d7a3 f900-faff fe10-fe19 fe30-fe52 fe54-fe66
fe68-fe6b ff01-ff60 ffe0-ffe6 16fe0-16fe4 16ff0-16ff1 17000-187f7 18800-18cd5 18cff-18d08
1aff0-1aff3 1aff5-1affb 1affd-1affe 1b000-1b122 1b132 1b150-1b152 1b155 1b164-1b167 1b170-1b2fb
1d300-1d356 1d360-1d376 1f004 1f0cf 1f18e 1f191-1f19a 1f200-1f202 1f210-1f23b 1f240-1f248
1f250-1f251 1f260-1f265 1f300-1f320 1f32d-1f335 1f337-1f37c 1f37e-1f393 1f3a0-1f3ca 1f3cf-1f3d3
1f3e0-1f3f0 1f3f4 1f3f8-1f43e 1f440 1f442-1f4fc 1f4ff-1f53d 1f54b-1f54e 1f550-1f567 1f57a
1f595-1f596 1f5a4 1f5fb-1f64f 1f680-1f6c5 1f6cc 1f6d0-1f6d2 1f6d5-1f6d7 1f6dc-1f6df 1f6eb-1f6ec
1f6f4-1f6fc 1f7e0-1f7eb 1f7f0 1f90c-1f93a 1f93c-1f945 1f947-1f9ff 1fa70-1fa7c 1fa80-1fa89
1fa8f-1fac6 1face-1fadc 1fadf-1fae9 1faf0-1faf8 20000-2fffd 30000-3fffd"

/-- The characters that do not show unless a font supports them. -/
def ignorables : CodeSet := .ofHex
  "ad 34f 61c 115f-1160 17b4-17b5 180b-180f 200b-200f 202a-202e 2060-206f 3164 fe00-fe0f feff ffa0
fff0-fff8 1bca0-1bca3 1d173-1d17a e0000-e0fff"

/-- The jamo and signs that are drawn on or within a character beside them. -/
def bareSigns : CodeSet := .ofHex
  "605 70f 890-891 8e2 cc0 cc7-cc8 cca-ccb d4e 1160-11ff 1b3b 1b3d 1b43 a8fa d7b0-d7c6 d7cb-d7fb
111c2-111c3 113d1 1193f 11941 11a3a 11a84-11a89 11d46 11f02"

/-- The emoji that show as pictures on their own. -/
def emoji : CodeSet := .ofHex
  "231a-231b 23e9-23ec 23f0 23f3 25fd-25fe 2614-2615 2648-2653 267f 2693 26a1 26aa-26ab 26bd-26be
26c4-26c5 26ce 26d4 26ea 26f2-26f3 26f5 26fa 26fd 2705 270a-270b 2728 274c 274e 2753-2755 2757
2795-2797 27b0 27bf 2b1b-2b1c 2b50 2b55 1f004 1f0cf 1f18e 1f191-1f19a 1f201 1f21a 1f22f
1f232-1f236 1f238-1f23a 1f250-1f251 1f300-1f320 1f32d-1f335 1f337-1f37c 1f37e-1f393 1f3a0-1f3ca
1f3cf-1f3d3 1f3e0-1f3f0 1f3f4 1f3f8-1f3fa 1f400-1f43e 1f440 1f442-1f4fc 1f4ff-1f53d 1f54b-1f54e
1f550-1f567 1f57a 1f595-1f596 1f5a4 1f5fb-1f64f 1f680-1f6c5 1f6cc 1f6d0-1f6d2 1f6d5-1f6d7
1f6dc-1f6df 1f6eb-1f6ec 1f6f4-1f6fc 1f7e0-1f7eb 1f7f0 1f90c-1f93a 1f93c-1f945 1f947-1f9ff
1fa70-1fa7c 1fa80-1fa89 1fa8f-1fac6 1face-1fadc 1fadf-1fae9 1faf0-1faf8"

/-- The emoji that show as text unless a selector asks for a picture. -/
def textEmoji : CodeSet := .ofHex
  "23 2a 30-39 a9 ae 203c 2049 2122 2139 2194-2199 21a9-21aa 2328 23cf 23ed-23ef 23f1-23f2
23f8-23fa 24c2 25aa-25ab 25b6 25c0 25fb-25fc 2600-2604 260e 2611 2618 261d 2620 2622-2623 2626
262a 262e-262f 2638-263a 2640 2642 265f-2660 2663 2665-2666 2668 267b 267e 2692 2694-2697 2699
269b-269c 26a0 26a7 26b0-26b1 26c8 26cf 26d1 26d3 26e9 26f0-26f1 26f4 26f7-26f9 2702 2708-2709
270c-270d 270f 2712 2714 2716 271d 2721 2733-2734 2744 2747 2763-2764 27a1 2934-2935 2b05-2b07
3030 303d 3297 3299 1f170-1f171 1f17e-1f17f 1f202 1f237 1f321 1f324-1f32c 1f336 1f37d
1f396-1f397 1f399-1f39b 1f39e-1f39f 1f3cb-1f3ce 1f3d4-1f3df 1f3f3 1f3f5 1f3f7 1f43f 1f441 1f4fd
1f549-1f54a 1f56f-1f570 1f573-1f579 1f587 1f58a-1f58d 1f590 1f5a5 1f5a8 1f5b1-1f5b2 1f5bc
1f5c2-1f5c4 1f5d1-1f5d3 1f5dc-1f5de 1f5e1 1f5e3 1f5e8 1f5ef 1f5f3 1f5fa 1f6cb 1f6cd-1f6cf
1f6e0-1f6e5 1f6e9 1f6f0 1f6f3"

/-- The emoji that show as pictures unless a selector asks for text. -/
def selectableEmoji : CodeSet := .ofHex
  "231a-231b 23e9-23ea 23f0 23f3 25fd-25fe 2614-2615 2648-2653 267f 2693 26a1 26aa-26ab 26bd-26be
26c4-26c5 26ce 26d4 26ea 26f2-26f3 26f5 26fa 26fd 2705 270a-270b 2728 274c 274e 2753-2755 2757
2795-2797 27b0 27bf 2b1b-2b1c 2b50 2b55 1f004 1f30d-1f30f 1f315 1f31c 1f378 1f393 1f3a7
1f3ac-1f3ae 1f3c2 1f3c4 1f3c6 1f3ca 1f3e0 1f3ed 1f408 1f415 1f41f 1f426 1f442 1f446-1f449
1f44d-1f44e 1f453 1f46a 1f47d 1f4a3 1f4b0 1f4b3 1f4bb 1f4bf 1f4cb 1f4da 1f4df 1f4e4-1f4e6
1f4ea-1f4ed 1f4f7 1f4f9-1f4fb 1f508 1f50d 1f512-1f513 1f550-1f567 1f610 1f687 1f68d 1f691 1f694
1f698 1f6ad 1f6b2 1f6b9-1f6ba 1f6bc"

/-- The emoji that take a modifier of their skin tone. -/
def modifierBases : CodeSet := .ofHex
  "261d 26f9 270a-270d 1f385 1f3c2-1f3c4 1f3c7 1f3ca-1f3cc 1f442-1f443 1f446-1f450 1f466-1f478
1f47c 1f481-1f483 1f485-1f487 1f48f 1f491 1f4aa 1f574-1f575 1f57a 1f590 1f595-1f596 1f645-1f647
1f64b-1f64f 1f6a3 1f6b4-1f6b6 1f6c0 1f6cc 1f90c 1f90f 1f918-1f91f 1f926 1f930-1f939 1f93c-1f93e
1f977 1f9b5-1f9b6 1f9b8-1f9b9 1f9bb 1f9cd-1f9cf 1f9d1-1f9dd 1fac3-1fac5 1faf0-1faf8"

/-- The Khmer letters that have a form below another letter. -/
def subscriptLetters : CodeSet := .ofHex
  "1780-1782 1784-1787 1789-178c 178e-1793 1795-1798 179b-179d 17a0 17a2 17a7 17ab-17ac 17af"

/-- The number of columns that a character takes up on its own. -/
def charWidth (c : Char) : Nat :=
  let n := c.toNat
  if n ≤ 0xA0 then 1
  else if 0x1100 ≤ n ∧ n ≤ 0x115F then 2
  else if n = 0x2D7F then 1
  else if ignorables.contains c || graphemeExtend.contains c || bareSigns.contains c then 0
  else if wideChars.contains c then 2
  else 1

/-- What follows a character, as far as it may change the character's width. -/
inductive Following where
  | nothing
  | lineFeed
  | emoji
  | modifier
  /-- A joiner and an emoji. -/
  | joinedEmoji
  | subscriptLetter
  /-- The Kirat Rai vowel sign that may be the end of a longer one. -/
  | vowelEnd
  /-- Two such signs. -/
  | doubleVowelEnd
  deriving DecidableEq, Repr

/-- How a selector asks for a character to be shown. -/
inductive Selector where
  | picture
  | text
  deriving DecidableEq, Repr

/-- The width of the end of a text, what it begins with, and the selector it begins with, which
stands before `following`. -/
structure Measure where
  width : Nat := 0
  following : Following := .nothing
  selector? : Option Selector := none

namespace Measure

/-- What a character is for the character before it. -/
def followingOf (c : Char) : Following :=
  let n := c.toNat
  if c = '\n' then .lineFeed
  else if n < 0x1780 then .nothing
  else if 0x1F3FB ≤ n ∧ n ≤ 0x1F3FF then .modifier
  else if emoji.contains c then .emoji
  else if subscriptLetters.contains c then .subscriptLetter
  else if n = 0x16D67 then .vowelEnd
  else if n = 0x16D68 then .doubleVowelEnd
  else .nothing

/-- Puts a character in front that takes up its own width. -/
def addAlone (measure : Measure) (c : Char) : Measure :=
  { width := measure.width + charWidth c
    following := followingOf c
    selector? :=
      match c.toNat with
      | 0xFE0F => some .picture
      | 0xFE0E => some .text
      | _ => none }

/-- Puts a character in front that forms a sequence with what follows: the sequence is then as
wide as `width` says, and is followed as `following` says. -/
def addJoined (width : Nat) (following : Following) : Measure :=
  { width, following }

/-- Puts a character in front that no selector follows. -/
def addPlain (measure : Measure) (c : Char) : Measure :=
  let width := measure.width
  match measure.following, c.toNat with
  | .lineFeed, 0xD => .addJoined width .nothing
  | .emoji, 0x200D | .modifier, 0x200D => .addJoined width .joinedEmoji
  | .subscriptLetter, 0x17D2 => .addJoined (width - 1) .nothing
  | .vowelEnd, 0x16D63 | .vowelEnd, 0x16D69 => .addJoined width .nothing
  | .vowelEnd, 0x16D67 => .addJoined width .doubleVowelEnd
  | .vowelEnd, 0x16D68 => .addJoined (width + 1) .vowelEnd
  | .doubleVowelEnd, 0x16D63 => .addJoined width .nothing
  | .modifier, _ =>
    if modifierBases.contains c then .addJoined width .emoji else measure.addAlone c
  | .joinedEmoji, n =>
    if 0x1F3FB ≤ n ∧ n ≤ 0x1F3FF then .addJoined width .modifier
    else if emoji.contains c then .addJoined width .emoji
    else measure.addAlone c
  | _, _ => measure.addAlone c

/-- Puts a selector in front. It keeps a joined emoji in sight and hides everything else. -/
def addSelector (measure : Measure) (selector : Selector) : Measure :=
  { width := measure.width
    following := if measure.following = .joinedEmoji then .joinedEmoji else .nothing
    selector? := some selector }

/-- Puts a character in front. -/
def add (measure : Measure) (c : Char) : Measure :=
  let unselected := { measure with selector? := none }
  if measure.selector? = some .picture ∧ (emoji.contains c ∨ textEmoji.contains c) then
    .addJoined (measure.width + if measure.following = .joinedEmoji then 0 else 2) .emoji
  else if measure.selector? = some .text ∧ selectableEmoji.contains c then
    .addJoined (measure.width + 1) .nothing
  else if c.toNat = 0xFE0F then measure.addSelector .picture
  else if c.toNat = 0xFE0E then measure.addSelector .text
  else unselected.addPlain c

end Measure

/-- The number of columns that a text takes up. -/
def width (text : List Char) : Nat :=
  (text.foldr (fun c measure => Measure.add measure c) {}).width

end CatalogView.Text
