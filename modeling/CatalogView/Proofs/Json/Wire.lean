import CatalogView.Proofs.Json.RoundTrip
import CatalogView.Slack.Conversation
import CatalogView.Table.Detail

/-!
# Documents of the catalog

The types that are exchanged as documents. `wire_round_trips` says of each that its documents keep
its values, by the general theorem about shapes in which every document has one reading.
-/

namespace CatalogView.Json

variable {α : Type} {codec : Codec α}

/-- The documents of a type keep its values. -/
structure Codec.RoundTrips (codec : Codec α) : Prop where
  /-- What is written is read back. -/
  decode_encode : ∀ a, codec.decode (codec.encode a) = .ok a
  /-- A document that is read and written anew says the same, and one that is refused stays so. -/
  decode_again : ∀ document,
    (codec.decode document >>= fun a => codec.decode (codec.encode a)) = codec.decode document

/-- A type whose shape is unambiguous has documents that keep its values. -/
theorem Codec.round_trips (h : codec.shape.isUnambiguous = true) : codec.RoundTrips where
  decode_encode := codec.decode_encode h
  decode_again document := by
    cases codec.decode document with
    | error fault => rfl
    | ok a => exact codec.decode_encode h a

/-- The documents of all types that are exchanged keep their values. -/
theorem wire_round_trips :
    Table.Ref.codec.RoundTrips ∧ Table.Alias.codec.RoundTrips ∧ Table.Filter.codec.RoundTrips ∧
      Table.Join.codec.RoundTrips ∧ Table.Detail.codec.RoundTrips ∧
      Slack.User.codec.RoundTrips ∧ Slack.Message.codec.RoundTrips ∧
      Slack.Conversation.codec.RoundTrips ∧ Slack.Listing.codec.RoundTrips := by
  refine ⟨?_, ?_, ?_, ?_, ?_, ?_, ?_, ?_, ?_⟩ <;> exact Codec.round_trips (by decide +kernel)

end CatalogView.Json
