import CatalogView.Proofs.Json.Grammar
import CatalogView.Proofs.Json.Records
import CatalogView.Slack.Conversation

/-!
# Bodies of answers

What the catalog says in the body of an answer: a listing, or why a request is refused. `HasListing`
and `HasRefusal` say it of a JSON value, and `Listing.decode_iff` and `Refusal.decode_iff` that
bodies are read so and not otherwise.
-/

namespace CatalogView.Slack

open CatalogView.Json CatalogView.Text

/-- The JSON value lists conversations: it is an object, or the list of its fields. There is a
message, and there may be a list of conversations. -/
def HasListing (listing : Listing) : Tree → Prop
  | .object _ members =>
    (∀ member ∈ members, ∃ key, text? member.key = some key) ∧
      (∃ member, named "message" members = [member] ∧
        HasText member.value.item listing.message) ∧
      (named "conversations" members = [] ∧ listing.conversations = [] ∨
        ∃ member, named "conversations" members = [member] ∧
          Conversation.codec.list.Means member.value.item listing.conversations)
  | .list _ [message] => HasText message.item listing.message ∧ listing.conversations = []
  | .list _ [message, conversations] =>
    HasText message.item listing.message ∧
      Conversation.codec.list.Means conversations.item listing.conversations
  | _ => False

/-- The JSON value says why a request is refused: it is an object, or the list of its fields. -/
def HasRefusal (text : String) : Tree → Prop
  | .object _ members =>
    (∀ member ∈ members, ∃ key, text? member.key = some key) ∧
      ∃ member, named "message" members = [member] ∧ HasText member.value.item text
  | .list _ [message] => HasText message.item text
  | _ => False

/-- A listing may be an object. -/
theorem means_listing_object {inside : Gap} {members : List (Member Tree)} {listing : Listing} :
    Listing.codec.Means (.object inside members) listing ↔
      HasListing listing (.object inside members) := by
  have hne : "conversations" ≠ "message" := by decide
  constructor
  · rintro ⟨⟨message, conversations, ⟨⟩⟩, hvalue, rfl⟩
    obtain ⟨hmessage, hconversations, hkeys⟩ := (Fields.hold_iff _ members _).1 hvalue
    rw [named_unnamed hne] at hconversations
    refine ⟨(forall_unnamed_iff _ _).1 ((forall_unnamed_iff _ _).1 hkeys),
      field_holds_text_iff.1 hmessage, ?_⟩
    rcases hconversations with ⟨hnone, hblank⟩ | ⟨member, hmember, hvalue⟩
    · cases hblank
      exact .inl ⟨hnone, rfl⟩
    · exact .inr ⟨member, hmember, conversations, hvalue, rfl⟩
  · rintro ⟨hkeys, hmessage, hconversations⟩
    obtain ⟨conversations, hholds, hof⟩ : ∃ conversations,
        FieldHolds "conversations" Conversation.codec.list.shape true
            (named "conversations" members) conversations ∧
          Conversation.codec.list.ofValue conversations = listing.conversations := by
      rcases hconversations with ⟨hnone, hblank⟩ | ⟨member, hmember, value, hvalue, hof⟩
      · exact ⟨_, .inl ⟨hnone, rfl⟩, hblank.symm⟩
      · exact ⟨value, .inr ⟨member, hmember, hvalue⟩, hof⟩
    rw [← named_unnamed hne] at hholds
    refine ⟨(listing.message, conversations, ()), (Fields.hold_iff _ members _).2
      ⟨field_holds_text_iff.2 hmessage, hholds, ?_⟩, ?_⟩
    · exact (forall_unnamed_iff _ _).2 ((forall_unnamed_iff _ _).2 hkeys)
    · show Listing.mk listing.message (Conversation.codec.list.ofValue conversations) = listing
      rw [hof]

/-- A listing may be the list of its fields. -/
theorem means_listing_list {inside : Gap} {elements : List (Spaced Tree)} {listing : Listing} :
    Listing.codec.Means (.list inside elements) listing ↔
      HasListing listing (.list inside elements) := by
  match elements with
  | [] =>
      refine ⟨?_, False.elim⟩
      rintro ⟨_, h, -⟩
      cases h
  | [message] =>
      simp only [HasListing, ← meaning_text_iff]
      constructor
      · rintro ⟨⟨text, conversations, ⟨⟩⟩, h, rfl⟩
        obtain ⟨hmessage, h⟩ := elements_cons_iff.1 h
        obtain ⟨-, rfl, -⟩ := elements_nil_iff.1 h
        exact ⟨hmessage, rfl⟩
      · rintro ⟨hmessage, hnone⟩
        refine ⟨(listing.message, [], ()),
          elements_cons_iff.2 ⟨hmessage, elements_nil_iff.2 ⟨rfl, rfl, rfl⟩⟩, ?_⟩
        show Listing.mk listing.message [] = listing
        rw [← hnone]
  | [message, conversations] =>
      simp only [HasListing, ← meaning_text_iff]
      constructor
      · rintro ⟨⟨text, value, ⟨⟩⟩, h, rfl⟩
        obtain ⟨hmessage, h⟩ := elements_cons_iff.1 h
        obtain ⟨hvalue, -⟩ := elements_cons_iff.1 h
        exact ⟨hmessage, value, hvalue, rfl⟩
      · rintro ⟨hmessage, value, hvalue, hof⟩
        refine ⟨(listing.message, value, ()),
          elements_cons_iff.2 ⟨hmessage, elements_cons_iff.2 ⟨hvalue, rfl⟩⟩, ?_⟩
        show Listing.mk listing.message (Conversation.codec.list.ofValue value) = listing
        rw [hof]
  | message :: conversations :: other :: more =>
      refine ⟨?_, False.elim⟩
      rintro ⟨⟨text, value, ⟨⟩⟩, h, -⟩
      obtain ⟨-, h⟩ := elements_cons_iff.1 h
      obtain ⟨-, h⟩ := elements_cons_iff.1 h
      cases h

/-- A listing is what its body says. -/
theorem means_listing_iff {tree : Tree} {listing : Listing} :
    Listing.codec.Means tree listing ↔ HasListing listing tree := by
  cases tree with
  | object inside members => exact means_listing_object
  | null | boolean | number | text =>
      refine ⟨?_, False.elim⟩
      rintro ⟨_, h, -⟩
      cases h
  | list inside elements => exact means_listing_list

/-- A refusal is what its body says. -/
theorem means_refusal_iff {tree : Tree} {text : String} :
    Refusal.codec.Means tree ⟨some text⟩ ↔ HasRefusal text tree := by
  have hmeans : Refusal.codec.Means tree ⟨some text⟩ ↔
      Refusal.codec.shape.meaning tree = .ok (some text, ()) := by
    refine ⟨?_, fun h => ⟨_, h, rfl⟩⟩
    rintro ⟨⟨message?, ⟨⟩⟩, h, hof⟩
    cases hof
    exact h
  rw [hmeans]
  cases tree with
  | object inside members =>
      simp only [HasRefusal, ← meaning_optional_text_iff]
      refine (Fields.hold_iff _ members _).trans ?_
      refine (and_comm (a := FieldHolds _ _ _ _ _)).trans (and_congr (forall_unnamed_iff _ _) ?_)
      refine ⟨?_, .inr⟩
      rintro (⟨-, habsent⟩ | h)
      · cases habsent
      · exact h
  | list inside elements =>
      match elements with
      | [] => exact ⟨nofun, False.elim⟩
      | [message] =>
          simp only [HasRefusal, ← meaning_optional_text_iff]
          exact elements_cons_iff.trans (and_iff_left rfl)
      | message :: other :: more =>
          refine ⟨fun h => ?_, False.elim⟩
          have hmore := (elements_cons_iff.1 h).2
          cases hmore
  | null | boolean | number | text => exact ⟨nofun, False.elim⟩

/-- A body is read as the listing that it is, and nothing else is. -/
theorem Listing.decode_iff {body : Bytes} {listing : Listing} :
    Listing.codec.decode body = .ok listing ↔
      ∃ document : Json.Document, document.bytes = body ∧ HasListing listing document.item := by
  simp only [Listing.codec.decode_iff, means_listing_iff]

/-- A body is read as the refusal that it is, and nothing else is. -/
theorem Refusal.decode_iff {body : Bytes} {text : String} :
    Refusal.codec.decode body = .ok ⟨some text⟩ ↔
      ∃ document : Json.Document, document.bytes = body ∧ HasRefusal text document.item := by
  simp only [Refusal.codec.decode_iff, means_refusal_iff]

end CatalogView.Slack
