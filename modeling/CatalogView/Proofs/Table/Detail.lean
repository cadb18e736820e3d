import CatalogView.Proofs.Json.Grammar
import CatalogView.Proofs.Text.Utf8
import CatalogView.Table.Detail

/-!
# Documents with the details of a table

`HasDetail` says of a document that it has details, and `LacksDetail` why it has none, both by what
is in the document. `Detail.load_eq_ok_iff` and `Detail.load_eq_error_iff` say that details are
loaded from the documents that have them and from no others.
-/

namespace CatalogView

open CatalogView.Text

/-- A document cannot be read as a text, for the reason that is reported. -/
inductive Document.LacksText : Document → Unreadable → Prop where
  | missing : LacksText .missing .missing
  | directory : LacksText .directory .directory
  | notText {bytes : Bytes} (hnone : ∀ text, Utf8.encode text ≠ bytes) :
      LacksText (.file bytes) .notText

variable {document : Document}

/-- A document is read as a text if and only if it is a file with the bytes of that text. -/
theorem Document.text_eq_ok_iff {text : List Char} :
    document.text = .ok text ↔ document = .file (Utf8.encode text) := by
  cases document with
  | missing | directory => simp [Document.text]
  | file bytes =>
      rw [Document.file.injEq, eq_comm (b := Utf8.encode text), ← utf8_decode_eq_some_iff,
        Document.text]
      cases Utf8.decode? bytes <;> simp

/-- A document that is not read as a text lacks one. -/
theorem Document.text_eq_error_iff {reason : Unreadable} :
    document.text = .error reason ↔ document.LacksText reason := by
  constructor
  · intro h
    cases document with
    | missing =>
        cases h
        exact .missing
    | directory =>
        cases h
        exact .directory
    | file bytes =>
        rw [Document.text] at h
        cases hdecode : Utf8.decode? bytes with
        | some text => simp [hdecode] at h
        | none =>
            rw [hdecode] at h
            cases h
            refine .notText fun text hbytes => ?_
            rw [utf8_decode_eq_some_iff.2 hbytes] at hdecode
            cases hdecode
  · intro h
    cases h with
    | missing | directory => rfl
    | @notText bytes hnone =>
        have hdecode : Utf8.decode? bytes = none :=
          Option.eq_none_iff_forall_ne_some.2 fun text h => hnone text (utf8_decode_eq_some_iff.1 h)
        rw [Document.text, hdecode]

namespace Table

/-- A document has the details: it is a file with a text, which is a JSON document that stands for
them. -/
def HasDetail (document : Document) (detail : Detail) : Prop :=
  ∃ text, document = .file (Utf8.encode text) ∧
    ∃ json : Json.Document, json.bytes = Utf8.encode text ∧ Detail.codec.Means json.item detail

/-- A document has no details, for the reason that is reported. -/
inductive LacksDetail (document : Document) : LoadError → Prop where
  | unreadable {reason : Unreadable} (htext : document.LacksText reason) :
      LacksDetail document (.unreadable reason)
  /-- The text of the file is no JSON document. -/
  | notJson {text : List Char} {fault : Json.Fault} (htext : document = .file (Utf8.encode text))
      (hnone : ∀ json : Json.Document, json.bytes ≠ Utf8.encode text)
      (hfault : Detail.codec.decode (Utf8.encode text) = .error fault) :
      LacksDetail document (.malformed fault (Utf8.encode text))
  /-- The text of the file is a JSON document that stands for no details. -/
  | otherJson {text : List Char} {json : Json.Document} {fault : Json.Fault}
      (htext : document = .file (Utf8.encode text)) (hjson : json.bytes = Utf8.encode text)
      (hnone : ∀ detail, ¬ Detail.codec.Means json.item detail)
      (hfault : Detail.codec.decode (Utf8.encode text) = .error fault) :
      LacksDetail document (.malformed fault (Utf8.encode text))

namespace Detail

/-- Nothing is loaded without a text. -/
theorem load_of_no_text {reason : Unreadable} (h : document.text = .error reason) :
    load document = .error (.unreadable reason) := by
  unfold load
  rw [h]

/-- With a text it is decoded. -/
theorem load_of_text {text : List Char} (h : document.text = .ok text) :
    load document =
      (codec.decode (Utf8.encode text)).mapError (.malformed · (Utf8.encode text)) := by
  unfold load
  rw [h]
  cases hdecode : codec.decode (Utf8.encode text) <;> simp [hdecode, Except.mapError]

/-- Details are loaded from a document if and only if it has them. -/
theorem load_eq_ok_iff {detail : Detail} :
    load document = .ok detail ↔ HasDetail document detail := by
  unfold HasDetail
  simp only [← Document.text_eq_ok_iff, ← codec.decode_iff]
  cases htext : document.text with
  | error reason => simp [load_of_no_text htext]
  | ok text =>
      rw [load_of_text htext]
      cases hdecode : codec.decode (Utf8.encode text) <;> simp [hdecode, Except.mapError]

/-- None are loaded if and only if it has none, and the error is the reason. -/
theorem load_eq_error_iff {error : LoadError} :
    load document = .error error ↔ LacksDetail document error := by
  constructor
  · intro h
    cases htext : document.text with
    | error reason =>
        rw [load_of_no_text htext] at h
        cases h
        exact .unreadable (Document.text_eq_error_iff.1 htext)
    | ok text =>
        rw [load_of_text htext] at h
        cases hdecode : codec.decode (Utf8.encode text) with
        | ok detail =>
            rw [hdecode] at h
            cases h
        | error fault =>
            rw [hdecode] at h
            cases h
            have hfile := Document.text_eq_ok_iff.1 htext
            by_cases hjson : ∃ json : Json.Document, json.bytes = Utf8.encode text
            · obtain ⟨json, hjson⟩ := hjson
              refine .otherJson hfile hjson (fun detail hmeans => ?_) hdecode
              rw [codec.decode_iff.2 ⟨json, hjson, hmeans⟩] at hdecode
              cases hdecode
            · exact .notJson hfile (fun json h => hjson ⟨json, h⟩) hdecode
  · intro h
    cases h with
    | unreadable htext => exact load_of_no_text (Document.text_eq_error_iff.2 htext)
    | notJson htext _ hfault | otherJson htext _ _ hfault =>
        rw [load_of_text (Document.text_eq_ok_iff.2 htext), hfault]
        rfl

end Detail

end Table

end CatalogView
