import CatalogView.Document
import CatalogView.Settings.Basic
import CatalogView.Toml.Read

/-!
# Settings in a file

Settings are kept as a TOML document with the tables `api` and `ui`. What is not set there has its
default, and what is not known there is passed over. A file with one bad value says nothing.
-/

namespace CatalogView

open CatalogView.Toml

/-- Why settings cannot be loaded. -/
inductive SettingsError where
  | unreadable (reason : Unreadable)
  | malformed
  deriving DecidableEq, Repr

namespace Settings

/-- The values of some keys: those of a table by name, those of an array by their places. A date
is a table without these keys. -/
def members? (keys : List String) : Value → Option (List (Option Value))
  | .table _ fields => some (keys.map (Fields.get? fields))
  | .array items => some (keys.zipIdx.map fun (_, i) => items[i]?)
  | .tables items =>
    some (keys.zipIdx.map fun (_, i) => items.reverse[i]?.map (.table .header))
  | .date _ => some (keys.map fun _ => none)
  | _ => none

/-- The text of a value, or a default if there is none. -/
def string? (default : String) : Option Value → Option String
  | none => some default
  | some (.string text) => some text
  | some _ => none

/-- The natural number of a value, or a default if there is none. -/
def natural? (default : Nat) : Option Value → Option Nat
  | none => some default
  | some (.integer n) => if 0 ≤ n then some n.toNat else none
  | some _ => none

/-- The text of a value that need not be there. -/
def optional? : Option Value → Option (Option String)
  | none => some none
  | some (.string text) => some (some text)
  | some _ => none

/-- Reads how the catalog is asked. -/
def readApi? : Option Value → Option ApiSettings
  | none => some {}
  | some value => do
    let default : ApiSettings := {}
    match ← members? ["base_url", "connect_timeout_seconds", "timeout_seconds"] value with
    | [baseUrl, connectSeconds, answerSeconds] =>
      return { baseUrl := ← string? default.baseUrl baseUrl
               connectSeconds := ← natural? default.connectSeconds connectSeconds
               answerSeconds := ← natural? default.answerSeconds answerSeconds }
    | _ => none

/-- Reads how the viewer shows what it knows. -/
def readView? : Option Value → Option ViewSettings
  | none => some {}
  | some value => do
    let default : ViewSettings := {}
    match ← members? ["metadata_file", "tick_millis"] value with
    | [detailFile, tickMillis] =>
      return { detailFile? := ← optional? detailFile
               tickMillis := ← natural? default.tickMillis tickMillis }
    | _ => none

/-- Reads settings from the fields of a document. -/
def ofFields? (fields : Fields) : Option Settings := do
  return { api := ← readApi? (fields.get? "api"), view := ← readView? (fields.get? "ui") }

/-- Loads settings from a document. -/
def load (document : Document) : Except SettingsError Settings :=
  match document.text with
  | .error reason => .error (.unreadable reason)
  | .ok text =>
    match (Toml.read? text).bind ofFields? with
    | some settings => .ok settings
    | none => .error .malformed

/-- Loads settings from a document, or else takes the defaults. -/
def loadOrDefault (document : Document) : Settings :=
  match load document with
  | .ok settings => settings
  | .error _ => {}

end Settings

end CatalogView
