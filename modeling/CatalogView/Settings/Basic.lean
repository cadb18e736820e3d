/-!
# Settings

What can be set about the viewer, and what holds where nothing is set. Variables of the
environment go before everything else.
-/

namespace CatalogView

/-- How the catalog is asked. -/
structure ApiSettings where
  baseUrl : String := "http://localhost:5000"
  connectSeconds : Nat := 5
  answerSeconds : Nat := 20
  deriving DecidableEq, Repr

/-- How the viewer shows what it knows. -/
structure ViewSettings where
  /-- The document with the filters and joins of the table. -/
  detailFile? : Option String := none
  tickMillis : Nat := 50
  deriving DecidableEq, Repr

/-- All settings. -/
structure Settings where
  api : ApiSettings := {}
  view : ViewSettings := {}
  deriving DecidableEq, Repr

namespace Settings

/-- The variable that sets where the catalog is. -/
def baseUrlVariable : String := "STEMMA_BASE_URL"

/-- The variable that sets where the document with the details is. -/
def detailFileVariable : String := "STEMMA_METADATA_FILE"

/-- The value of a variable that is set to something. -/
def nonempty? (lookup : String → Option String) (name : String) : Option String :=
  (lookup name).filter (· ≠ "")

/-- The settings with those that the environment overrides. -/
def override (settings : Settings) (lookup : String → Option String) : Settings :=
  { api :=
      { settings.api with
        baseUrl := (nonempty? lookup baseUrlVariable).getD settings.api.baseUrl }
    view :=
      { settings.view with
        detailFile? :=
          nonempty? lookup detailFileVariable <|> settings.view.detailFile? } }

end Settings

end CatalogView
