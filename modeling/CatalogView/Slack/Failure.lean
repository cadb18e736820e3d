/-!
# Failed fetches

A fetch fails either because nothing was answered or because the answer has a status that refuses
the request or a body that cannot be read. Only in the second case there is a status.
-/

namespace CatalogView.Slack

/-- A failed fetch: the status of the answer, if there was one, and what it says. -/
structure Failure where
  status? : Option Nat := none
  message? : Option String := none
  deriving DecidableEq, Repr

/-- Why a fetch failed. -/
inductive FailureCause where
  | noResponse
  | status (code : Nat)
  deriving DecidableEq, Repr

namespace Failure

/-- Nothing was answered. -/
def noResponse : Failure := {}

/-- An answer with a status and perhaps a message. -/
def ofStatus (status : Nat) (message? : Option String) : Failure :=
  { status? := some status, message? }

/-- Why the fetch failed. -/
def cause (failure : Failure) : FailureCause :=
  match failure.status? with
  | some code => .status code
  | none => .noResponse

/-- What a person is told about the failure. -/
def advice (failure : Failure) : String :=
  match failure.cause with
  | .noResponse => "No response from the catalog. Check your connection."
  | .status code =>
    if 500 ≤ code then "Catalog error. Please try again later."
    else "The catalog rejected the request."

/-- What a log is told about the failure. -/
def message (failure : Failure) : String :=
  let said := failure.message?.getD "no message"
  match failure.cause with
  | .noResponse => s!"no response received ({said})"
  | .status code => s!"status {code}: {said}"

end Failure

end CatalogView.Slack
