import CatalogView.Main
import CatalogView.Table.Page
import CatalogView.Proofs.Feed.Failure
import CatalogView.Proofs.Store.Closing
import CatalogView.Proofs.Store.Outstanding
import CatalogView.Proofs.Viewer.Error
import CatalogView.Proofs.Table.Key
import CatalogView.Proofs.Viewer.Recovery
import CatalogView.Proofs.Json.Lexeme
import CatalogView.Proofs.Json.RoundTrip
import CatalogView.Proofs.Http.Sent
import CatalogView.Proofs.Http.Exchange
import CatalogView.Proofs.Feed.Shown
import CatalogView.Proofs.Feed.Decided
import CatalogView.Proofs.Json.Wire
import CatalogView.Proofs.View.Filters
import CatalogView.Proofs.Viewer.Columns
import CatalogView.Proofs.Slack.Timestamp
import CatalogView.Proofs.Text.Decimal
import CatalogView.Proofs.Text.Part
import CatalogView.Proofs.Text.Utf8
import CatalogView.Proofs.Url.Percent
import CatalogView.Proofs.Url.Path
import CatalogView.Proofs.Url.Reference
import CatalogView.Proofs.Table.Filter
import CatalogView.Proofs.Table.Page
import CatalogView.Proofs.Url.Site
import CatalogView.Proofs.Url.Form
import CatalogView.Proofs.Http.Asked
import CatalogView.Proofs.Screen.Tiling
import CatalogView.Proofs.Viewer.Requests
import CatalogView.Proofs.Viewer.Drawing
import CatalogView.Slack.Watch
import CatalogView.Proofs.Store.Requested
import CatalogView.Proofs.Store.Stopped
import CatalogView.Proofs.Viewer.Popup
import CatalogView.Proofs.Feed.Classified
import CatalogView.Proofs.Json.Tree
import CatalogView.Proofs.Json.Skip
import CatalogView.Proofs.Json.Token
import CatalogView.Proofs.Json.Meaning
import CatalogView.Proofs.Json.Fields
import CatalogView.Proofs.Json.Revision
import CatalogView.Proofs.Feed.Body
import CatalogView.Proofs.Slack.Numeral
import CatalogView.Proofs.Store.Draining
import CatalogView.Proofs.Viewer.Modal
import CatalogView.Proofs.Table.Path
import CatalogView.Proofs.Text.Line
import CatalogView.Proofs.View.Conversations
import CatalogView.Proofs.Viewer.Scrolling
import CatalogView.Proofs.Settings.Precedence
import CatalogView.Proofs.Screen.Wrap
import CatalogView.Proofs.Screen.Confined
import CatalogView.Proofs.View.Parts
