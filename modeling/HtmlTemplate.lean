import HtmlTemplate.Command.State
import HtmlTemplate.Dom.Step
import HtmlTemplate.Log.Session
import HtmlTemplate.Main
import HtmlTemplate.Proofs.Code.Preservation
import HtmlTemplate.Proofs.Extraction
import HtmlTemplate.Proofs.Dom.Expansion
import HtmlTemplate.Proofs.Dom.Conservation
import HtmlTemplate.Proofs.Markup
import HtmlTemplate.Proofs.Code.Spelling
import HtmlTemplate.Proofs.Code.Visit
import HtmlTemplate.Proofs.Code.Indentation
import HtmlTemplate.Proofs.Code.Nesting
import HtmlTemplate.Proofs.Code.Literals
import HtmlTemplate.Proofs.Code.Balance
import HtmlTemplate.Proofs.Code.Validity
import HtmlTemplate.Proofs.Dom.Parts
import HtmlTemplate.Proofs.Html.PlainText
import HtmlTemplate.Proofs.Placement
import HtmlTemplate.Proofs.Dom.Elements
import HtmlTemplate.Proofs.Html.Credit
import HtmlTemplate.Proofs.Html.Formatting
import HtmlTemplate.Proofs.Html.EndTags
import HtmlTemplate.Proofs.Html.StartTags
import HtmlTemplate.Proofs.Html.Tokens
import HtmlTemplate.Proofs.Html.Reading
import HtmlTemplate.Proofs.Underflow
import HtmlTemplate.Proofs.Html.Fostering
import HtmlTemplate.Proofs.Dom.Forest
import HtmlTemplate.Proofs.Dom.Export
import HtmlTemplate.Proofs.Decimal.RoundTrip
import HtmlTemplate.Proofs.Code.Depth
import HtmlTemplate.Proofs.Code.Tracking
import HtmlTemplate.Proofs.Code.Keys
import HtmlTemplate.Proofs.Code.Comments
import HtmlTemplate.Proofs.StaticAttributes
import HtmlTemplate.Proofs.Code.Faults
import HtmlTemplate.Proofs.Dom.Chunks
import HtmlTemplate.Proofs.Dom.TextBefore
import HtmlTemplate.Proofs.Dom.Price
import HtmlTemplate.Proofs.Dom.Failures
import HtmlTemplate.Proofs.Dom.FaithfulSplit
import HtmlTemplate.Proofs.Html.Reopening
import HtmlTemplate.Proofs.Files
import HtmlTemplate.Proofs.Json
import HtmlTemplate.Proofs.Text.Utf8
import HtmlTemplate.Proofs.Command
