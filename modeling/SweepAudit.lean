import SweepAudit.Main
import SweepAudit.Venue.Script
import SweepAudit.Venue.Trace
import SweepAudit.Proofs.Decimal.Quotient
import SweepAudit.Proofs.Book.Reachable
import SweepAudit.Proofs.Book.BestFill
import SweepAudit.Proofs.Audit.Verdict
import SweepAudit.Proofs.Decimal.Text
import SweepAudit.Proofs.Json.Leaf
import SweepAudit.Proofs.Json.Reader
import SweepAudit.Proofs.Text.Cutting
import SweepAudit.Proofs.Text.Percent
import SweepAudit.Proofs.Json.Value
import SweepAudit.Proofs.Http.Address
import SweepAudit.Proofs.Http.Target
import SweepAudit.Proofs.Wire
import SweepAudit.Proofs.Exchange.Requests
import SweepAudit.Proofs.Text.Size
import SweepAudit.Proofs.Client.Hosted
import SweepAudit.Proofs.Client.Bodies
import SweepAudit.Proofs.Book.Funding
import SweepAudit.Proofs.Liquidity
import SweepAudit.Proofs.Audit.Prediction
import SweepAudit.Proofs.Book.Placing
import SweepAudit.Proofs.Book.Seeding
import SweepAudit.Proofs.Client.Seeding
import SweepAudit.Proofs.Audit.SelfCheck
import SweepAudit.Proofs.Client.Reseeding
import SweepAudit.Proofs.Credential
import SweepAudit.Proofs.Book.Records
import SweepAudit.Proofs.Exchange.Steps
import SweepAudit.Proofs.Exchange.Books
import SweepAudit.Proofs.Exchange.Alike
import SweepAudit.Proofs.Exchange.Identity
import SweepAudit.Proofs.Exchange.Refusals
import SweepAudit.Proofs.Client.Answers
import SweepAudit.Proofs.Audit.Overfunding
import SweepAudit.Proofs.Decimal.Written
import SweepAudit.Proofs.Decimal.Exponent
import SweepAudit.Proofs.Audit.Exactness
import SweepAudit.Proofs.Config.Given
import SweepAudit.Proofs.Json.Record
import SweepAudit.Proofs.Json.Keys
import SweepAudit.Proofs.Wire.Lossless
import SweepAudit.Proofs.Wire.Grammar
import SweepAudit.Proofs.Client.DepthCode
import SweepAudit.Proofs.Text.Escape
import SweepAudit.Proofs.Http.Parameter
import SweepAudit.Proofs.Exchange.Replies
import SweepAudit.Proofs.Exchange.Frames
import SweepAudit.Proofs.Client.Calls
import SweepAudit.Proofs.Client.Reaching
import SweepAudit.Proofs.Audit.Traceless
import SweepAudit.Proofs.Book.Interleaving
import SweepAudit.Proofs.Audit.Course
import SweepAudit.Proofs.Client.Recognition
import SweepAudit.Proofs.Wire.Forms
import SweepAudit.Proofs.Liquidity.Reference
import SweepAudit.Proofs.Liquidity.Order
import SweepAudit.Proofs.Exchange.Depth
import SweepAudit.Proofs.Book.Payout
import SweepAudit.Proofs.Audit.Surplus
import SweepAudit.Proofs.Wire.Snapshots
import SweepAudit.Proofs.Audit.Reading
import SweepAudit.Proofs.Decimal.Canonical
import SweepAudit.Proofs.Client.Amounts
import SweepAudit.Proofs.Ladder.Shape
