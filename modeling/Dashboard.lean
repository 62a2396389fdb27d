import Dashboard.Amount
import Dashboard.ApiError
import Dashboard.Binary64
import Dashboard.Binary64.Literal
import Dashboard.Binary64.Places
import Dashboard.Binary64.Shortest
import Dashboard.Budget
import Dashboard.Client.Config
import Dashboard.Client.Exchange
import Dashboard.Client.Host
import Dashboard.Client.Network
import Dashboard.Client.Request
import Dashboard.Client.Url
import Dashboard.CommandLine
import Dashboard.Console
import Dashboard.Console.Update
import Dashboard.Json.Failure
import Dashboard.Json.Number
import Dashboard.Json.Object
import Dashboard.Json.Reader
import Dashboard.Json.Record
import Dashboard.Json.Skip
import Dashboard.Json.Text
import Dashboard.Key
import Dashboard.Log
import Dashboard.Main
import Dashboard.Screen.Compose
import Dashboard.Screen.Grid
import Dashboard.Screen.KeyBar
import Dashboard.Screen.Line
import Dashboard.Screen.Paint
import Dashboard.Screen.Panels
import Dashboard.Screen.Style
import Dashboard.Screen.Wrap
import Dashboard.ServerStatus
import Dashboard.Session
import Dashboard.StatusCache
import Dashboard.Text.Blank
import Dashboard.Text.Break
import Dashboard.Text.ByteOrderMark
import Dashboard.Text.Caret
import Dashboard.Text.Cluster
import Dashboard.Text.Columns
import Dashboard.Text.Emoji
import Dashboard.Text.Extend
import Dashboard.Text.Printable
import Dashboard.Text.Quoted
import Dashboard.Text.Ranges
import Dashboard.Text.Utf8
import Dashboard.Text.Wide
import Dashboard.Toast
import Dashboard.Webhook.Document
import Dashboard.Webhook.Field
import Dashboard.Webhook.Form
import Dashboard.Proofs.Effect
import Dashboard.Proofs.InFlight
import Dashboard.Proofs.Convergence
import Dashboard.Proofs.FirstLoad
import Dashboard.Proofs.HiddenForm
import Dashboard.Proofs.LateEdit
import Dashboard.Proofs.LoadOrder
import Dashboard.Proofs.ExplicitSave
import Dashboard.Proofs.CacheHistory
import Dashboard.Proofs.StatusSlot
import Dashboard.Proofs.Withdrawal
import Dashboard.Proofs.Tickets
import Dashboard.Proofs.StatusRequests
import Dashboard.Proofs.Keyless
import Dashboard.Proofs.Answers
import Dashboard.Proofs.DeliveryOrder
import Dashboard.Proofs.Freshness
import Dashboard.Proofs.Editor
import Dashboard.Proofs.WorkingCopy
import Dashboard.Proofs.Caret
import Dashboard.Proofs.TextBuffer
import Dashboard.Proofs.Reports
import Dashboard.Proofs.Setbacks
import Dashboard.Proofs.Utf8
import Dashboard.Proofs.Json.Grammar
import Dashboard.Proofs.Json.Outcome
import Dashboard.Proofs.Json.Number
import Dashboard.Proofs.Json.Text
import Dashboard.Proofs.Json.Object
import Dashboard.Proofs.Json.Skip
import Dashboard.Proofs.Json.Lawful
import Dashboard.Proofs.Json.Record
import Dashboard.Proofs.Json.Write
import Dashboard.Proofs.Body
import Dashboard.Proofs.Exchange
import Dashboard.Proofs.Classification
import Dashboard.Proofs.SavedBody
import Dashboard.Proofs.StatusFormat
import Dashboard.Proofs.EnvelopeFormat
import Dashboard.Proofs.SavedSettings
import Dashboard.Proofs.KeySecrecy
import Dashboard.Proofs.ToastLifetime
import Dashboard.Proofs.KeyBar
import Dashboard.Proofs.Binary64.Rounding
import Dashboard.Proofs.Binary64.Operations
import Dashboard.Proofs.Spending
import Dashboard.Proofs.Binary64.Nearest
import Dashboard.Proofs.Binary64.Decimal
import Dashboard.Proofs.Binary64.Grammar
import Dashboard.Proofs.Amounts
import Dashboard.Proofs.BaseUrl
import Dashboard.Proofs.FlagOrder
import Dashboard.Proofs.JoinedList
