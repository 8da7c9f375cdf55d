import Mailroom.Address.Basic
import Mailroom.Address.Entry
import Mailroom.Address.Lenient
import Mailroom.Cli.Arguments
import Mailroom.Cli.Help
import Mailroom.Cli.Limit
import Mailroom.Cli.Run
import Mailroom.Cli.Switch
import Mailroom.Client.Config
import Mailroom.Client.Password
import Mailroom.Client.Read
import Mailroom.Client.Select
import Mailroom.Client.Send
import Mailroom.Codec.Base64
import Mailroom.Codec.BigFive
import Mailroom.Codec.Charset
import Mailroom.Codec.Hangul
import Mailroom.Codec.Hanzi
import Mailroom.Codec.Ideograph
import Mailroom.Codec.Kanji
import Mailroom.Codec.Percent
import Mailroom.Codec.Piece
import Mailroom.Codec.Plane
import Mailroom.Codec.QuotedPrintable
import Mailroom.Codec.UpperHalf
import Mailroom.Codec.Utf7
import Mailroom.Codec.Utf8
import Mailroom.Codec.Uuencode
import Mailroom.Codec.WholeSet
import Mailroom.Fault
import Mailroom.Files.Disk
import Mailroom.Files.MediaType
import Mailroom.Files.Path
import Mailroom.Filter.Compile
import Mailroom.Filter.Criteria
import Mailroom.Filter.Description
import Mailroom.Filter.Error
import Mailroom.Filter.Evaluate
import Mailroom.Filter.Size
import Mailroom.Filter.Tree
import Mailroom.Filter.Value
import Mailroom.Header.AddressList
import Mailroom.Header.EncodedWord
import Mailroom.Header.Field
import Mailroom.Header.Folding
import Mailroom.Header.Parameter
import Mailroom.Header.Phrase
import Mailroom.Header.Scan
import Mailroom.Header.Token
import Mailroom.Html.Clean
import Mailroom.Html.Document
import Mailroom.Html.Draft
import Mailroom.Html.Entity
import Mailroom.Html.Escape
import Mailroom.Html.Event
import Mailroom.Html.Node
import Mailroom.Html.Plain
import Mailroom.Html.Reference
import Mailroom.Html.Token
import Mailroom.Html.Tree
import Mailroom.Imap.Connection
import Mailroom.Imap.Fetch
import Mailroom.Imap.KeepAlive
import Mailroom.Imap.Mailbox
import Mailroom.Imap.Search
import Mailroom.Imap.Watch
import Mailroom.Json.Complaint
import Mailroom.Json.Reading
import Mailroom.Json.Value
import Mailroom.Main
import Mailroom.Message.Basic
import Mailroom.Message.Body
import Mailroom.Message.Composing
import Mailroom.Message.Reading
import Mailroom.Message.Writing
import Mailroom.Number.Binary
import Mailroom.Number.Shortest
import Mailroom.Proofs.Address.Joined
import Mailroom.Proofs.Address.Phrases
import Mailroom.Proofs.Address.RoundTrip
import Mailroom.Proofs.Address.Shown
import Mailroom.Proofs.Cli.Endings
import Mailroom.Proofs.Cli.Passwords
import Mailroom.Proofs.Client.Asking
import Mailroom.Proofs.Client.Closing
import Mailroom.Proofs.Client.Hiding
import Mailroom.Proofs.Client.Paging
import Mailroom.Proofs.Client.Posting
import Mailroom.Proofs.Client.Prompting
import Mailroom.Proofs.Client.Protocol
import Mailroom.Proofs.Client.Reading
import Mailroom.Proofs.Client.Releasing
import Mailroom.Proofs.Client.Reviewing
import Mailroom.Proofs.Client.Sending
import Mailroom.Proofs.Codec.Base64
import Mailroom.Proofs.Codec.Percent
import Mailroom.Proofs.Codec.QuotedPrintable
import Mailroom.Proofs.Codec.Utf8
import Mailroom.Proofs.Files.Places
import Mailroom.Proofs.Filter.Ascending
import Mailroom.Proofs.Filter.Blame
import Mailroom.Proofs.Filter.Composition
import Mailroom.Proofs.Filter.Grammar
import Mailroom.Proofs.Filter.Meaning
import Mailroom.Proofs.Filter.Refusal
import Mailroom.Proofs.Filter.Rounding
import Mailroom.Proofs.Filter.Shape
import Mailroom.Proofs.Filter.Skeleton
import Mailroom.Proofs.Filter.Terms
import Mailroom.Proofs.Filter.Truth
import Mailroom.Proofs.Filter.Typed
import Mailroom.Proofs.Filter.Unambiguous
import Mailroom.Proofs.Filter.Wording
import Mailroom.Proofs.Header.Encoding
import Mailroom.Proofs.Header.Folding
import Mailroom.Proofs.Header.Parameters
import Mailroom.Proofs.Header.Quoting
import Mailroom.Proofs.Imap.Answers
import Mailroom.Proofs.Imap.Decoding
import Mailroom.Proofs.Imap.Faults
import Mailroom.Proofs.Imap.Finding
import Mailroom.Proofs.Imap.Folders
import Mailroom.Proofs.Imap.Interleaving
import Mailroom.Proofs.Imap.Received
import Mailroom.Proofs.Imap.Sent
import Mailroom.Proofs.Imap.Telling
import Mailroom.Proofs.Json.Grammar
import Mailroom.Proofs.Json.Leaves
import Mailroom.Proofs.Json.Reading
import Mailroom.Proofs.Lists
import Mailroom.Proofs.Message.Beginning
import Mailroom.Proofs.Message.Boundaries
import Mailroom.Proofs.Message.Charsets
import Mailroom.Proofs.Message.Containers
import Mailroom.Proofs.Message.FileNames
import Mailroom.Proofs.Message.Lines
import Mailroom.Proofs.Message.MediaTypes
import Mailroom.Proofs.Message.Parts
import Mailroom.Proofs.Message.RoundTrip
import Mailroom.Proofs.Message.Sheets
import Mailroom.Proofs.Message.Written
import Mailroom.Proofs.Number.Nearest
import Mailroom.Proofs.Outcome
import Mailroom.Proofs.Search.Agreement
import Mailroom.Proofs.Search.Finding
import Mailroom.Proofs.Search.HeadersOnly
import Mailroom.Proofs.Search.Line
import Mailroom.Proofs.Search.Origin
import Mailroom.Proofs.Search.Program
import Mailroom.Proofs.Search.Reading
import Mailroom.Proofs.Session.Endings
import Mailroom.Proofs.Session.Runs
import Mailroom.Proofs.Text.Ascii
import Mailroom.Proofs.Text.Decimal
import Mailroom.Proofs.Text.Pieces
import Mailroom.Proofs.Time.Calendar
import Mailroom.Proofs.Time.Changes
import Mailroom.Proofs.Time.Clock
import Mailroom.Proofs.Time.DateLines
import Mailroom.Proofs.Time.Letters
import Mailroom.Proofs.Time.Spoken
import Mailroom.Proofs.Time.Summers
import Mailroom.Proofs.View.Confinement
import Mailroom.Proofs.View.Faults
import Mailroom.Proofs.View.Listing
import Mailroom.Proofs.View.Overwriting
import Mailroom.Proofs.View.Printing
import Mailroom.Proofs.View.Saving
import Mailroom.Proofs.Web.Quotes
import Mailroom.Session.Program
import Mailroom.Smtp.Send
import Mailroom.Text.Basic
import Mailroom.Text.Blank
import Mailroom.Text.Case
import Mailroom.Text.Digit
import Mailroom.Text.Integer
import Mailroom.Text.Quoted
import Mailroom.Time.Calendar
import Mailroom.Time.Format
import Mailroom.Time.Letter
import Mailroom.Time.Stamp
import Mailroom.Time.Zone
import Mailroom.View.Body
import Mailroom.View.Format
import Mailroom.View.Header
import Mailroom.View.Show
import Mailroom.Web.Fetch
import Mailroom.Web.Quote
import Mailroom.WholeNumber
