import SiteSearch.CommandLine.Arguments
import SiteSearch.CommandLine.Run
import SiteSearch.Content
import SiteSearch.Decimal.Binary64
import SiteSearch.Decimal.Layout
import SiteSearch.Decimal.Literal
import SiteSearch.Decimal.Shortest
import SiteSearch.Duration
import SiteSearch.Engine.Address
import SiteSearch.Engine.Call
import SiteSearch.Engine.Connection
import SiteSearch.Engine.Conversation
import SiteSearch.Engine.Host
import SiteSearch.Engine.Http
import SiteSearch.Engine.Link
import SiteSearch.Engine.Transport
import SiteSearch.Filter.Clause
import SiteSearch.Filter.Compile
import SiteSearch.Filter.Conditions
import SiteSearch.Filter.Quoted
import SiteSearch.Json.Basic
import SiteSearch.Json.Decode
import SiteSearch.Json.Inspect
import SiteSearch.Json.Printer
import SiteSearch.Json.Reader
import SiteSearch.Json.Token
import SiteSearch.Main
import SiteSearch.Options
import SiteSearch.Plan
import SiteSearch.Proofs.CommandLine.Explained
import SiteSearch.Proofs.CommandLine.Joined
import SiteSearch.Proofs.Engine.Asked
import SiteSearch.Proofs.Engine.Body
import SiteSearch.Proofs.Engine.Configured
import SiteSearch.Proofs.Engine.Linked
import SiteSearch.Proofs.Engine.Outcomes
import SiteSearch.Proofs.Engine.Rehearsed
import SiteSearch.Proofs.Engine.Secret
import SiteSearch.Proofs.Engine.Told
import SiteSearch.Proofs.Filter.Compiled
import SiteSearch.Proofs.Filter.Fallback
import SiteSearch.Proofs.Filter.Picked
import SiteSearch.Proofs.Filter.Precedence
import SiteSearch.Proofs.Filter.Sealed
import SiteSearch.Proofs.Filter.Settled
import SiteSearch.Proofs.Input.Form
import SiteSearch.Proofs.Query.AnyCase
import SiteSearch.Proofs.Query.Clauses
import SiteSearch.Proofs.Query.Continued
import SiteSearch.Proofs.Query.Cut
import SiteSearch.Proofs.Query.Exposed
import SiteSearch.Proofs.Query.Front
import SiteSearch.Proofs.Query.Located
import SiteSearch.Proofs.Query.Matches
import SiteSearch.Proofs.Query.Meanings
import SiteSearch.Proofs.Query.Octets
import SiteSearch.Proofs.Query.Stripped
import SiteSearch.Proofs.Query.Tokens
import SiteSearch.Proofs.Record.Flat
import SiteSearch.Proofs.Report.Blocks
import SiteSearch.Proofs.Report.Plain
import SiteSearch.Proofs.Settings.Layered
import SiteSearch.Proofs.Settings.Texts
import SiteSearch.Proofs.Text.Ascii
import SiteSearch.Proofs.Text.Capitals
import SiteSearch.Proofs.Text.Lines
import SiteSearch.Proofs.Text.SmallLetters
import SiteSearch.Proofs.Text.Substituted
import SiteSearch.Proofs.Text.Words
import SiteSearch.Query.Directive
import SiteSearch.Query.Parsed
import SiteSearch.Query.Scan
import SiteSearch.Record.Basic
import SiteSearch.Record.Display
import SiteSearch.Record.Hit
import SiteSearch.Report
import SiteSearch.Request
import SiteSearch.SearchInput
import SiteSearch.SearchResult
import SiteSearch.Settings.Basic
import SiteSearch.Settings.FileTree
import SiteSearch.Settings.Format
import SiteSearch.Settings.KeyPath
import SiteSearch.Settings.Load
import SiteSearch.Settings.Sheet
import SiteSearch.Settings.Toml
import SiteSearch.Settings.Toml.Scalar
import SiteSearch.Settings.Toml.Tables
import SiteSearch.Settings.Toml.Text
import SiteSearch.Settings.Value
import SiteSearch.Text.Ascii
import SiteSearch.Text.Blank
import SiteSearch.Text.ByteOrderMark
import SiteSearch.Text.Cased
import SiteSearch.Text.Integer
import SiteSearch.Text.LetterCase
import SiteSearch.Text.Percent
import SiteSearch.Text.Punycode
import SiteSearch.Text.Ranges
import SiteSearch.Text.Shown
import SiteSearch.Text.Substitute
import SiteSearch.Text.Unprintable
