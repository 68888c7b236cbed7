import LoginVault.Agent
import LoginVault.Base64
import LoginVault.Client
import LoginVault.CommandLine.Command
import LoginVault.CommandLine.Grammar
import LoginVault.CommandLine.Run
import LoginVault.Config
import LoginVault.Credentials
import LoginVault.Environment
import LoginVault.Exchange
import LoginVault.Failure
import LoginVault.Form
import LoginVault.Http
import LoginVault.Json.Basic
import LoginVault.Json.Decoding
import LoginVault.Json.Display
import LoginVault.Json.Lexer
import LoginVault.Json.Parser
import LoginVault.Login.Basic
import LoginVault.Login.Decoding
import LoginVault.Login.Malformed
import LoginVault.Lookup
import LoginVault.LookupKey
import LoginVault.Main
import LoginVault.Named
import LoginVault.Number.Binary64
import LoginVault.Number.Display
import LoginVault.Number.Reading
import LoginVault.Number.Shortest
import LoginVault.Paging
import LoginVault.Proofs.Client.Defects
import LoginVault.Proofs.Config.Soundness
import LoginVault.Proofs.Credentials.Header
import LoginVault.Proofs.FrontEnds.Agreement
import LoginVault.Proofs.FrontEnds.Blanks
import LoginVault.Proofs.FrontEnds.ExitStatus
import LoginVault.Proofs.FrontEnds.Secrecy
import LoginVault.Proofs.FrontEnds.Spelling
import LoginVault.Proofs.Json.Lexing
import LoginVault.Proofs.Json.Objects
import LoginVault.Proofs.Json.Scalars
import LoginVault.Proofs.Login.Concealed
import LoginVault.Proofs.Login.RoundTrip
import LoginVault.Proofs.Lookup.Endings
import LoginVault.Proofs.Lookup.Keys
import LoginVault.Proofs.Lookup.Protocol
import LoginVault.Proofs.Paging.Bounds
import LoginVault.Proofs.Paging.Counts
import LoginVault.Proofs.Paging.Failures
import LoginVault.Proofs.Paging.FirstCopies
import LoginVault.Proofs.Paging.Inserts
import LoginVault.Proofs.Paging.Lenient
import LoginVault.Proofs.Paging.Reference
import LoginVault.Proofs.Paging.Written
import LoginVault.Proofs.Session.Attendance
import LoginVault.Proofs.Session.Besides
import LoginVault.Proofs.Session.Callers
import LoginVault.Proofs.Session.Creations
import LoginVault.Proofs.Session.Deeds
import LoginVault.Proofs.Session.FetchMoves
import LoginVault.Proofs.Session.Flight
import LoginVault.Proofs.Session.Followers
import LoginVault.Proofs.Session.Frame
import LoginVault.Proofs.Session.Freshness
import LoginVault.Proofs.Session.Isolation
import LoginVault.Proofs.Session.Journal
import LoginVault.Proofs.Session.Ledger
import LoginVault.Proofs.Session.Moves
import LoginVault.Proofs.Session.Notices
import LoginVault.Proofs.Session.Order
import LoginVault.Proofs.Session.OwnTurns
import LoginVault.Proofs.Session.Provenance
import LoginVault.Proofs.Session.Redraws
import LoginVault.Proofs.Session.Repeats
import LoginVault.Proofs.Session.Requests
import LoginVault.Proofs.Session.Rest
import LoginVault.Proofs.Session.SaveTurns
import LoginVault.Proofs.Session.Saving
import LoginVault.Proofs.Session.Schedule
import LoginVault.Proofs.Session.Serving
import LoginVault.Proofs.Session.Sights
import LoginVault.Proofs.Session.SingleFlight
import LoginVault.Proofs.Session.Snapshots
import LoginVault.Proofs.Session.Submissions
import LoginVault.Proofs.Session.Tables
import LoginVault.Proofs.Session.TaskMoves
import LoginVault.Proofs.Session.Turns
import LoginVault.Proofs.Session.ViewMoves
import LoginVault.Proofs.Session.Views
import LoginVault.Proofs.Session.Visits
import LoginVault.Proofs.Session.Waiters
import LoginVault.Proofs.Session.Waiting
import LoginVault.Proofs.Session.Wakings
import LoginVault.Proofs.Table.Projection
import LoginVault.Proofs.Table.Sorting
import LoginVault.Proofs.Terminal.Bookkeeping
import LoginVault.Proofs.Terminal.Dialogs
import LoginVault.Proofs.Terminal.Following
import LoginVault.Proofs.Terminal.Grid
import LoginVault.Proofs.Terminal.Saves
import LoginVault.Proofs.Terminal.StatusBar
import LoginVault.Proofs.Text.Utf8
import LoginVault.Script
import LoginVault.Session.Basic
import LoginVault.Session.Cache
import LoginVault.Session.Run
import LoginVault.Session.Task
import LoginVault.Session.View
import LoginVault.Table
import LoginVault.Terminal.Basic
import LoginVault.Terminal.Run
import LoginVault.Terminal.Screen
import LoginVault.Text.Blank
import LoginVault.Text.CaseFold
import LoginVault.Text.Digits
import LoginVault.Text.Printable
import LoginVault.Text.Quoted
import LoginVault.Text.Utf
