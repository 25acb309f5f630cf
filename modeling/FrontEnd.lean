import FrontEnd.Datum
import FrontEnd.Text.Lines
import FrontEnd.Text.Utf8
import FrontEnd.Token
import FrontEnd.Unicode.CaseFold
import FrontEnd.Unicode.DecimalDigit
import FrontEnd.Scanner
import FrontEnd.Diagnostic
import FrontEnd.Listing
import FrontEnd.Tree
import FrontEnd.Tree.Equality
import FrontEnd.Tree.Outline
import FrontEnd.Assembly
import FrontEnd.FileSystem
import FrontEnd.Version
import FrontEnd.Toml.Document
import FrontEnd.Command
import FrontEnd.Main
import FrontEnd.Proofs.PlainText
import FrontEnd.Proofs.Span
import FrontEnd.Proofs.Utf8
import FrontEnd.Proofs.LineEnds
import FrontEnd.Proofs.Drivers
import FrontEnd.Proofs.Layout
import FrontEnd.Proofs.Locality
import FrontEnd.Proofs.Diagnostics
import FrontEnd.Proofs.Labels
import FrontEnd.Proofs.NormalForm
import FrontEnd.Proofs.Readability
import FrontEnd.Proofs.Dump
import FrontEnd.Proofs.Watched
import FrontEnd.Proofs.Location
import FrontEnd.Proofs.Misuse
import FrontEnd.Proofs.FileSystem
import FrontEnd.Proofs.Outcome
import FrontEnd.Proofs.QuotedText
import FrontEnd.Proofs.Listing
import FrontEnd.Proofs.Schedule
import FrontEnd.Proofs.Building
import FrontEnd.Proofs.CaseFold
import FrontEnd.Proofs.Lookup
import FrontEnd.Proofs.Sharing
import FrontEnd.Proofs.Drawing
import FrontEnd.Proofs.Caret
import FrontEnd.Proofs.Unread
import FrontEnd.Proofs.Ending
import FrontEnd.Proofs.Respacing
import FrontEnd.Proofs.CommandLine
import FrontEnd.Proofs.Precedence
import FrontEnd.Proofs.ExitCode
import FrontEnd.Proofs.Extension
import FrontEnd.Proofs.WrittenLines
