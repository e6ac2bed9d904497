import Initialism.Enumeration
import Initialism.Letters
import Initialism.Text.Case
import Initialism.Text.Blank
import Initialism.Text.Quoted
import Initialism.Pattern.Token
import Initialism.Pattern.Cursor
import Initialism.Pattern.Fault
import Initialism.Pattern.Parse
import Initialism.Match.Basic
import Initialism.Match.Search
import Initialism.Event
import Initialism.Run
import Initialism.Spelling
import Initialism.Folder
import Initialism.WordList
import Initialism.Text.Json
import Initialism.Settings.Number
import Initialism.Settings.Value
import Initialism.Settings.Key
import Initialism.Toml.Quoted
import Initialism.Toml.Moment
import Initialism.Toml.Number
import Initialism.Toml.Tree
import Initialism.Toml.Document
import Initialism.Text.Utf8
import Initialism.Settings.Basic
import Initialism.CommandLine.Request
import Initialism.CommandLine.Help
import Initialism.CommandLine.Session
import Initialism.Main
import Initialism.Proofs.Match.Take
import Initialism.Proofs.Match.Views
import Initialism.Proofs.Match.Spells
import Initialism.Proofs.Match.Lengths
import Initialism.Proofs.Run.Eager
import Initialism.Proofs.Pattern.OnePass
import Initialism.Proofs.Pattern.Offence
import Initialism.Proofs.Pattern.Symbols
import Initialism.Proofs.Pattern.Grammar
import Initialism.Proofs.Pattern.RoundTrip
import Initialism.Proofs.Match.Consumed
import Initialism.Proofs.Match.Initials
import Initialism.Proofs.Run.Words
import Initialism.Proofs.Run.Least
import Initialism.Proofs.Match.Recased
import Initialism.Proofs.Run.Repeats
import Initialism.Proofs.Match.Paths
import Initialism.Proofs.Pattern.Cover
import Initialism.Proofs.Pattern.Lookahead
import Initialism.Proofs.Pattern.Layout
import Initialism.Proofs.Pattern.Columns
import Initialism.Proofs.Run.Names
import Initialism.Proofs.CommandLine.Output
import Initialism.Proofs.Match.Congruence
import Initialism.Proofs.Match.Frame
import Initialism.Proofs.Match.Relaxed
import Initialism.Proofs.Match.Reordered
import Initialism.Proofs.Match.Distinct
import Initialism.Proofs.Match.Arrangements
import Initialism.Proofs.Match.Dissolved
import Initialism.Proofs.Match.Attained
import Initialism.Proofs.Run.Reports
import Initialism.Proofs.Spelling.Turns
import Initialism.Proofs.Spelling.Product
import Initialism.Proofs.Spelling.Units
import Initialism.Proofs.Match.Spliced
import Initialism.Proofs.Pattern.Adjacent
import Initialism.Proofs.CommandLine.Constraints
import Initialism.Proofs.WordList.Lines
import Initialism.Proofs.WordList.Polls
import Initialism.Proofs.Settings.Layers
import Initialism.Proofs.Settings.Precedence
import Initialism.Proofs.CommandLine.Overrides
