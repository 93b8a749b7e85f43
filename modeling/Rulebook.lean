import Rulebook.Value.Display
import Rulebook.Json.Reader
import Rulebook.Json.Printer
import Rulebook.Regex.Basic
import Rulebook.Regex.Parser
import Rulebook.Format.Basic
import Rulebook.Rule.Basic
import Rulebook.Rule.Gathering
import Rulebook.Registry.Build
import Rulebook.Registry.Calls
import Rulebook.Report.Check
import Rulebook.Layout.Table
import Rulebook.Report.Text
import Rulebook.Plugin.Collect
import Rulebook.Plugin.Discovery
import Rulebook.Toml.Reader
import Rulebook.Files.Tree
import Rulebook.Settings.Load
import Rulebook.Log.Template
import Rulebook.Log.Router
import Rulebook.Command.Run
import Rulebook.Main
import Rulebook.Proofs.Number.Place
import Rulebook.Proofs.Run
import Rulebook.Proofs.Value.Keyed
import Rulebook.Proofs.Value.Respelling
import Rulebook.Proofs.Value.Equivalence
import Rulebook.Proofs.Value.Reading
import Rulebook.Proofs.Rule.Duplicates
import Rulebook.Proofs.Rule.Spelling
import Rulebook.Proofs.Rule.Making
import Rulebook.Proofs.Rule.Inversion
import Rulebook.Proofs.Rule.Merging
import Rulebook.Proofs.Rule.Repeats
import Rulebook.Proofs.Rule.Reporting
import Rulebook.Proofs.Rule.Divisibility
import Rulebook.Proofs.Rule.Explaining
import Rulebook.Proofs.Registry.Building
import Rulebook.Proofs.Report.Checking
import Rulebook.Proofs.Report.Independence
import Rulebook.Proofs.Value.Json
import Rulebook.Proofs.Rule.Returning
import Rulebook.Proofs.Registry.Stopping
import Rulebook.Proofs.Registry.Extending
import Rulebook.Proofs.Registry.Calls
import Rulebook.Proofs.Plugin.Collecting
import Rulebook.Proofs.Report.Returning
import Rulebook.Proofs.Report.Explaining
import Rulebook.Proofs.Rule.Nesting
import Rulebook.Proofs.Rule.Gathering
import Rulebook.Proofs.Rule.Duality
import Rulebook.Proofs.Registry.Accounting
import Rulebook.Proofs.Report.Accounting
import Rulebook.Plugin.Calls
import Rulebook.Proofs.Report.Strictness
import Rulebook.Proofs.Plugin.Walking
import Rulebook.Proofs.Plugin.Registering
import Rulebook.Proofs.Plugin.Discovering
import Rulebook.Proofs.Settings.Layering
import Rulebook.Proofs.Settings.Reading
import Rulebook.Proofs.Text.Case
import Rulebook.Proofs.Settings.Variables
import Rulebook.Proofs.Settings.Environment
import Rulebook.Proofs.Settings.Precedence
import Rulebook.Proofs.Settings.Reporting
import Rulebook.Proofs.Command.Switches
import Rulebook.Proofs.Command.Output
import Rulebook.Proofs.Report.Writing
import Rulebook.Proofs.Command.Ending
import Rulebook.Proofs.Report.Documents
import Rulebook.Proofs.Log.Routing
import Rulebook.Proofs.Report.Neutrality
import Rulebook.Proofs.Plugin.Contention
import Rulebook.Proofs.Value.Tabulated
import Rulebook.Proofs.Demand.Reading
import Rulebook.Proofs.Demand.Judging
import Rulebook.Proofs.Demand.Wording
import Rulebook.Proofs.Plugin.Loading
import Rulebook.Proofs.Number.Order
import Rulebook.Proofs.Rule.Verdict
import Rulebook.Proofs.Value.Coercion
import Rulebook.Proofs.Rule.Bounds
import Rulebook.Proofs.Report.Limits
import Rulebook.Proofs.Number.Numeral
import Rulebook.Proofs.Rule.Numerals
import Rulebook.Proofs.Value.Answering
import Rulebook.Proofs.Regex.Ends
import Rulebook.Proofs.Regex.Language
import Rulebook.Proofs.Format.Hosts
import Rulebook.Proofs.Format.Numerals
import Rulebook.Proofs.Format.Dates
import Rulebook.Proofs.Format.Mail
import Rulebook.Proofs.Registry.Degrading
import Rulebook.Proofs.Regex.Longer
import Rulebook.Proofs.Regex.Nested
import Rulebook.Proofs.Regex.Leading
import Rulebook.Proofs.Regex.Anchored
import Rulebook.Proofs.Rule.Whole
import Rulebook.Proofs.Value.Definite
import Rulebook.Proofs.Rule.Listed
import Rulebook.Proofs.Rule.Kinds
import Rulebook.Proofs.Registry.Finding
import Rulebook.Proofs.Rule.Unions
import Rulebook.Proofs.Files.Places
import Rulebook.Proofs.Settings.Nearest
import Rulebook.Proofs.Rule.Uniformity
