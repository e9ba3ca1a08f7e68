import Firewall.Address.Basic
import Firewall.Address.Parser
import Firewall.Address.Printer
import Firewall.Build.Batch
import Firewall.Build.Combination
import Firewall.Build.Error
import Firewall.Build.Factory
import Firewall.Build.History
import Firewall.Clock
import Firewall.CommandLine.Options
import Firewall.CommandLine.Run
import Firewall.Compile
import Firewall.Distinct
import Firewall.Event
import Firewall.Expansion.Document
import Firewall.Expansion.Product
import Firewall.Family
import Firewall.Files.Path
import Firewall.Files.Tree
import Firewall.Intent.Basic
import Firewall.Intent.Reader
import Firewall.Json.Fault
import Firewall.Json.Literal
import Firewall.Json.Reader
import Firewall.Main
import Firewall.Netfilter.Line
import Firewall.Netfilter.Ruleset
import Firewall.Number.Binary64
import Firewall.Number.Integer
import Firewall.Number.Shortest
import Firewall.Number.Tolerant
import Firewall.Policy.Basic
import Firewall.Policy.File
import Firewall.Port
import Firewall.Program
import Firewall.Report
import Firewall.Resolver
import Firewall.Rule.Basic
import Firewall.Rule.Reader
import Firewall.Schema.Checked
import Firewall.Schema.Field
import Firewall.Schema.Issue
import Firewall.Services
import Firewall.Session
import Firewall.Table
import Firewall.Text.Blank
import Firewall.Text.CodePoint
import Firewall.Text.Digit
import Firewall.Text.Line
import Firewall.Text.Printable
import Firewall.Text.Quoted
import Firewall.Text.Utf8
import Firewall.Value
import Firewall.Proofs.Address.Groups
import Firewall.Proofs.Address.Rendering
import Firewall.Proofs.Address.RoundTrip
import Firewall.Proofs.Address.Trimming
import Firewall.Proofs.Address.Zones
import Firewall.Proofs.Build.Accounting
import Firewall.Proofs.Build.Additivity
import Firewall.Proofs.Build.Carrying
import Firewall.Proofs.Build.Lookups
import Firewall.Proofs.Build.Nesting
import Firewall.Proofs.Build.Outcome
import Firewall.Proofs.Build.References
import Firewall.Proofs.Build.Restriction
import Firewall.Proofs.CommandLine.Delivery
import Firewall.Proofs.CommandLine.Destinations
import Firewall.Proofs.CommandLine.Loading
import Firewall.Proofs.CommandLine.Writing
import Firewall.Proofs.Compile.Ending
import Firewall.Proofs.Compile.Isolation
import Firewall.Proofs.Compile.Repetition
import Firewall.Proofs.Compile.Separation
import Firewall.Proofs.Expansion.Choices
import Firewall.Proofs.Expansion.Memory
import Firewall.Proofs.Expansion.Sharing
import Firewall.Proofs.Family
import Firewall.Proofs.Files.Growth
import Firewall.Proofs.Grouping
import Firewall.Proofs.Intent.Arrangement
import Firewall.Proofs.Netfilter.Compatibility
import Firewall.Proofs.Netfilter.Content
import Firewall.Proofs.Netfilter.LineBreaks
import Firewall.Proofs.Netfilter.LineReader
import Firewall.Proofs.Netfilter.LineRoundTrip
import Firewall.Proofs.Netfilter.Placement
import Firewall.Proofs.Netfilter.Words
import Firewall.Proofs.Number.Digits
import Firewall.Proofs.Number.Grammar
import Firewall.Proofs.Number.Literal
import Firewall.Proofs.Number.Tolerant
import Firewall.Proofs.Policy.Files
import Firewall.Proofs.Policy.Names
import Firewall.Proofs.Policy.Resolution
import Firewall.Proofs.Port
import Firewall.Proofs.Report
import Firewall.Proofs.Resolver.Answers
import Firewall.Proofs.Resolver.Queries
import Firewall.Proofs.Rule.Agreement
import Firewall.Proofs.Rule.Parts
import Firewall.Proofs.Rule.Ranges
import Firewall.Proofs.Schema.Issues
import Firewall.Proofs.Services
import Firewall.Proofs.Session.Deeds
import Firewall.Proofs.Session.Scopes
import Firewall.Proofs.Table
import Firewall.Proofs.Text.Cutting
import Firewall.Proofs.Text.Utf8
import Firewall.Proofs.Text.Words
