import LeasePlan.Text.Quoted
import LeasePlan.Address.Text
import LeasePlan.Document.Literal
import LeasePlan.Document.Json
import LeasePlan.Duration.Iso
import LeasePlan.Duration.Clock
import LeasePlan.Duration.Reader
import LeasePlan.DomainName
import LeasePlan.Fault.Kind
import LeasePlan.NameMap
import LeasePlan.Config.Reader
import LeasePlan.Service
import LeasePlan.Config.Parse
import LeasePlan.Config.Load
import LeasePlan.AddressRange.Document
import LeasePlan.Yaml.Value
import LeasePlan.Console.Emoji
import LeasePlan.Console.Markup
import LeasePlan.Console.Panel
import LeasePlan.Console.Table
import LeasePlan.Report
import LeasePlan.Settings
import LeasePlan.Command.Request
import LeasePlan.Command.Run
import LeasePlan.Main
import LeasePlan.Proofs.Outcome
import LeasePlan.Proofs.DomainGrammar
import LeasePlan.Proofs.SubnetMask
import LeasePlan.Proofs.NameOrder
import LeasePlan.Proofs.RangeMembership
import LeasePlan.Proofs.InterfaceBuild
import LeasePlan.Proofs.InterfaceGeometry
import LeasePlan.Proofs.MaskReading
import LeasePlan.Proofs.Validation
import LeasePlan.Proofs.Assembly
import LeasePlan.Proofs.Acceptance
import LeasePlan.Proofs.ServiceContents
import LeasePlan.Proofs.ServiceSummary
import LeasePlan.Proofs.Agreement
import LeasePlan.Proofs.FirstFailing
import LeasePlan.Proofs.DomainRules
import LeasePlan.Proofs.SettingsChecks
import LeasePlan.Proofs.FirstFault
import LeasePlan.Proofs.Irrelevance
import LeasePlan.Proofs.Reordering
import LeasePlan.Proofs.KeyOrder
import LeasePlan.Proofs.Numerals
import LeasePlan.Proofs.AddressText
import LeasePlan.Proofs.GuardedSteps
import LeasePlan.Proofs.RangeWalk
import LeasePlan.Proofs.RangeExtensionality
import LeasePlan.Proofs.RangeSearch
import LeasePlan.Proofs.FreeAddress
import LeasePlan.Proofs.RangeText
import LeasePlan.Proofs.Rounding
import LeasePlan.Proofs.DurationText
import LeasePlan.Proofs.DurationUnits
import LeasePlan.Proofs.FaultText
import LeasePlan.Proofs.Annotation
import LeasePlan.Proofs.FaultLines
import LeasePlan.Proofs.QuotedNames
import LeasePlan.Proofs.JoinedFaults
import LeasePlan.Proofs.ConfigDump
import LeasePlan.Proofs.RangeConstruction
import LeasePlan.Proofs.RecordIssues
import LeasePlan.Proofs.OverlongDurations
import LeasePlan.Proofs.UnknownKeys
import LeasePlan.Proofs.LoadOutcome
import LeasePlan.Proofs.Utf8Text
import LeasePlan.Proofs.OptionDump
import LeasePlan.Proofs.JsonSyntax
import LeasePlan.Proofs.JsonScalars
import LeasePlan.Proofs.JsonReading
import LeasePlan.Proofs.PortableJson
import LeasePlan.Proofs.FlowScalars
import LeasePlan.Proofs.FlowSteps
import LeasePlan.Proofs.FlowTokens
import LeasePlan.Proofs.FlowNodes
import LeasePlan.Proofs.PlainNumbers
import LeasePlan.Proofs.FlowValues
import LeasePlan.Proofs.JsonFiles
import LeasePlan.Proofs.EmojiText
import LeasePlan.Proofs.GroupEmoji
import LeasePlan.Proofs.MarkupText
import LeasePlan.Proofs.LineFitting
import LeasePlan.Proofs.PrintedText
import LeasePlan.Proofs.ShownAddress
import LeasePlan.Proofs.RangeReport
import LeasePlan.Proofs.TableRows
import LeasePlan.Proofs.CellTexts
import LeasePlan.Proofs.CheckReport
