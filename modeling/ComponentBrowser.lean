import ComponentBrowser.Json.Reader
import ComponentBrowser.Main
import ComponentBrowser.Proofs.Catalog.Agreement
import ComponentBrowser.Proofs.Catalog.Closing
import ComponentBrowser.Proofs.Catalog.Cutting
import ComponentBrowser.Proofs.Catalog.Literal
import ComponentBrowser.Proofs.Catalog.Sizes
import ComponentBrowser.Proofs.Command.Dependence
import ComponentBrowser.Proofs.Command.Documents
import ComponentBrowser.Proofs.Command.PromptText
import ComponentBrowser.Proofs.CommandLine.Spelling
import ComponentBrowser.Proofs.Pattern.Progress
import ComponentBrowser.Proofs.Run.LogEntries
import ComponentBrowser.Proofs.Run.LogFilter
import ComponentBrowser.Proofs.Run.LogOptions
import ComponentBrowser.Proofs.Run.Streams
import ComponentBrowser.Proofs.Settings.Exchange
import ComponentBrowser.Proofs.Settings.Faults
import ComponentBrowser.Proofs.Settings.Filled
import ComponentBrowser.Proofs.Settings.Headings
import ComponentBrowser.Proofs.Settings.History
import ComponentBrowser.Proofs.Settings.Overriding
import ComponentBrowser.Proofs.Settings.Pinned
import ComponentBrowser.Proofs.Text.Faithful
import ComponentBrowser.Proofs.Yaml.Effort
import ComponentBrowser.Settings.Json
