import QueryNav.CommandLine
import QueryNav.Json.Reader
import QueryNav.Main
import QueryNav.Proofs.Containment
import QueryNav.Proofs.Lines
import QueryNav.Proofs.Places
import QueryNav.Proofs.Synchronisation
import QueryNav.Proofs.Views
import QueryNav.Server.Wire
import QueryNav.Proofs.Concatenation
import QueryNav.Proofs.Locality
import QueryNav.Proofs.BodyEdits
import QueryNav.Proofs.Isolation
import QueryNav.Proofs.Addresses
import QueryNav.Proofs.Links
import QueryNav.Proofs.Reports
import QueryNav.Proofs.Following
import QueryNav.Proofs.RoundTrip
import QueryNav.Proofs.Questions
import QueryNav.Proofs.SettingsHistory
import QueryNav.Proofs.Ascent
import QueryNav.Proofs.Trimming
import QueryNav.Proofs.Columns
import QueryNav.Proofs.HeaderImports
import QueryNav.Proofs.Splicing
import QueryNav.Proofs.LineEnds
import QueryNav.Proofs.Storage
import QueryNav.Proofs.Commutation
import QueryNav.Proofs.Nearest
import QueryNav.Proofs.Closing
import QueryNav.Proofs.UsableLayout
import QueryNav.Proofs.Fronts
import QueryNav.Proofs.Offers
import QueryNav.Proofs.Walks
import QueryNav.Proofs.ModuleFiles
import QueryNav.Proofs.WorkingFolder
import QueryNav.Proofs.Division
import QueryNav.Proofs.WrittenSettings
import QueryNav.Proofs.JsonGrammar
import QueryNav.Proofs.JsonPrinting
import QueryNav.Proofs.PrintedReports
import QueryNav.Proofs.ByteOffsets
