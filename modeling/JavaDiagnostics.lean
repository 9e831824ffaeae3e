import JavaDiagnostics.Collection.Summary
import JavaDiagnostics.Main
import JavaDiagnostics.Presentation
import JavaDiagnostics.Session
import JavaDiagnostics.Source.Scanner
import JavaDiagnostics.Proofs.Finding.Rendering
import JavaDiagnostics.Proofs.Session.Calls
import JavaDiagnostics.Proofs.Session.Contexts
import JavaDiagnostics.Proofs.Session.Mandatory
import JavaDiagnostics.Proofs.Session.Aborts
import JavaDiagnostics.Proofs.Session.History
import JavaDiagnostics.Proofs.Session.Suppression
import JavaDiagnostics.Proofs.Finding.Arguments
import JavaDiagnostics.Proofs.Text.Blank
import JavaDiagnostics.Proofs.Text.Numeral
import JavaDiagnostics.Proofs.Options.Setting
import JavaDiagnostics.Proofs.Options.Saving
import JavaDiagnostics.Proofs.Session.Saving
import JavaDiagnostics.Proofs.Symbol.Nullness
import JavaDiagnostics.Proofs.Finding.Nullness
import JavaDiagnostics.Proofs.Collection.Limit
import JavaDiagnostics.Proofs.Collection.Units
import JavaDiagnostics.Proofs.Finding.Missing
import JavaDiagnostics.Proofs.Classification
import JavaDiagnostics.Proofs.Collection.Summary
import JavaDiagnostics.Proofs.Session.Summary
import JavaDiagnostics.Proofs.Session.Levels
import JavaDiagnostics.Proofs.Source.Tokens
import JavaDiagnostics.Proofs.Options.Loosening
import JavaDiagnostics.Proofs.Session.Loosening
import JavaDiagnostics.Proofs.Source.Locality
import JavaDiagnostics.Proofs.Source.Blanking
import JavaDiagnostics.Proofs.Json.Members
import JavaDiagnostics.Proofs.Options.Applying
import JavaDiagnostics.Proofs.Options.Order
import JavaDiagnostics.Proofs.Source.Lines
import JavaDiagnostics.Proofs.Source.TypeArguments
import JavaDiagnostics.Proofs.Source.Parentheses
import JavaDiagnostics.Proofs.Options.Reading
import JavaDiagnostics.Proofs.Source.Rows
import JavaDiagnostics.Proofs.Presentation.Quotation
import JavaDiagnostics.Proofs.Symbol.Parts
import JavaDiagnostics.Proofs.Symbol.Spelling
import JavaDiagnostics.Proofs.Symbol.Unambiguous
import JavaDiagnostics.Proofs.Symbol.Apart
import JavaDiagnostics.Proofs.Text.Template
import JavaDiagnostics.Proofs.Collection.Order
import JavaDiagnostics.Proofs.Collection.Ranking
import JavaDiagnostics.Proofs.Symbol.Parsing
import JavaDiagnostics.Proofs.Text.Split
import JavaDiagnostics.Proofs.Catalog
import JavaDiagnostics.Proofs.Symbol.Parameters
import JavaDiagnostics.Proofs.Command
import JavaDiagnostics.Proofs.Options.JavaLevel
import JavaDiagnostics.Proofs.Presentation.Underline
import JavaDiagnostics.Proofs.Source.Span
