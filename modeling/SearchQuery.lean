import SearchQuery.Main
import SearchQuery.Proofs.BuiltinRules
import SearchQuery.Proofs.Footprint
import SearchQuery.Proofs.Derivation
import SearchQuery.Proofs.Lexer
import SearchQuery.Proofs.Parsing
import SearchQuery.Proofs.Descent
import SearchQuery.Proofs.RoundTrip
import SearchQuery.Proofs.Scanning
import SearchQuery.Proofs.Search
import SearchQuery.Proofs.Termination
import SearchQuery.Proofs.Cuts
import SearchQuery.Proofs.Positions
import SearchQuery.Proofs.Tiling
import SearchQuery.Proofs.SyntaxErrors
import SearchQuery.Proofs.Priority
import SearchQuery.Proofs.TreeShape
import SearchQuery.Proofs.Reuse
import SearchQuery.Proofs.Pieces
import SearchQuery.Proofs.FieldRoundTrip
import SearchQuery.Proofs.Registration
import SearchQuery.Proofs.Merging
import SearchQuery.Proofs.TomlStrings
import SearchQuery.Proofs.Snapshot
import SearchQuery.Proofs.SearchEnds
import SearchQuery.Proofs.Continuation
import SearchQuery.Proofs.NormalForm
import SearchQuery.Proofs.PatternText
import SearchQuery.Proofs.BracketText
import SearchQuery.Proofs.PatternMoves
import SearchQuery.Proofs.PatternReading
import SearchQuery.Proofs.TokenRules
import SearchQuery.Proofs.Consumption
import SearchQuery.Proofs.BareText
import SearchQuery.Proofs.GroupNumbers
import SearchQuery.Proofs.BareTokens
import SearchQuery.Proofs.Places
import SearchQuery.Proofs.Discovery
import SearchQuery.Proofs.PrintedConfig
import SearchQuery.Proofs.CleanRuns
import SearchQuery.Proofs.Console
import SearchQuery.Proofs.NeutralStart
import SearchQuery.Proofs.Juxtaposition
import SearchQuery.Proofs.Outlines
import SearchQuery.Proofs.Carets
import SearchQuery.Proofs.Composition
import SearchQuery.Proofs.Ancestry
import SearchQuery.Proofs.FilesFound
import SearchQuery.Proofs.GlobalFile
import SearchQuery.Proofs.CommandFields
import SearchQuery.Proofs.BlankQueries
