import FieldSearch.Query.Render
import FieldSearch.Proofs.Analysis.Rereading
import FieldSearch.Proofs.Analysis.WordSplitting
import FieldSearch.Proofs.Compilation.FieldCase
import FieldSearch.Proofs.Compilation.Safety
import FieldSearch.Proofs.Compilation.Syntax
import FieldSearch.Proofs.Condition.RoundTrip
import FieldSearch.Proofs.Json.DocumentText
import FieldSearch.Proofs.Schema.Acceptance
import FieldSearch.Proofs.Schema.RoundTrip
import FieldSearch.Proofs.Compilation.PhrasePositions
import FieldSearch.Proofs.Compilation.OtherFields
import FieldSearch.Proofs.Compilation.SingleValue
import FieldSearch.Proofs.Condition.Problems
import FieldSearch.Proofs.Condition.Rewording
import FieldSearch.Proofs.Compilation.ValueCase
import FieldSearch.Proofs.Analysis.Conflation
import FieldSearch.Proofs.Analysis.LetterSplitting
import FieldSearch.Proofs.Compilation.Boost
import FieldSearch.Proofs.Condition.Suggestion
import FieldSearch.Proofs.Compilation.Dispatch
import FieldSearch.Proofs.Query.Document
