import CsvQuery.Text.Keyword
import CsvQuery.Scalar.Classify
import CsvQuery.Comparison
import CsvQuery.Query.Statement
import CsvQuery.Csv.Reader
import CsvQuery.Evaluation
import CsvQuery.Catalog
import CsvQuery.ResultSet.Format
import CsvQuery.Shell.Session
import CsvQuery.CommandLine.Program
import CsvQuery.Main
import CsvQuery.Proofs.Query.TopLevel
import CsvQuery.Proofs.Text.Symbol
import CsvQuery.Proofs.Scalar.Literal
import CsvQuery.Proofs.Query.Filter
import CsvQuery.Proofs.Query.WrittenSelection
import CsvQuery.Proofs.Query.WrittenQuery
import CsvQuery.Proofs.Query.QuotedValue
import CsvQuery.Proofs.Query.NameLetters
import CsvQuery.Proofs.Query.SharedFrom
import CsvQuery.Proofs.Csv.Splitting
import CsvQuery.Proofs.Csv.Utf8
import CsvQuery.Proofs.Csv.WrittenFile
import CsvQuery.Proofs.Csv.RoundTrip
import CsvQuery.Proofs.Evaluation.Filtering
import CsvQuery.Proofs.Comparison.Coherence
import CsvQuery.Proofs.Evaluation.Answer
import CsvQuery.Proofs.Catalog.Storing
import CsvQuery.Proofs.Catalog.History
import CsvQuery.Proofs.Shell.Forgetting
import CsvQuery.Proofs.Query.Terminator
import CsvQuery.Proofs.Query.UnquotedValue
import CsvQuery.Proofs.Query.OperatorMarks
import CsvQuery.Proofs.Query.BehindHead
import CsvQuery.Proofs.Evaluation.IntegerComparison
import CsvQuery.Proofs.Evaluation.OwnText
import CsvQuery.Proofs.Evaluation.Failing
import CsvQuery.Proofs.Evaluation.RowLists
import CsvQuery.Proofs.Query.Acceptance
import CsvQuery.Proofs.Text.LetterCase
import CsvQuery.Proofs.Scalar.LetterCase
import CsvQuery.Proofs.Query.LetterCase
import CsvQuery.Proofs.Csv.Rows
import CsvQuery.Proofs.Evaluation.Counting
import CsvQuery.Proofs.Evaluation.Noninterference
import CsvQuery.Proofs.Table.Forming
import CsvQuery.Proofs.Csv.Outcome
import CsvQuery.Proofs.Csv.Events
import CsvQuery.Proofs.Query.NormalForm
import CsvQuery.Proofs.ResultSet.JsonReader
import CsvQuery.Proofs.CommandLine.Running
import CsvQuery.Proofs.ResultSet.BoxAlignment
import CsvQuery.Proofs.ResultSet.JsonRoundTrip
import CsvQuery.Proofs.CommandLine.OneShot
import CsvQuery.Proofs.Binary64.Decimals
import CsvQuery.Proofs.Binary64.ShortestDigits
import CsvQuery.Proofs.Binary64.PointNumeral
import CsvQuery.Proofs.Scalar.FloatLiteral
import CsvQuery.Proofs.Scalar.Form
