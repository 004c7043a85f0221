import EmbeddedSql.Recipe.ChangeFunctionName
import EmbeddedSql.Recipe.FindFunction
import EmbeddedSql.Recipe.FindSql
import EmbeddedSql.Recipe.FormatSql
import EmbeddedSql.Proofs.Call.Acceptance
import EmbeddedSql.Proofs.Call.Matching
import EmbeddedSql.Proofs.Call.RoundTrip
import EmbeddedSql.Proofs.Call.Spelling
import EmbeddedSql.Proofs.Format.Keeping
import EmbeddedSql.Proofs.Format.Settling
import EmbeddedSql.Proofs.Gate
import EmbeddedSql.Proofs.Literal
import EmbeddedSql.Proofs.Recipe.Bookkeeping
import EmbeddedSql.Proofs.Recipe.ChangeFunctionName
import EmbeddedSql.Proofs.Recipe.FirstStatement
import EmbeddedSql.Proofs.Recipe.FormatSql
import EmbeddedSql.Proofs.TextBlock.Delimiter
import EmbeddedSql.Proofs.TextBlock.Embedding
import EmbeddedSql.Proofs.TextBlock.Framing
import EmbeddedSql.Proofs.Usage.Coverage
import EmbeddedSql.Proofs.Usage.Writes
import EmbeddedSql.Proofs.Text.Position
import EmbeddedSql.Proofs.TextBlock.Rewriting
import EmbeddedSql.Proofs.Call.Agreement
import EmbeddedSql.Proofs.Usage.Attribution
import EmbeddedSql.Proofs.Usage.Deletion
import EmbeddedSql.Proofs.Usage.Star
import EmbeddedSql.Proofs.Validity
import EmbeddedSql.Proofs.Revision.SameText
import EmbeddedSql.Proofs.Call.Report
import EmbeddedSql.Proofs.Format.Comment
