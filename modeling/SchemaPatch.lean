import SchemaPatch.Command.Session
import SchemaPatch.Main
import SchemaPatch.Proofs.Grammar.Nesting
import SchemaPatch.Proofs.Grammar.Sound
import SchemaPatch.Proofs.Grammar.SoundExpression
import SchemaPatch.Proofs.Grammar.SoundStatement
import SchemaPatch.Proofs.Document.Portions
import SchemaPatch.Proofs.Document.Reader
import SchemaPatch.Proofs.Document.Truncation
import SchemaPatch.Proofs.Catalog.Coherent
import SchemaPatch.Proofs.Patch.Leads
import SchemaPatch.Proofs.Patch.Effect
import SchemaPatch.Proofs.Patch.Convergence
import SchemaPatch.Proofs.Token.Gap
import SchemaPatch.Proofs.Token.Lexing
import SchemaPatch.Proofs.Token.Front
import SchemaPatch.Proofs.Token.Literal
import SchemaPatch.Proofs.Sql.Symbols
import SchemaPatch.Proofs.Sql.Lexing
import SchemaPatch.Proofs.Sql.LexingStatement
import SchemaPatch.Proofs.Grammar.Reads
import SchemaPatch.Proofs.Grammar.ReadsExpression
import SchemaPatch.Proofs.Grammar.ReadsCreate
import SchemaPatch.Proofs.Grammar.ReadsStatement
import SchemaPatch.Proofs.Grammar.Readings
import SchemaPatch.Proofs.Grammar.ReadsType
import SchemaPatch.Proofs.Grammar.Written
import SchemaPatch.Proofs.Grammar.WrittenActions
import SchemaPatch.Proofs.Grammar.ReadsActions
import SchemaPatch.Proofs.Document.IgnoredActions
import SchemaPatch.Proofs.Sql.Plain
import SchemaPatch.Proofs.Document.RoundTrip
import SchemaPatch.Proofs.Catalog.Legible
import SchemaPatch.Proofs.Patch.Agreement
import SchemaPatch.Proofs.Catalog.Effect
import SchemaPatch.Proofs.Patch.Performs
import SchemaPatch.Proofs.Comparison.ReadBack
import SchemaPatch.Proofs.Comparison.Emptiness
import SchemaPatch.Proofs.Patch.Alterations
import SchemaPatch.Proofs.Token.Restart
import SchemaPatch.Proofs.Patch.Altering
import SchemaPatch.Proofs.Patch.Worded
import SchemaPatch.Proofs.Comparison.Headers
import SchemaPatch.Proofs.Grammar.Uniform
import SchemaPatch.Proofs.Grammar.UniformStatement
import SchemaPatch.Proofs.Document.Alike
import SchemaPatch.Proofs.Document.Concatenation
import SchemaPatch.Proofs.Document.Layout
import SchemaPatch.Proofs.Patch.Defaults
import SchemaPatch.Proofs.Patch.IndexOrder
import SchemaPatch.Proofs.Catalog.Links
import SchemaPatch.Proofs.Patch.Links
import SchemaPatch.Proofs.Comparison.Sequences
import SchemaPatch.Proofs.Catalog.Resolution
import SchemaPatch.Proofs.Catalog.Projection
import SchemaPatch.Proofs.Patch.Locality
import SchemaPatch.Proofs.Catalog.Filed
import SchemaPatch.Proofs.Catalog.Attachments
import SchemaPatch.Proofs.Comparison.CreatedSequences
import SchemaPatch.Proofs.Token.Trivia
import SchemaPatch.Proofs.Token.Unterminated
import SchemaPatch.Proofs.Token.Lossless
import SchemaPatch.Proofs.Token.Lines
import SchemaPatch.Proofs.Document.Located
import SchemaPatch.Proofs.Sql.Unambiguous
import SchemaPatch.Proofs.Catalog.Definitions
import SchemaPatch.Proofs.Comparison.Columns
import SchemaPatch.Proofs.Grammar.Integers
import SchemaPatch.Proofs.Document.Sequences
import SchemaPatch.Proofs.Catalog.Warnings
import SchemaPatch.Proofs.Catalog.Lasting
import SchemaPatch.Proofs.Log.Accounted
import SchemaPatch.Proofs.Token.Calls
import SchemaPatch.Proofs.Token.EndLine
import SchemaPatch.Proofs.Token.Spaced
import SchemaPatch.Proofs.Sql.Tokens
import SchemaPatch.Proofs.Catalog.Names
