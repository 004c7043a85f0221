import EmbeddedSql.Text.CodePoint

/-! White space of all scripts, and cutting a text at it. -/
namespace EmbeddedSql.Text

/-- White space beyond ASCII (property `White_Space`). -/
def blankRanges : Ranges := [
  (0x85, 0x85), (0xa0, 0xa0), (0x1680, 0x1680), (0x2000, 0x200a), (0x2028, 0x2029),
  (0x202f, 0x202f), (0x205f, 0x205f), (0x3000, 0x3000)]

def isBlank : Char → Bool :=
  asciiOr (fun c => c = ' ' || (9 ≤ c.toNat && c.toNat ≤ 13)) blankRanges

def trimStartChars (cs : List Char) : List Char := cs.dropWhile isBlank

def trimEndChars (cs : List Char) : List Char := (cs.reverse.dropWhile isBlank).reverse

def trimChars (cs : List Char) : List Char := trimEndChars (trimStartChars cs)

def trim (s : String) : String := String.ofList (trimChars s.toList)

def isBlankText (s : String) : Bool := s.toList.all isBlank

/-- The characters up to the first white space, leading white space skipped; nothing if the
text is blank. -/
def firstWord? (s : String) : Option String :=
  match trimStartChars s.toList with
  | [] => none
  | cs => some (String.ofList (cs.takeWhile fun c => !isBlank c))

end EmbeddedSql.Text
