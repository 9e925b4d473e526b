set_option autoImplicit false

/-!
# Blank characters and trimming

Normative source: SPEC_FULL.md §11.1 (trailing whitespace is removed from a comment's
text) and §4.2 (tags are trimmed).

A character is *blank* when it has the Unicode `White_Space` property: the ASCII
controls tab to carriage return, the space, next line, no-break space, ogham space
mark, the typographic spaces, the line and paragraph separators, narrow no-break
space, medium mathematical space and the ideographic space.  Comment texts, tags
and configuration values are trimmed with this class on both ends.

Core's `Char.isWhitespace` knows only four ASCII characters, so it is not used.
-/

namespace CodeNotes.Text

/-- The Unicode `White_Space` property (25 characters). -/
def isBlank (c : Char) : Bool :=
  let n := c.toNat
  (0x09 ≤ n && n ≤ 0x0D) || n == 0x20 || n == 0x85 || n == 0xA0 || n == 0x1680 ||
  (0x2000 ≤ n && n ≤ 0x200A) || n == 0x2028 || n == 0x2029 || n == 0x202F ||
  n == 0x205F || n == 0x3000

/-- Drops blank characters from the front of a character list. -/
def dropBlank (cs : List Char) : List Char := cs.dropWhile isBlank

/-- Drops blank characters from both ends of a character list. -/
def trimList (cs : List Char) : List Char :=
  (dropBlank (dropBlank cs).reverse).reverse

/-- Drops blank characters from the end of a character list. -/
def trimEndList (cs : List Char) : List Char :=
  (dropBlank cs.reverse).reverse

/-- The text without leading and trailing blank characters. -/
def trim (s : String) : String := String.ofList (trimList s.toList)

/-- The text without trailing blank characters. -/
def trimEnd (s : String) : String := String.ofList (trimEndList s.toList)

/-- The text without leading blank characters. -/
def trimStart (s : String) : String := String.ofList (dropBlank s.toList)

/-- A text is blank when trimming leaves nothing. -/
def isBlankText (s : String) : Bool := s.toList.all isBlank

end CodeNotes.Text
