import CodeNotes.Comment.TagSet
set_option autoImplicit false

/-!
# Comments of Python source

Normative source: SPEC_FULL.md §4.2 (token-based extraction and its merge rule) and
§11.1, where `py` is token-based through the tree-sitter Python grammar and a comment's
text is its token without the `#` and the blanks around it.

Scope disclosure: `commentTokens` below is a hand-written stand-in for the tree-sitter
Python grammar, which the spec names but does not state.  It follows that grammar's
error-tolerant reading as far as comment tokens go, and no theorem of this library is
stated about it: the statements are about what the spec does state, the merge of the
tokens into comments (`mergeComments`), for every list of tokens.

Python comments are found by reading the source the way an error-tolerant incremental
parser reads it, so that a `#` inside a string literal is no comment, while the damage
done by a malformed literal stays local.  The reader has two modes.

* In *code* it skips blanks, takes `#` to the end of the line as a comment, tracks
  brackets and indentation, and opens a string literal at a quote, after an optional
  prefix of the letters `r`, `b`, `u` and `f`.
* In *text* it reads the literal's content piece by piece.  A one-line literal may not
  run into a line break once it has content; a triple-quoted one may.  When a piece
  cannot be read, the reader tries what is allowed between two pieces: blanks, then a
  comment or an escape.  Anything else abandons the literal, and its content is read
  again as code.  At the end of the text, the content of an unfinished literal is
  swallowed when an indented block is still open.

The comment tokens then pass `mergeComments`: a token whose line follows the first line
of the comment before it, and which alone would be a `NOTE`, is appended to that
comment.  Its main statement is stated and proved where the merge is used.
-/

namespace CodeNotes.Extract.Python

open CodeNotes

/-- How a string literal opened: its quote, whether tripled, and its prefix letters. -/
structure Quote where
  mark : Char
  triple : Bool
  raw : Bool
  bytes : Bool
  format : Bool
  deriving Repr, Inhabited

/-- One open indentation level: its width, and whether a block header opened it. -/
structure Level where
  width : Nat
  block : Bool
  deriving Repr

/-- An open replacement field of a formatted literal: the literal to return to and the
bracket depth at which the field's closing brace stands. -/
structure Field where
  quote : Quote
  depth : Nat
  deriving Repr

/-- What the reader is reading. -/
inductive Mode where
  | code
  | text (q : Quote)
  deriving Repr

/-- The state of the reader between two tokens. -/
structure Reader where
  rest : List Char
  /-- 0-based line of the head of `rest`. -/
  row : Nat
  mode : Mode
  /-- Open brackets. -/
  depth : Nat
  /-- Open indentation levels, innermost first. -/
  levels : List Level
  /-- No token yet on this logical line. -/
  atLineStart : Bool
  /-- Width of the leading blanks of the current line. -/
  indent : Nat
  /-- Still inside the leading blanks of the current line. -/
  inIndent : Bool
  /-- The last token was a colon. -/
  opensBlock : Bool
  /-- The last token could not be read as code. -/
  broken : Bool
  /-- Open replacement fields, innermost first. -/
  fields : List Field
  /-- Comment tokens found so far, newest first, with their 0-based line. -/
  found : List (Nat × List Char)
  deriving Repr

/-- Blanks that separate tokens: Unicode white space and three invisible marks. -/
def isGap (c : Char) : Bool :=
  Text.isBlank c || c.toNat == 0xFEFF || c.toNat == 0x2060 || c.toNat == 0x200B

/-- Characters that open a string literal. -/
def isQuoteMark (c : Char) : Bool := c == '\'' || c == '"' || c.toNat == 0x60

/-- Letters that may prefix a string literal. -/
def isPrefixLetter (c : Char) : Bool :=
  c == 'r' || c == 'R' || c == 'b' || c == 'B' || c == 'u' || c == 'U' || c == 'f' || c == 'F'

/-- Characters outside ASCII that cannot be part of a name: symbols, pictographs,
private use and variation selectors. -/
def isSymbolic (n : Nat) : Bool :=
  (0x2000 ≤ n && n ≤ 0x2BFF) || (0x3000 ≤ n && n ≤ 0x303F) || (0xE000 ≤ n && n ≤ 0xF8FF) ||
  (0xFE00 ≤ n && n ≤ 0xFE0F) || (0x1F000 ≤ n && n ≤ 0x1FAFF) ||
  n == 0xA7 || n == 0xA9 || n == 0xAB || n == 0xAC || n == 0xAE || n == 0xB0 || n == 0xB1 ||
  n == 0xB6 || n == 0xBB || n == 0xBF || n == 0xD7 || n == 0xF7

/-- Characters that can continue a name or a number. -/
def isNameChar (c : Char) : Bool :=
  c.isAlphanum || c == '_' || (c.toNat ≥ 0x80 && !isGap c && !isSymbolic c.toNat)

/-- ASCII punctuation that forms operators and delimiters. -/
def isOperatorChar (c : Char) : Bool :=
  "+-*/%@&|^~<>=!.,;:".toList.contains c

/-- Whether the characters are hexadecimal digits. -/
def allHex (cs : List Char) : Bool :=
  cs.all fun c => c.isDigit || ('a' ≤ c && c ≤ 'f') || ('A' ≤ c && c ≤ 'F')

/-- The length of the escape sequence after a backslash: the backslash alone when no
escape follows. -/
def escapeLen : List Char → Nat
  | 'u' :: r => if (r.take 4).length == 4 && allHex (r.take 4) then 6 else 1
  | 'U' :: r => if (r.take 8).length == 8 && allHex (r.take 8) then 10 else 1
  | 'x' :: r => if (r.take 2).length == 2 && allHex (r.take 2) then 4 else 1
  | '\r' :: '\n' :: _ => 3
  | 'N' :: c :: r =>
    if c.toNat == 0x7B then
      let name := r.takeWhile (fun d => d.toNat != 0x7D)
      if name ≠ [] && name.length < r.length then name.length + 4 else 1
    else 1
  | c :: r =>
    if c.isDigit then 2 + ((r.take 2).takeWhile Char.isDigit).length
    else if "\n'\"abfrntv\\".toList.contains c then 2 else 1
  | [] => 1

/-- How many characters after a backslash a raw literal passes over: an escaped quote
or backslash, then a line break. -/
def rawSkip (mark : Char) (r : List Char) : Nat :=
  let k := match r with
    | d :: _ => if d == mark || d == '\\' then 1 else 0
    | [] => 0
  match r.drop k with
  | '\r' :: '\n' :: _ => k + 2
  | '\r' :: _ => k + 1
  | '\n' :: _ => k + 1
  | _ => k

/-- The outcome of reading one piece of a literal's content. -/
inductive Piece where
  /-- Content of this many characters; the literal goes on. -/
  | content (n : Nat)
  /-- The closing quote or quotes, of this many characters. -/
  | close (n : Nat)
  /-- No piece can be read here. -/
  | stuck
  /-- The content runs to the end of the text after this many characters. -/
  | atEnd (n : Nat)
  deriving Repr

/-- Reads one piece of content of the literal `q`; `n` characters are read already,
and `some` of them count as content when `seen`. -/
def piece (q : Quote) : List Char → Nat → Bool → Piece
  | [], n, _ => .atEnd n
  | c :: r, n, seen =>
    if q.format && (c.toNat == 0x7B || c.toNat == 0x7D) then
      if seen then .content n
      else
        match r with
        | d :: _ => if d == c then .content 2 else .stuck
        | [] => .stuck
    else if c == '\\' then
      if q.raw then
        let k := rawSkip q.mark r
        piece q (r.drop k) (n + 1 + k) seen
      else if q.bytes then
        match r with
        | d :: r' =>
          if d == 'N' || d == 'u' || d == 'U' then
            match r' with
            | _ :: r'' => piece q r'' (n + 3) true
            | [] => piece q [] (n + 2) true
          else if seen then .content n else .stuck
        | [] => if seen then .content n else .stuck
      else if seen then .content n else .stuck
    else if c == q.mark then
      if q.triple then
        match r with
        | d :: e :: _ =>
          if d == q.mark && e == q.mark then (if seen then .content n else .close 3)
          else if d == q.mark then .content (n + 2)
          else .content (n + 1)
        | d :: [] => if d == q.mark then .content (n + 2) else .content (n + 1)
        | [] => .content (n + 1)
      else if seen then .content n else .close 1
    else if c == '\n' && seen && !q.triple then .stuck
    else piece q r (n + 1) true
  termination_by cs => cs.length
  decreasing_by all_goals simp_all <;> omega

namespace Reader

/-- The reader at the start of a text. -/
def start (cs : List Char) : Reader :=
  { rest := cs, row := 0, mode := .code, depth := 0, levels := [], atLineStart := true,
    indent := 0, inIndent := true, opensBlock := false, broken := false, fields := [],
    found := [] }

/-- Moves past `n` characters, counting the line breaks among them. -/
def advance (r : Reader) (n : Nat) : Reader :=
  { r with rest := r.rest.drop n, row := r.row + ((r.rest.take n).filter (· == '\n')).length }

/-- The width of the innermost open indentation level. -/
def currentWidth (r : Reader) : Nat := (r.levels.head?.map Level.width).getD 0

/-- Opens or closes indentation levels at the first token of a logical line. -/
def beginLine (r : Reader) : Reader :=
  if !r.atLineStart then r
  else
    let levels :=
      if r.indent > r.currentWidth then
        if r.opensBlock || r.broken then ⟨r.indent, r.opensBlock⟩ :: r.levels else r.levels
      else r.levels.dropWhile (fun l => l.width > r.indent)
    { r with levels := levels, atLineStart := false, inIndent := false }

/-- Records a token that reads as code. -/
def token (r : Reader) (colon : Bool) : Reader :=
  { r with opensBlock := colon, broken := false }

/-- Records a token that cannot be read as code. -/
def failure (r : Reader) : Reader :=
  { r with opensBlock := false, broken := true, depth := 0 }

/-- Takes a comment at the head of `rest`, up to the end of the line. -/
def takeComment (r : Reader) : Reader :=
  let text := r.rest.takeWhile (· != '\n')
  { r with rest := r.rest.drop text.length, found := (r.row, text) :: r.found }

/-- Opens a string literal whose prefix has `k` letters. -/
def openQuote (r : Reader) (k : Nat) : Reader :=
  let pre := r.rest.take k
  let after := r.rest.drop k
  match after with
  | m :: m2 :: m3 :: _ =>
    let triple := m != '`' && m2 == m && m3 == m
    let q : Quote := { mark := m, triple := triple,
                       raw := pre.any (fun c => c == 'r' || c == 'R'),
                       bytes := pre.any (fun c => c == 'b' || c == 'B'),
                       format := pre.any (fun c => c == 'f' || c == 'F') }
    { (r.advance (k + if triple then 3 else 1)).token false with mode := .text q }
  | m :: _ =>
    let q : Quote := { mark := m, triple := false,
                       raw := pre.any (fun c => c == 'r' || c == 'R'),
                       bytes := pre.any (fun c => c == 'b' || c == 'B'),
                       format := pre.any (fun c => c == 'f' || c == 'F') }
    { (r.advance (k + 1)).token false with mode := .text q }
  | [] => r.advance k

/-- Reads one token, or one run of blanks, in code. -/
def stepCode (r : Reader) : Reader :=
  match r.rest with
  | [] => r
  | c :: rest =>
    if c == '\n' then
      let r := r.advance 1
      if r.depth == 0 || r.broken then
        { r with atLineStart := true, indent := 0, inIndent := true }
      else { r with indent := 0, inIndent := true }
    else if c == ' ' || c == '\t' || c == '\x0c' || c == '\r' then
      let w := if c == ' ' then r.indent + 1 else if c == '\t' then r.indent + 8 else 0
      { r.advance 1 with indent := if r.inIndent then w else r.indent }
    else if isGap c then { r.advance 1 with inIndent := false }
    else if c == '#' then r.takeComment
    else if c == '\\' then
      match rest with
      | '\n' :: _ => r.advance 2
      | '\r' :: '\n' :: _ => r.advance 3
      | _ => (r.beginLine.advance 1).failure
    else
      let r := r.beginLine
      if isQuoteMark c then r.openQuote 0
      else if isNameChar c then
        let name := r.rest.takeWhile isNameChar
        match r.rest.drop name.length with
        | d :: _ =>
          if isQuoteMark d && name.all isPrefixLetter then r.openQuote name.length
          else (r.advance name.length).token false
        | [] => (r.advance name.length).token false
      else if c == '(' || c == '[' || c.toNat == 0x7B then
        { (r.advance 1).token false with depth := r.depth + 1 }
      else if c == ')' || c == ']' || c.toNat == 0x7D then
        match r.fields with
        | fld :: more =>
          if c.toNat == 0x7D && r.depth == fld.depth then
            { (r.advance 1).token false with mode := .text fld.quote, fields := more }
          else if r.depth > 0 then { (r.advance 1).token false with depth := r.depth - 1 }
          else (r.advance 1).failure
        | [] =>
          if r.depth > 0 then { (r.advance 1).token false with depth := r.depth - 1 }
          else (r.advance 1).failure
      else if c == ':' then
        match r.fields with
        | fld :: _ =>
          if r.depth == fld.depth then
            -- a format specification runs to the closing brace
            let spec := rest.takeWhile (fun d => d.toNat != 0x7B && d.toNat != 0x7D && d != '\n')
            (r.advance (1 + spec.length)).token false
          else (r.advance 1).token true
        | [] => (r.advance 1).token true
      else if isOperatorChar c then (r.advance 1).token false
      else (r.advance 1).failure

/-- What may stand between two pieces of a literal: blanks, then a comment, an escape
or a replacement field.  Anything else abandons the literal. -/
def stepBetween (r : Reader) (q : Quote) : Reader :=
  let gap := r.rest.takeWhile isGap
  let r' := r.advance gap.length
  match r'.rest with
  | [] => r'
  | c :: more =>
    if c == '#' then r'.takeComment
    else if c == '\\' then r'.advance (escapeLen more)
    else if c.toNat == 0x7B then
      { r'.advance 1 with mode := .code, fields := ⟨q, r.depth⟩ :: r.fields }
    else { r with mode := .code }.failure

/-- Reads one piece of a literal's content. -/
def stepText (r : Reader) (q : Quote) : Reader :=
  match piece q r.rest 0 false with
  | .content n => if n == 0 then r.stepBetween q else r.advance n
  | .close n => { (r.advance n).token false with mode := .code }
  | .stuck => r.stepBetween q
  | .atEnd _ =>
    if !r.levels.isEmpty && !q.format then { r with rest := [] } else r.stepBetween q

/-- One step of the reader. -/
def step (r : Reader) : Reader :=
  match r.mode with
  | .code => r.stepCode
  | .text q => r.stepText q

/-- Runs the reader for at most `fuel` steps or until the text is read. -/
def run : Nat → Reader → Reader
  | 0, r => r
  | fuel + 1, r => if r.rest.isEmpty then r else run fuel r.step

end Reader

/-- The comment tokens of a Python source, in order, each with its 1-based line and
its text with the `#` still in front.  Every step reads a character or leaves a
literal, and no literal is left twice without reading, so three steps per character
suffice. -/
def commentTokens (content : String) : List (Nat × String) :=
  let cs := content.toList
  ((Reader.run (3 * cs.length + 3) (Reader.start cs)).found.reverse).map
    fun (row, text) => (row + 1, String.ofList text)

/-- The text of a comment token: one `#` removed, then trimmed. -/
def tokenText (raw : String) : String :=
  match raw.toList with
  | '#' :: rest => Text.trim (String.ofList rest)
  | cs => Text.trim (String.ofList cs)

/-- Appends the token `(line, text)` to the comments built so far (newest first): it
joins the newest comment when its line follows that comment's first line and it would
alone be a `NOTE`; otherwise it starts a comment of its own. -/
def mergeStep (tags : TagSet) (filepath : String) (acc : List Comment)
    (tok : Nat × String) : List Comment :=
  let kind := tags.classify tok.2
  match acc with
  | prev :: older =>
    if tok.1 == prev.line + 1 && kind == .note then
      { prev with text := prev.text ++ "\n" ++ tok.2, multiline := true } :: older
    else ⟨filepath, tok.2, tok.1, kind, false⟩ :: prev :: older
  | [] => [⟨filepath, tok.2, tok.1, kind, false⟩]

/-- Merges comment tokens into comments, in source order. -/
def mergeComments (tags : TagSet) (filepath : String) (toks : List (Nat × String)) :
    List Comment :=
  (toks.foldl (mergeStep tags filepath) []).reverse

/-- The comments of a Python source, in source order. -/
def extract (filepath content : String) (tags : TagSet) : List Comment :=
  if content.isEmpty then []
  else mergeComments tags filepath ((commentTokens content).map fun (l, t) => (l, tokenText t))

end CodeNotes.Extract.Python
