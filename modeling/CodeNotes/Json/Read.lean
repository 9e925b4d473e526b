import CodeNotes.Json.Error
set_option autoImplicit false

/-!
# Reading JSON text, token by token

Normative source: SPEC_FULL.md §10.3 (the configuration is read from JSON).

A `Cursor` is the unread rest of a text and the place where it starts.  A `Reader`
moves it forward or stops with a `ReadError`.  The readers here take one token or one
whole value of any shape; record readers (such as the configuration's) are built on
them and decide what a value must be.

Places follow one rule.  An error about what was just read stands at the cursor.  An
error about the character ahead stands one byte further, which is the next line's
start when that character is a line break.

Loops take a `fuel` argument.  Every round of a loop reads at least one character, so
the length of the text plus one always suffices; the readers that start a loop pass
exactly that.
-/

namespace CodeNotes.Json

/-- The unread rest of a text and its place. -/
structure Cursor where
  rest : List Char
  line : Nat
  col : Nat
  deriving Repr, Inhabited

/-- A cursor at the start of a text. -/
def Cursor.start (s : String) : Cursor := ⟨s.toList, 1, 0⟩

/-- The place of the cursor. -/
def Cursor.here (c : Cursor) : Place := ⟨c.line, c.col⟩

/-- The place one byte ahead: past the next character's first byte. -/
def Cursor.ahead (c : Cursor) : Place :=
  match c.rest with
  | '\n' :: _ => ⟨c.line + 1, 0⟩
  | _ :: _ => ⟨c.line, c.col + 1⟩
  | [] => c.here

/-- The cursor past the next character. -/
def Cursor.bump (c : Cursor) : Cursor :=
  match c.rest with
  | [] => c
  | ch :: rest => if ch = '\n' then ⟨rest, c.line + 1, 0⟩ else ⟨rest, c.line, c.col + ch.utf8Size⟩

/-- The cursor past `n` bytes; a character cut in two counts only its bytes passed. -/
def Cursor.bumpBytes (n : Nat) (c : Cursor) : Cursor :=
  go n c.rest c.line c.col
where
  /-- Passes `n` bytes of `cs`, which starts at the given place. -/
  go : Nat → List Char → Nat → Nat → Cursor
    | 0, cs, line, col => ⟨cs, line, col⟩
    | _, [], line, col => ⟨[], line, col⟩
    | n + 1, ch :: rest, line, col =>
      if ch = '\n' then go n rest (line + 1) 0
      else if ch.utf8Size ≤ n + 1 then go (n + 1 - ch.utf8Size) rest line (col + ch.utf8Size)
      else ⟨rest, line, col + n + 1⟩

/-- JSON's four blank characters. -/
def isJsonBlank (ch : Char) : Bool := ch = ' ' || ch = '\n' || ch = '\t' || ch = '\r'

/-- The cursor past any blank characters. -/
def Cursor.skipBlank (c : Cursor) : Cursor :=
  go c.rest c.line c.col
where
  /-- Skips blanks of `cs`, which starts at the given place. -/
  go : List Char → Nat → Nat → Cursor
    | [], line, col => ⟨[], line, col⟩
    | ch :: rest, line, col =>
      if ch = '\n' then go rest (line + 1) 0
      else if isJsonBlank ch then go rest line (col + 1)
      else ⟨ch :: rest, line, col⟩

/-- A step of reading. -/
abbrev Reader := StateT Cursor (Except ReadError)

/-- The next character, unread. -/
def peek : Reader (Option Char) := do return (← get).rest.head?

/-- Reads one character. -/
def eat : Reader Unit := modify Cursor.bump

/-- Skips blanks and shows the next character. -/
def blankThenPeek : Reader (Option Char) := do
  modify Cursor.skipBlank
  peek

/-- Stops with a problem about what was just read. -/
def failHere {α : Type} (p : Problem) : Reader α := do
  throw ⟨p, (← get).here⟩

/-- Stops with a problem about the character ahead. -/
def failAhead {α : Type} (p : Problem) : Reader α := do
  throw ⟨p, (← get).ahead⟩

/-- Reads the rest of a literal word, after its first letter. -/
def ident : List Char → Reader Unit
  | [] => pure ()
  | ch :: rest => do
    match ← peek with
    | none => failHere .eofValue
    | some x =>
      eat
      if x = ch then ident rest else failHere .expectedIdent

/-- The value of a hexadecimal digit. -/
def hexValue (ch : Char) : Option Nat :=
  if '0' ≤ ch ∧ ch ≤ '9' then some (ch.toNat - 48)
  else if 'a' ≤ ch ∧ ch ≤ 'f' then some (ch.toNat - 87)
  else if 'A' ≤ ch ∧ ch ≤ 'F' then some (ch.toNat - 55)
  else none

/-- The number of four hexadecimal digits. -/
def hex4 : List Char → Option Nat
  | [a, b, c, d] => do
    let a ← hexValue a
    let b ← hexValue b
    let c ← hexValue c
    let d ← hexValue d
    pure (((a * 16 + b) * 16 + c) * 16 + d)
  | _ => none

/-- The number of bytes of a character list. -/
def byteCount (cs : List Char) : Nat := cs.foldl (fun n c => n + c.utf8Size) 0

/-- Reads the four bytes of a `\u` escape and their number. -/
def hexEscape : Reader Nat := do
  let c ← get
  if byteCount c.rest < 4 then
    set (c.bumpBytes (byteCount c.rest))
    failHere .eofString
  else
    set (c.bumpBytes 4)
    match hex4 (c.rest.take 4) with
    | some n => pure n
    | none => failHere .invalidEscape

/-- The character of a one-letter escape. -/
def shortEscape (ch : Char) : Option Char :=
  match ch with
  | '"' => some '"'
  | '\\' => some '\\'
  | '/' => some '/'
  | 'b' => some (Char.ofNat 8)
  | 'f' => some (Char.ofNat 12)
  | 'n' => some '\n'
  | 'r' => some '\r'
  | 't' => some '\t'
  | _ => none

/-- Reads the rest of a `\u` escape, pairing surrogates, after the `u`. -/
def unicodeEscape : Reader Char := do
  let n ← hexEscape
  if 0xDC00 ≤ n ∧ n ≤ 0xDFFF then failHere .loneSurrogate
  else if n < 0xD800 ∨ 0xDBFF < n then pure (Char.ofNat n)
  else
    match ← peek with
    | none => failHere .eofString
    | some '\\' =>
      eat
      match ← peek with
      | none => failHere .eofString
      | some 'u' =>
        eat
        let m ← hexEscape
        if 0xDC00 ≤ m ∧ m ≤ 0xDFFF then
          pure (Char.ofNat (((n - 0xD800) * 0x400 + (m - 0xDC00)) + 0x10000))
        else failHere .loneSurrogate
      | some _ => failAhead .unexpectedEndOfHexEscape
    | some _ => failAhead .unexpectedEndOfHexEscape

/-- Reads the escape after a backslash. -/
def escape : Reader Char := do
  match ← peek with
  | none => failHere .eofString
  | some ch =>
    eat
    match shortEscape ch with
    | some x => pure x
    | none => if ch = 'u' then unicodeEscape else failHere .invalidEscape

/-- Reads the rest of a string after its opening quote; `acc` holds what was read,
last first. -/
def stringBody (acc : List Char) : Nat → Reader String
  | 0 => failHere .eofString
  | fuel + 1 => do
    match ← peek with
    | none => failHere .eofString
    | some '"' => eat; pure (String.ofList acc.reverse)
    | some '\\' => eat; let x ← escape; stringBody (x :: acc) fuel
    | some ch =>
      if ch.toNat < 0x20 then failAhead .controlCharacter
      else eat; stringBody (ch :: acc) fuel

/-- Reads a string whose opening quote is next. -/
def string : Reader String := do
  eat
  stringBody [] ((← get).rest.length + 1)

/-- Skips the rest of a string after its opening quote; `\u` escapes are not paired. -/
def skipStringBody : Nat → Reader Unit
  | 0 => failHere .eofString
  | fuel + 1 => do
    match ← peek with
    | none => failHere .eofString
    | some '"' => eat
    | some '\\' =>
      eat
      match ← peek with
      | none => failHere .eofString
      | some ch =>
        eat
        if (shortEscape ch).isSome then skipStringBody fuel
        else if ch = 'u' then do let _ ← hexEscape; skipStringBody fuel
        else failHere .invalidEscape
    | some ch =>
      if ch.toNat < 0x20 then failHere .controlCharacter
      else eat; skipStringBody fuel

/-- A number as JSON text gives it: a natural number below `2 ^ 64`, a negative one
above `-2 ^ 63`, or anything else as a binary64 value. -/
inductive Number where
  | unsigned (n : Nat)
  | signed (n : Int)
  | float (negative : Bool) (x : Binary64.Magnitude)
  deriving Repr, Inhabited

/-- How a number is named in a message. -/
def Number.found : Number → Found
  | .unsigned n => .unsigned n
  | .signed n => .signed n
  | .float neg x => .float neg x

/-- The greatest unsigned 64-bit number. -/
def u64Max : Nat := 18446744073709551615

/-- The greatest signed 32-bit number. -/
def i32Max : Int := 2147483647

/-- Clamps to the signed 32-bit range. -/
def clampI32 (n : Int) : Int := max (-2147483648) (min i32Max n)

/-- The binary64 number nearest to `10 ^ k`. -/
def powerOfTen (k : Nat) : Option Binary64.Magnitude := Binary64.ofNat (Nat.pow 10 k)

/-- Divides `f` by `step` until the exponent `e` is within reach of the table of
powers of ten, or `f` is zero. -/
def stepDown (step f : Binary64.Magnitude) (e : Int) : Option (Binary64.Magnitude × Int) :=
  if -308 ≤ e ∨ f.isZero then some (f, e)
  else
    match f.div step with
    | none => none
    | some g => stepDown step g (e + 308)
termination_by (-e).toNat
decreasing_by omega

/-- The binary64 value of `significand * 10 ^ exponent`, computed as one rounded product
or quotient by a rounded power of ten, after rounded steps of `10 ^ 308` below that
power; `none` when it overflows. -/
def fromParts (significand : Nat) (exponent : Int) : Option Binary64.Magnitude := do
  let f ← Binary64.ofNat significand
  if 308 < exponent then
    if f.isZero then pure f else none
  else
    let (g, e) ← stepDown (← powerOfTen 308) f exponent
    if 308 < e.natAbs then pure g
    else
      let pow ← powerOfTen e.natAbs
      if 0 ≤ e then g.mul pow else g.div pow

/-- Finishes a number as a binary64 value. -/
def finishFloat (positive : Bool) (significand : Nat) (exponent : Int) : Reader Number :=
  match fromParts significand (clampI32 exponent) with
  | some x => pure (.float (!positive) x)
  | none => failHere .numberOutOfRange

/-- Skips decimal digits. -/
def skipDigits : Nat → Reader Unit
  | 0 => pure ()
  | k + 1 => do
    match ← peek with
    | some ch => if '0' ≤ ch ∧ ch ≤ '9' then eat; skipDigits k else pure ()
    | none => pure ()

/-- Reads decimal digits into an exponent.  Past `i32Max` the number is out of range
when it is large, and zero (`none`) when it is small or its significand is zero. -/
def exponentDigits (significandZero expPositive : Bool) (exp : Int) :
    Nat → Reader (Option Int)
  | 0 => pure (some exp)
  | fuel + 1 => do
    match ← peek with
    | some ch =>
      if '0' ≤ ch ∧ ch ≤ '9' then
        eat
        let e := exp * 10 + (ch.toNat - 48 : Nat)
        if e > i32Max then
          if !significandZero && expPositive then failHere .numberOutOfRange
          else
            skipDigits fuel
            pure none
        else exponentDigits significandZero expPositive e fuel
      else pure (some exp)
    | none => pure (some exp)

/-- Reads an exponent part, its `e` next, and finishes the number. -/
def exponentPart (positive : Bool) (significand : Nat) (start : Int) : Reader Number := do
  eat
  let expPositive ← do
    match ← peek with
    | some '+' => eat; pure true
    | some '-' => eat; pure false
    | _ => pure true
  match ← peek with
  | none => failHere .eofValue
  | some ch =>
    eat
    if '0' ≤ ch ∧ ch ≤ '9' then
      let fuel := (← get).rest.length + 1
      match ← exponentDigits (significand == 0) expPositive (ch.toNat - 48 : Nat) fuel with
      | none => pure (.float (!positive) .zero)
      | some e =>
        finishFloat positive significand (if expPositive then start + e else start - e)
    else failHere .invalidNumber

/-- Reads fraction digits after the point, counting them into the exponent; digits that
would overflow the significand are skipped. -/
def fractionDigits (positive : Bool) (significand : Nat) (exponent : Int) (count : Nat) :
    Nat → Reader Number
  | 0 => finishFloat positive significand exponent
  | fuel + 1 => do
    match ← peek with
    | some ch =>
      if '0' ≤ ch ∧ ch ≤ '9' then
        let s := significand * 10 + (ch.toNat - 48)
        if s > u64Max then
          skipDigits (fuel + 1)
          match ← peek with
          | some 'e' | some 'E' => exponentPart positive significand exponent
          | _ => finishFloat positive significand exponent
        else
          eat
          fractionDigits positive s (exponent - 1) (count + 1) fuel
      else afterFraction ch
    | none => afterFraction ' '
where
  /-- Finishes after the fraction digits, `ch` being the next character (a blank at the end). -/
  afterFraction (ch : Char) : Reader Number := do
    if count = 0 then
      match ← peek with
      | some _ => failAhead .invalidNumber
      | none => failAhead .eofValue
    else if ch = 'e' ∨ ch = 'E' then exponentPart positive significand exponent
    else finishFloat positive significand exponent

/-- Reads what follows the integer digits: a fraction, an exponent or nothing. -/
def numberTail (positive : Bool) (significand : Nat) (exponent : Int) (whole : Bool) :
    Reader Number := do
  match ← peek with
  | some '.' =>
    eat
    fractionDigits positive significand exponent 0 ((← get).rest.length + 1)
  | some 'e' | some 'E' => exponentPart positive significand exponent
  | _ =>
    if !whole then finishFloat positive significand exponent
    else if positive then pure (.unsigned significand)
    else if significand = 0 ∨ significand > Nat.pow 2 63 then
      finishFloat positive significand 0
    else pure (.signed (-(significand : Int)))

/-- Reads integer digits past the significand's range, counting them into the exponent. -/
def longInteger (positive : Bool) (significand : Nat) (exponent : Int) : Nat → Reader Number
  | 0 => numberTail positive significand exponent false
  | fuel + 1 => do
    match ← peek with
    | some ch =>
      if '0' ≤ ch ∧ ch ≤ '9' then eat; longInteger positive significand (exponent + 1) fuel
      else numberTail positive significand exponent false
    | none => numberTail positive significand exponent false

/-- Reads integer digits after the first. -/
def integerDigits (positive : Bool) (significand : Nat) : Nat → Reader Number
  | 0 => numberTail positive significand 0 true
  | fuel + 1 => do
    match ← peek with
    | some ch =>
      if '0' ≤ ch ∧ ch ≤ '9' then
        let s := significand * 10 + (ch.toNat - 48)
        if s > u64Max then longInteger positive significand 0 (fuel + 1)
        else eat; integerDigits positive s fuel
      else numberTail positive significand 0 true
    | none => numberTail positive significand 0 true

/-- Reads a number whose sign, if any, was read. -/
def number (positive : Bool) : Reader Number := do
  match ← peek with
  | none => failHere .eofValue
  | some ch =>
    eat
    if ch = '0' then
      match ← peek with
      | some d => if '0' ≤ d ∧ d ≤ '9' then failAhead .invalidNumber else numberTail positive 0 0 true
      | none => numberTail positive 0 0 true
    else if '1' ≤ ch ∧ ch ≤ '9' then
      integerDigits positive (ch.toNat - 48) ((← get).rest.length + 1)
    else failHere .invalidNumber

/-- Skips an exponent part, its `e` next. -/
def skipExponent : Reader Unit := do
  eat
  match ← peek with
  | some '+' | some '-' => eat
  | _ => pure ()
  match ← peek with
  | some ch =>
    eat
    if '0' ≤ ch ∧ ch ≤ '9' then skipDigits ((← get).rest.length + 1)
    else failHere .invalidNumber
  | none => failHere .invalidNumber

/-- Skips a number whose sign, if any, was read. -/
def skipNumber : Reader Unit := do
  let ch ← peek
  eat
  match ch with
  | some '0' =>
    match ← peek with
    | some d => if '0' ≤ d ∧ d ≤ '9' then failAhead .invalidNumber else pure ()
    | none => pure ()
  | some d =>
    if '1' ≤ d ∧ d ≤ '9' then skipDigits ((← get).rest.length + 1)
    else failHere .invalidNumber
  | none => failHere .invalidNumber
  match ← peek with
  | some '.' =>
    eat
    match ← peek with
    | some d =>
      if '0' ≤ d ∧ d ≤ '9' then
        skipDigits ((← get).rest.length + 1)
        match ← peek with
        | some 'e' | some 'E' => skipExponent
        | _ => pure ()
      else failAhead .invalidNumber
    | none => failAhead .invalidNumber
  | some 'e' | some 'E' => skipExponent
  | _ => pure ()

/-- An open array or object while a value is skipped. -/
inductive Frame where
  | array
  | object
  deriving DecidableEq, Repr

/-- After a member or element: closes finished frames and reads the comma before the
next member or element; `true` when the whole value is done.  `acceptComma` is false
right after an opening bracket. -/
def closeFrames (acceptComma : Bool) (frame : Frame) (outer : List Frame) :
    Nat → Reader (Option (Frame × List Frame))
  | 0 => failHere .eofValue
  | fuel + 1 => do
    let closer := if frame = .array then ']' else '}'
    match ← blankThenPeek with
    | some ',' =>
      if acceptComma then eat; pure (some (frame, outer))
      else pure (some (frame, outer))
    | some ch =>
      if ch = closer then
        eat
        match outer with
        | [] => pure none
        | f :: fs => closeFrames true f fs fuel
      else if acceptComma then
        failAhead (if frame = .array then .expectedListCommaOrEnd else .expectedObjectCommaOrEnd)
      else pure (some (frame, outer))
    | none => failAhead (if frame = .array then .eofList else .eofObject)

/-- Reads the key and colon that start an object member. -/
def memberKey : Reader Unit := do
  match ← blankThenPeek with
  | some '"' => eat; skipStringBody ((← get).rest.length + 1)
  | some _ => failAhead .keyMustBeString
  | none => failAhead .eofObject
  match ← blankThenPeek with
  | some ':' => eat
  | some _ => failAhead .expectedColon
  | none => failAhead .eofObject

/-- Skips values inside the open `frames`, innermost first. -/
def skipInside (frames : List Frame) : Nat → Reader Unit
  | 0 => failHere .eofValue
  | fuel + 1 => do
    let opened ← do
      match ← blankThenPeek with
      | some 'n' => eat; ident ['u', 'l', 'l']; pure none
      | some 't' => eat; ident ['r', 'u', 'e']; pure none
      | some 'f' => eat; ident ['a', 'l', 's', 'e']; pure none
      | some '-' => eat; skipNumber; pure none
      | some '"' => eat; skipStringBody ((← get).rest.length + 1); pure none
      | some '[' => eat; pure (some Frame.array)
      | some '{' => eat; pure (some Frame.object)
      | some ch =>
        if '0' ≤ ch ∧ ch ≤ '9' then skipNumber; pure none
        else failAhead .expectedValue
      | none => failAhead .eofValue
    let next ← do
      match opened, frames with
      | some f, _ => closeFrames false f frames fuel
      | none, [] => pure none
      | none, f :: fs => closeFrames true f fs fuel
    match next with
    | none => pure ()
    | some (f, fs) =>
      if f = .object then memberKey
      skipInside (f :: fs) fuel

/-- Skips one value of any shape. -/
def skipValue : Reader Unit := do
  skipInside [] ((← get).rest.length + 1)

/-- Reads a scalar, or notes an array or object without reading it, and names it: what a
record reader reports when the value has the wrong shape. -/
def foundAhead : Reader Found := do
  match ← peek with
  | some 'n' => eat; ident ['u', 'l', 'l']; pure .null
  | some 't' => eat; ident ['r', 'u', 'e']; pure (.bool true)
  | some 'f' => eat; ident ['a', 'l', 's', 'e']; pure (.bool false)
  | some '-' => eat; return (← number false).found
  | some '"' => return .str (← string)
  | some '[' => pure .seq
  | some '{' => pure .map
  | some ch =>
    if '0' ≤ ch ∧ ch ≤ '9' then return (← number true).found
    else failAhead .expectedValue
  | none => failAhead .expectedValue

/-- Stops because the value ahead is not what `expected` names. -/
def wrongType {α : Type} (expected : String) : Reader α := do
  let found ← foundAhead
  failHere (.invalidType found expected)

/-- Reads the blanks after a whole document; anything else is an error. -/
def finish : Reader Unit := do
  match ← blankThenPeek with
  | some _ => failAhead .trailingCharacters
  | none => pure ()

end CodeNotes.Json
