import CodeNotes.Store.Cell
set_option autoImplicit false

/-!
# Note identities

Normative source: SPEC_FULL.md §3 (`id`, a stable surrogate) and §11.2 (Storage
backend).

A note is identified by a 128-bit value written as 32 hexadecimal digits.  The
canonical text is lowercase in five hyphen-separated groups of 8, 4, 4, 4 and 12
digits.  `readId` accepts that form in either case, the 32 digits without hyphens, the
hyphenated form between braces, and the hyphenated form after `urn:uuid:`; for any
other text it reports the first offending character, or else what is wrong with the
length or the grouping.
-/

namespace CodeNotes.Store

/-- Whether a character is a hexadecimal digit. -/
def isHexDigit (c : Char) : Bool :=
  c.isDigit || ('a' ≤ c && c ≤ 'f') || ('A' ≤ c && c ≤ 'F')

/-- Lowercases an ASCII letter. -/
def asciiLower (c : Char) : Char := if 'A' ≤ c && c ≤ 'Z' then Char.ofNat (c.toNat + 32) else c

/-- The canonical text of 32 hexadecimal digits. -/
def canonicalId (hex : List Char) : String :=
  let h := hex.map asciiLower
  String.ofList (h.take 8 ++ ['-'] ++ (h.drop 8).take 4 ++ ['-'] ++ (h.drop 12).take 4 ++ ['-'] ++
    (h.drop 16).take 4 ++ ['-'] ++ h.drop 20)

/-- Splits a list at every hyphen. -/
def splitHyphens (cs : List Char) : List (List Char) := cs.splitOn '-'

/-- Reads a hyphenated identity: five groups of 8, 4, 4, 4 and 12 digits. -/
def readHyphenated (cs : List Char) : Option String :=
  match splitHyphens cs with
  | [a, b, c, d, e] =>
    if a.length == 8 && b.length == 4 && c.length == 4 && d.length == 4 && e.length == 12 &&
        (a ++ b ++ c ++ d ++ e).all isHexDigit then
      some (canonicalId (a ++ b ++ c ++ d ++ e))
    else none
  | _ => none

/-- What is wrong with a text that is no identity. -/
def idProblem (s : String) : String :=
  let cs := s.toList
  let (body, offset, simple) : List Char × Nat × Bool :=
    if cs.head? == some (Char.ofNat 0x7B) && cs.getLast? == some (Char.ofNat 0x7D) && cs.length ≥ 2 then
      ((cs.drop 1).dropLast, 1, false)
    else if "urn:uuid:".toList <+: cs then (cs.drop 9, 9, false)
    else (cs, 0, true)
  -- byte offsets of the characters of the body
  let rec scan (i : Nat) (hyphens : List Nat) : List Char → Sum String (List Nat)
    | [] => .inr hyphens.reverse
    | c :: rest =>
      if c.toNat ≥ 0x80 || (!isHexDigit c && c != '-') then
        .inl s!"invalid character: found `{c}` at {i + offset}"
      else scan (i + 1) (if c == '-' then i :: hyphens else hyphens) rest
  match scan 0 [] body with
  | .inl msg => msg
  | .inr hyphens =>
    if hyphens.isEmpty && simple then
      let size := s.utf8ByteSize
      s!"invalid length: expected length 32 for simple format, found {size}"
    else if hyphens.length != 4 then
      let groups := hyphens.length + 1
      s!"invalid group count: expected 5, found {groups}"
    else
      let starts := [0, 9, 14, 19, 24]
      let expected := [8, 4, 4, 4, 12]
      let bad := (List.range 4).find? fun i => hyphens.getD i 0 != starts.getD (i + 1) 0 - 1
      match bad with
      | some i =>
        let want := expected.getD i 0
        let found := hyphens.getD i 0 - starts.getD i 0
        s!"invalid group length in group {i}: expected {want}, found {found}"
      | none =>
        let found := s.utf8ByteSize - 24
        s!"invalid group length in group 4: expected 12, found {found}"

/-- Reads an identity in any accepted form and returns its canonical text. -/
def readId (s : String) : Except String String :=
  let cs := s.toList
  let parsed :=
    if cs.length == 32 && cs.all isHexDigit then some (canonicalId cs)
    else if cs.length == 36 then readHyphenated cs
    else if cs.length == 38 && cs.head? == some (Char.ofNat 0x7B) && cs.getLast? == some (Char.ofNat 0x7D) then
      readHyphenated ((cs.drop 1).dropLast)
    else if cs.length == 45 && "urn:uuid:".toList <+: cs then readHyphenated (cs.drop 9)
    else none
  match parsed with
  | some id => .ok id
  | none => .error (idProblem s)

/-- The canonical text of the `n`-th identity handed out: version-4 layout, counter in
the last group. -/
def idOfSerial (n : Nat) : String :=
  let h := Nat.toDigits 16 n
  let last := String.ofList (List.replicate (12 - min 12 h.length) '0' ++ h.drop (h.length - min 12 h.length))
  "00000000-0000-4000-8000-" ++ last

end CodeNotes.Store
