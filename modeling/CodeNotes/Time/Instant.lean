set_option autoImplicit false

/-!
# Instants and their text

Normative source: SPEC_FULL.md §3 (`created_at`, `updated_at`) and §11.2 (`updated_at`
moves to `max(now, previous + 1µs)`).

An instant is a whole number of nanoseconds since 1970-01-01T00:00:00 UTC.  Dates follow
the proleptic Gregorian calendar; `daysFromCivil` and `civilFromDays` convert between a
day count and a (year, month, day) triple by the era arithmetic of 400-year cycles.

Three written forms are used:

* the *stored* form `YYYY-MM-DDTHH:MM:SS.ffffffZ`, to the microsecond;
* the *exchange* form, RFC 3339 with offset `+00:00` and as many fractional digits as
  the instant needs among 0, 3, 6 and 9;
* the *calendar* forms `YYYY-MM-DD HH:MM` and `YYYY-MM-DD HH:MM:SS`.

`parse` reads RFC 3339 text with any offset and converts it to UTC.
-/

namespace CodeNotes.Time

/-- Nanoseconds since 1970-01-01T00:00:00 UTC. -/
abbrev Instant := Int

/-- Nanoseconds in a second, a microsecond and a day. -/
def nanosPerSecond : Int := 1000000000
def nanosPerMicro : Int := 1000
def nanosPerDay : Int := 86400 * nanosPerSecond

/-- Days from 1970-01-01 to the given civil date. -/
def daysFromCivil (y : Int) (m d : Nat) : Int :=
  let y := if m ≤ 2 then y - 1 else y
  let era := y.fdiv 400
  let yoe := y - era * 400
  let mp : Int := if m > 2 then m - 3 else m + 9
  let doy := (153 * mp + 2) / 5 + d - 1
  let doe := yoe * 365 + yoe / 4 - yoe / 100 + doy
  era * 146097 + doe - 719468

/-- The civil date of a day count since 1970-01-01. -/
def civilFromDays (z : Int) : Int × Nat × Nat :=
  let z := z + 719468
  let era := z.fdiv 146097
  let doe := z - era * 146097
  let yoe := (doe - doe / 1460 + doe / 36524 - doe / 146096) / 365
  let y := yoe + era * 400
  let doy := doe - (365 * yoe + yoe / 4 - yoe / 100)
  let mp := (5 * doy + 2) / 153
  let d := doy - (153 * mp + 2) / 5 + 1
  let m := if mp < 10 then mp + 3 else mp - 9
  ((if m ≤ 2 then y + 1 else y), m.toNat, d.toNat)

/-- The decimal digits of `n`, left-padded with zeros to `width`. -/
def pad (width : Nat) (n : Nat) : String :=
  let s := toString n
  String.ofList (List.replicate (width - s.length) '0') ++ s

/-- The parts of an instant: civil date, time of day, and nanoseconds of the second. -/
structure Parts where
  year : Int
  month : Nat
  day : Nat
  hour : Nat
  minute : Nat
  second : Nat
  nanos : Nat

/-- Splits an instant into its UTC parts. -/
def parts (t : Instant) : Parts :=
  let days := t.fdiv nanosPerDay
  let ofDay := (t - days * nanosPerDay).toNat
  let (y, m, d) := civilFromDays days
  let secs := ofDay / 1000000000
  { year := y, month := m, day := d, hour := secs / 3600, minute := secs / 60 % 60,
    second := secs % 60, nanos := ofDay % 1000000000 }

/-- A year with at least four digits, and a sign when negative. -/
def yearText (y : Int) : String :=
  if y < 0 then "-" ++ pad 4 y.natAbs else pad 4 y.toNat

/-- `YYYY-MM-DD HH:MM`. -/
def minutesText (t : Instant) : String :=
  let p := parts t
  s!"{yearText p.year}-{pad 2 p.month}-{pad 2 p.day} {pad 2 p.hour}:{pad 2 p.minute}"

/-- `YYYY-MM-DD HH:MM:SS`. -/
def secondsText (t : Instant) : String :=
  minutesText t ++ ":" ++ pad 2 (parts t).second

/-- `YYYY-MM-DDTHH:MM:SS`. -/
def dateTimeText (p : Parts) : String :=
  s!"{yearText p.year}-{pad 2 p.month}-{pad 2 p.day}T{pad 2 p.hour}:{pad 2 p.minute}:{pad 2 p.second}"

/-- The stored form: to the microsecond, with `Z`. -/
def storedText (t : Instant) : String :=
  let p := parts t
  dateTimeText p ++ "." ++ pad 6 (p.nanos / 1000) ++ "Z"

/-- The exchange form: fractional digits in groups of three as needed, offset `+00:00`. -/
def exchangeText (t : Instant) : String :=
  let p := parts t
  let frac :=
    if p.nanos == 0 then ""
    else if p.nanos % 1000000 == 0 then "." ++ pad 3 (p.nanos / 1000000)
    else if p.nanos % 1000 == 0 then "." ++ pad 6 (p.nanos / 1000)
    else "." ++ pad 9 p.nanos
  dateTimeText p ++ frac ++ "+00:00"

/-- The instant truncated to a whole microsecond, as the stored form keeps it. -/
def truncateMicros (t : Instant) : Instant := t.fdiv nanosPerMicro * nanosPerMicro

/-- Why a text is no RFC 3339 date and time. -/
inductive ParseError where
  | tooShort
  | invalid
  | outOfRange
  | tooLong
  | impossible
  deriving DecidableEq, Repr

/-- The message of a parse error. -/
def ParseError.message : ParseError → String
  | .tooShort => "premature end of input"
  | .invalid => "input contains invalid characters"
  | .outOfRange => "input is out of range"
  | .tooLong => "trailing input"
  | .impossible => "no possible date and time matching input"

/-- Reads exactly `k` ASCII digits from the front. -/
def digits (k : Nat) (cs : List Char) : Except ParseError (Nat × List Char) :=
  if cs.length < k then .error .tooShort
  else
    let ds := cs.take k
    if ds.all Char.isDigit then
      .ok (ds.foldl (fun n c => 10 * n + (c.toNat - '0'.toNat)) 0, cs.drop k)
    else .error .invalid

/-- Expects one character from the front. -/
def expect (ok : Char → Bool) (cs : List Char) : Except ParseError (List Char) :=
  match cs with
  | c :: rest => if ok c then .ok rest else .error .invalid
  | [] => .error .tooShort

/-- The number of days in a month. -/
def monthDays (y : Int) (m : Nat) : Nat :=
  if m == 2 then (if (y % 4 == 0 && y % 100 != 0) || y % 400 == 0 then 29 else 28)
  else if m == 4 || m == 6 || m == 9 || m == 11 then 30 else 31

/-- Reads an RFC 3339 date and time (`T`, `t` or a space between date and time; `Z`,
`z` or `±HH:MM` as offset) and returns the instant in UTC.  Texts shorter than the
shortest complete form are too short. -/
def parse (s : String) : Except ParseError Instant := do
  let cs := s.toList
  if s.utf8ByteSize < 20 then throw .tooShort
  let (y, cs) ← digits 4 cs
  let cs ← expect (· == '-') cs
  let (mo, cs) ← digits 2 cs
  let cs ← expect (· == '-') cs
  let (d, cs) ← digits 2 cs
  let cs ← expect (fun c => c == 'T' || c == 't' || c == ' ') cs
  let (h, cs) ← digits 2 cs
  let cs ← expect (· == ':') cs
  let (mi, cs) ← digits 2 cs
  let cs ← expect (· == ':') cs
  let (sec, cs) ← digits 2 cs
  let (nanos, cs) ← match cs with
    | '.' :: rest =>
      let ds := rest.takeWhile Char.isDigit
      if ds.isEmpty then throw .invalid
      let first := (ds.take 9 ++ List.replicate (9 - min 9 ds.length) '0')
      pure (first.foldl (fun n c => 10 * n + (c.toNat - '0'.toNat)) 0, rest.drop ds.length)
    | _ => pure (0, cs)
  let (offset, cs) ← match cs with
    | c :: rest =>
      if c == 'Z' || c == 'z' then pure ((0 : Int), rest)
      else if c == '+' || c == '-' then do
        let (oh, rest) ← digits 2 rest
        let rest ← expect (· == ':') rest
        let (om, rest) ← digits 2 rest
        if oh > 23 || om > 59 then throw .outOfRange
        let o : Int := (oh * 60 + om) * 60
        pure ((if c == '-' then -o else o), rest)
      else throw .invalid
    | [] => throw .tooShort
  if !cs.isEmpty then throw .tooLong
  if mo < 1 || mo > 12 || d < 1 || d > 31 || h > 23 || mi > 59 || sec > 60 then
    throw .outOfRange
  if d > monthDays y mo then throw .outOfRange
  let secs : Int := daysFromCivil y mo d * 86400 + h * 3600 + mi * 60 + min sec 59 - offset
  pure (secs * nanosPerSecond + nanos)

end CodeNotes.Time
