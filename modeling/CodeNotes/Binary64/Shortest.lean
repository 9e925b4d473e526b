import CodeNotes.Binary64.Basic
set_option autoImplicit false

/-!
# The shortest decimal that reads back

Every finite binary64 value owns an interval of reals that round to it: half a unit in
the last place on each side, a quarter below when the mantissa is a power of two above
the subnormal range, the ends included when the mantissa is even.  `shortest` finds the
decimal `digits * 10 ^ point` with the fewest significant digits inside that interval;
of two candidates with that many digits it takes the nearer, and of two equally near
the one with the even last digit.

`positional` writes such a decimal without an exponent and always with a decimal point,
so `1.5`, `2.0`, `1000.0` and `0.001`: the form in which data errors quote a number.
-/

namespace CodeNotes.Binary64

/-- The number of decimal digits of a positive natural number (one for zero). -/
def decimalLength (n : Nat) : Nat := (Nat.repr n).length

/-- `⌊log10 (num / den)⌋` for positive `num` and `den`. -/
def floorLog10 (num den : Nat) : Int :=
  if den ≤ num then (decimalLength (num / den) : Int) - 1
  else
    let gap := decimalLength den - decimalLength num
    if gap = 0 then -1
    else if den ≤ num * Nat.pow 10 gap then -(gap : Int) else -((gap + 1 : Nat) : Int)

/-- Compares `c * 10 ^ p` with `b * 2 ^ t`. -/
def compareScaled (c : Nat) (p : Int) (b : Nat) (t : Int) : Ordering :=
  let left := c * Nat.pow 10 p.toNat * Nat.pow 2 (-t).toNat
  let right := b * Nat.pow 2 t.toNat * Nat.pow 10 (-p).toNat
  compare left right

/-- The interval of reals that read back as `x`, in units of `2 ^ (x.exp - 2)`: the
value, the distance down and the distance up. -/
def Magnitude.bounds (x : Magnitude) : Nat × Nat × Nat :=
  let down := if x.mant = Nat.pow 2 52 ∧ x.exp > leastExp then 1 else 2
  (4 * x.mant, down, 2)

/-- Whether `c * 10 ^ p` reads back as `x`. -/
def Magnitude.admits (x : Magnitude) (c : Nat) (p : Int) : Bool :=
  let (v, down, up) := x.bounds
  let t := x.exp - 2
  let inclusive := x.mant % 2 == 0
  let aboveLow :=
    match compareScaled c p (v - down) t with
    | .gt => true
    | .eq => inclusive
    | .lt => false
  let belowHigh :=
    match compareScaled c p (v + up) t with
    | .lt => true
    | .eq => inclusive
    | .gt => false
  aboveLow && belowHigh

/-- Of `q * 10 ^ p` and `(q + 1) * 10 ^ p`, which both read back as `x`, the nearer;
a tie goes to the even one. -/
def Magnitude.nearer (x : Magnitude) (q : Nat) (p : Int) : Nat :=
  match compareScaled (2 * q + 1) p (2 * x.mant) x.exp with
  | .gt => q
  | .lt => q + 1
  | .eq => if q % 2 == 0 then q else q + 1

/-- The shortest decimal with `k` or more significant digits, trying up to `fuel`
lengths; the value of `x` is at least `10 ^ r`. -/
def Magnitude.search (x : Magnitude) (r : Int) : Nat → Nat → Nat × Int
  | 0, _ => (0, 0)
  | fuel + 1, k =>
    let p : Int := r - k + 1
    let (num, den) := scaled x.mant x.exp
    let q := num * Nat.pow 10 (-p).toNat / (den * Nat.pow 10 p.toNat)
    match x.admits q p, x.admits (q + 1) p with
    | true, true => (x.nearer q p, p)
    | true, false => (q, p)
    | false, true => (q + 1, p)
    | false, false => x.search r fuel (k + 1)

/-- The shortest decimal `digits * 10 ^ point` that reads back as `x`. -/
def Magnitude.shortest (x : Magnitude) : Nat × Int :=
  if x.mant = 0 then (0, 0)
  else
    let (num, den) := scaled x.mant x.exp
    x.search (floorLog10 num den) 17 1

/-- Drops trailing zero digits, raising the point. -/
def trimZeros : Nat → Nat → Int → Nat × Int
  | 0, c, p => (c, p)
  | fuel + 1, c, p => if c ≠ 0 ∧ c % 10 = 0 then trimZeros fuel (c / 10) (p + 1) else (c, p)

/-- `digits * 10 ^ point` written out in full, always with a decimal point. -/
def positionalText (digits : Nat) (point : Int) : String :=
  let (c, p) := trimZeros (decimalLength digits) digits point
  let s := Nat.repr c
  let zeros (n : Nat) := String.ofList (List.replicate n '0')
  if 0 ≤ p then s ++ zeros p.toNat ++ ".0"
  else
    let frac := (-p).toNat
    if frac < s.length then
      String.ofList (s.toList.take (s.length - frac)) ++ "." ++
        String.ofList (s.toList.drop (s.length - frac))
    else "0." ++ zeros (frac - s.length) ++ s

/-- A signed binary64 value written with the shortest digits, positionally. -/
def positional (negative : Bool) (x : Magnitude) : String :=
  let (c, p) := x.shortest
  (if negative then "-" else "") ++ positionalText c p

example : positionalText 15 (-1) = "1.5" := by decide

end CodeNotes.Binary64
