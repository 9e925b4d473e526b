set_option autoImplicit false

/-!
# Binary64 magnitudes and rounding to nearest

A finite, non-negative binary64 number is `mant * 2 ^ exp` with `mant < 2 ^ 53` and
`-1074 ≤ exp ≤ 971`; normal numbers have `2 ^ 52 ≤ mant`, subnormal ones the least
exponent.  `nearest` rounds an exact positive rational to the closest such number, a tie
going to the even mantissa, and reports an overflow as `none`.  Products and quotients
round their exact result once, as the hardware operations do.

All arithmetic here is exact on `Nat`; nothing relies on core's `Float`.
-/

namespace CodeNotes.Binary64

/-- The least binary exponent: that of the subnormal numbers. -/
def leastExp : Int := -1074

/-- The greatest binary exponent of a finite number with a 53-bit mantissa. -/
def greatestExp : Int := 971

/-- A finite non-negative binary64 value `mant * 2 ^ exp`. -/
structure Magnitude where
  mant : Nat
  exp : Int
  deriving DecidableEq, Repr, Inhabited

/-- Zero. -/
def Magnitude.zero : Magnitude := ⟨0, leastExp⟩

/-- `a * 2 ^ k` for an integer `k`, as a numerator and denominator. -/
def scaled (a : Nat) (k : Int) : Nat × Nat :=
  if 0 ≤ k then (a * Nat.pow 2 k.toNat, 1) else (a, Nat.pow 2 (-k).toNat)

/-- The quotient `num / den` rounded to nearest, a tie going to the even result. -/
def roundDiv (num den : Nat) : Nat :=
  let q := num / den
  let r := num % den
  if 2 * r > den || (2 * r == den && q % 2 == 1) then q + 1 else q

/-- The mantissa of `n / d * 2 ^ k` at binary exponent `e`, before rounding, as a fraction. -/
def atExp (n d : Nat) (k e : Int) : Nat × Nat :=
  let (a, b) := scaled n (k - e)
  (a, d * b)

/-- The binary64 number nearest to `n / d * 2 ^ k`, or `none` when it overflows. -/
def nearest (n d : Nat) (k : Int) : Option Magnitude :=
  if n = 0 ∨ d = 0 then some .zero
  else
    let e1 : Int := k + n.log2 - d.log2 - 52
    let (a1, b1) := atExp n d k e1
    let e2 := if a1 < Nat.pow 2 52 * b1 then e1 - 1 else e1
    let e := max e2 leastExp
    let (a, b) := atExp n d k e
    let m := roundDiv a b
    let (m, e) := if m = Nat.pow 2 53 then (Nat.pow 2 52, e + 1) else (m, e)
    if e > greatestExp then none
    else if m = 0 then some .zero
    else some ⟨m, e⟩

/-- The binary64 number nearest to a natural number. -/
def ofNat (n : Nat) : Option Magnitude := nearest n 1 0

/-- The rounded product. -/
def Magnitude.mul (x y : Magnitude) : Option Magnitude :=
  nearest (x.mant * y.mant) 1 (x.exp + y.exp)

/-- The rounded quotient; a zero divisor gives zero, which no caller asks for. -/
def Magnitude.div (x y : Magnitude) : Option Magnitude :=
  nearest x.mant y.mant (x.exp - y.exp)

/-- Whether the value is zero. -/
def Magnitude.isZero (x : Magnitude) : Bool := x.mant == 0

example : ofNat 3 = some ⟨3 * Nat.pow 2 51, -51⟩ := by decide

end CodeNotes.Binary64
