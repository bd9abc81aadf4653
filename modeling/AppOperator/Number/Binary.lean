/-!
# Binary numbers

Sums of measured times are kept as binary floating-point numbers of double
precision: 53 binary digits and a power of two. Every operation is carried
out exactly and then rounded to the nearest such number, of two equally near
ones to the even. The numbers are not negative and stay far from the ends of
the range, so neither a sign nor a bound on the power is kept.

Rounding is done on a ratio of whole numbers, so every step before it is exact. The
text of such a number is the shortest decimal that is read as the same number, which
is in a module of its own.
-/

namespace AppOperator

/-- **A binary number** `digits · 2 ^ power`. -/
structure Binary where
  /-- The digits. -/
  digits : Nat
  /-- The power of two they are multiplied by. -/
  power : Int
deriving DecidableEq, Inhabited

namespace Binary

/-- The number of binary digits. -/
def precision : Nat := 53

/-- Zero. -/
def zero : Binary := ⟨0, 0⟩

/-- The whole number nearest to a ratio, of two the even one. -/
def roundRatio (num den : Nat) : Nat :=
  let q := num / den
  let r := num % den
  if 2 * r < den then q else if den < 2 * r then q + 1 else q + q % 2

/-- A ratio divided by a power of two, as another ratio. -/
def scale (num den : Nat) (power : Int) : Nat × Nat :=
  (num * Nat.pow 2 (-power).toNat, den * Nat.pow 2 power.toNat)

/-- The power of two for which a ratio has the right number of digits before
the point. -/
def powerOf (num den : Nat) : Int :=
  let guess : Int := num.log2 - den.log2 - (precision - 1 : Nat)
  let (n, d) := scale num den guess
  if n < d * Nat.pow 2 (precision - 1) then guess - 1 else guess

/-- **The binary number nearest to a ratio.** -/
def ofRatio (num den : Nat) : Binary :=
  if num = 0 then zero
  else
    let power := powerOf num den
    let (n, d) := scale num den power
    let digits := roundRatio n d
    if digits = Nat.pow 2 precision then ⟨Nat.pow 2 (precision - 1), power + 1⟩ else ⟨digits, power⟩

/-- The binary number nearest to a whole number. -/
def ofNat (n : Nat) : Binary := ofRatio n 1

/-- **The binary number nearest to a sum.** -/
def add (a b : Binary) : Binary :=
  let power := min a.power b.power
  let total :=
    a.digits * Nat.pow 2 (a.power - power).toNat + b.digits * Nat.pow 2 (b.power - power).toNat
  ofRatio (total * Nat.pow 2 power.toNat) (Nat.pow 2 (-power).toNat)

instance : Add Binary := ⟨add⟩

end Binary
end AppOperator
