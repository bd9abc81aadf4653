/-!
# Decimal numbers

A number as its digits and a power of ten. The digits are kept as they were
written; `normal` is the one form that has no zero at the end.

Two decimals of one value may have different digits. What is read from JSON or YAML is
brought to `normal`, and from then on numbers of one value are the same number.
-/

namespace AppOperator

/-- **A decimal number** `mantissa · 10 ^ exponent`, as written with a
fraction or an exponent. -/
structure Decimal where
  /-- The digits, with sign. -/
  mantissa : Int
  /-- The power of ten they are multiplied by. -/
  exponent : Int
deriving DecidableEq, Inhabited

namespace Decimal

/-- Moves the trailing zeros of `digits` into the exponent, at most `fuel` of them. -/
def strip : (fuel : Nat) → (digits exponent : Int) → Decimal
  | 0, digits, exponent => ⟨digits, exponent⟩
  | fuel + 1, digits, exponent =>
    if digits % 10 = 0 then strip fuel (digits / 10) (exponent + 1) else ⟨digits, exponent⟩

/-- The one decimal of this value whose digits do not end in a zero. -/
def normal (d : Decimal) : Decimal :=
  if d.mantissa = 0 then ⟨0, 0⟩
  else strip (Nat.toDigits 10 d.mantissa.natAbs).length d.mantissa d.exponent

/-- The digits of a number below one, from the point on. -/
def fraction (digits : List Char) (places : Nat) : List Char :=
  List.replicate (places - digits.length) '0' ++ digits

/-- **The text of a decimal** without a power of ten: all digits, with a point
where the whole part ends unless nothing follows it. -/
def positional (d : Decimal) : String :=
  let d := d.normal
  let digits := Nat.toDigits 10 d.mantissa.natAbs
  let sign := if d.mantissa < 0 then ['-'] else []
  String.ofList <| sign ++
    if 0 ≤ d.exponent then digits ++ List.replicate d.exponent.toNat '0'
    else
      let places := (-d.exponent).toNat
      let whole := digits.take (digits.length - places)
      let rest := digits.drop (digits.length - places)
      (if whole.isEmpty then ['0'] else whole) ++ '.' :: fraction rest places

end Decimal

end AppOperator
