import AppOperator.Number.Binary
import AppOperator.Number.Decimal

/-!
# The shortest decimal of a binary number

A binary number is the nearest one to every number of an interval around it.
It is written as the decimal with the fewest digits in that interval, of
several the one nearest to it. For each number of digits only the two
neighbours of the number on the grid of such decimals have to be tried: if
any point of a grid lies in the interval, so does one of them.
-/

namespace AppOperator

namespace Binary

/-- The interval of the numbers that a binary number is nearest to, in
quarters of its last digit. -/
structure Interval where
  /-- The number itself. -/
  value : Nat
  /-- The lower end. -/
  low : Nat
  /-- The upper end. -/
  high : Nat
  /-- Whether the ends belong to the interval. -/
  closed : Bool

/-- The interval of a number. Below a power of two the numbers are half as
far apart. -/
def interval (b : Binary) : Interval :=
  let value := 4 * b.digits
  let step := if b.digits = Nat.pow 2 (precision - 1) then 1 else 2
  { value, low := value - step, high := value + 2, closed := b.digits % 2 = 0 }

/-- The power of ten of the first digit of a ratio. -/
def leading (num den : Nat) : Int :=
  if den ≤ num then ((Nat.toDigits 10 (num / den)).length : Int) - 1
  else -((Nat.toDigits 10 (den / num)).length : Int)

/-- The candidate with some number of digits, if one lies in the interval. -/
def candidate? (b : Binary) (count : Nat) : Option Decimal :=
  let i := b.interval
  let (num, den) := scale i.value 1 (2 - b.power)
  let unit := leading num den + 1 - (count : Int)
  -- All ends are compared as multiples of one number.
  let up := Nat.pow 10 (-unit).toNat * num / i.value
  let down := den * Nat.pow 10 unit.toNat
  let value := i.value * up
  let below := value / down
  let fits (n : Nat) : Bool :=
    let x := n * down
    if i.closed then i.low * up ≤ x && x ≤ i.high * up else i.low * up < x && x < i.high * up
  let lower := below * down
  let upper := (below + 1) * down
  match fits below, fits (below + 1) with
  | true, true => some ⟨if value - lower < upper - value then below else (below + 1 : Nat), unit⟩
  | true, false => some ⟨below, unit⟩
  | false, true => some ⟨(below + 1 : Nat), unit⟩
  | false, false => none

/-- The digits with which every number of double precision can be told from the others. -/
def enough : Nat := 17

/-- **The shortest decimal that stands for a binary number.** -/
def shortest (b : Binary) : Decimal :=
  if b.digits = 0 then ⟨0, 0⟩
  else (((List.range enough).findSome? fun n => b.candidate? (n + 1)).getD ⟨0, 0⟩).normal

end Binary
end AppOperator
