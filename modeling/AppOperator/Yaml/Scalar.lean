import AppOperator.Json.Basic
import AppOperator.Yaml.Node

/-!
# What scalars stand for

A scalar is a text. Whether a plain one stands for something else is a
matter of its form: `null`, the truth values and numbers have forms of their
own, and every other text stands for itself. Numbers with leading zeros are
texts.

A scalar whose type is known from a tag is read by the reader of that type (`int?`,
`real?`), and `plainValue?` is for places where anything may stand. Decimals are not
rounded here; it is only decided whether they lie in the range of double precision
(`inRange?`).
-/

namespace AppOperator.Yaml

/-- Whether a text stands for nothing. -/
def isNull (text : String) : Bool := ["null", "Null", "NULL", "~"].contains text

/-- The truth value that a text stands for. -/
def bool? (text : String) : Option Bool :=
  if ["true", "True", "TRUE"].contains text then some true
  else if ["false", "False", "FALSE"].contains text then some false
  else none

/-- The value of a digit of a base. -/
def digit? (base : Nat) (x : Char) : Option Nat := (hexValue? x).filter (· < base)

/-- The number that some digits of a base stand for. -/
def natural? (base : Nat) (digits : List Char) : Option Nat :=
  if digits.isEmpty then none
  else digits.foldlM (fun n x => (digit? base x).map (n * base + ·)) 0

/-- The number without sign that a text stands for. -/
def magnitude? : List Char → Option Nat
  | '0' :: 'x' :: digits => natural? 16 digits
  | '0' :: 'o' :: digits => natural? 8 digits
  | '0' :: 'b' :: digits => natural? 2 digits
  | '0' :: _ :: _ => none
  | digits => natural? 10 digits

/-- **The integer that a text stands for.** -/
def int? (text : String) : Option Int :=
  match text.toList with
  | '+' :: cs => (magnitude? cs).map Int.ofNat
  | '-' :: cs => (magnitude? cs).map fun n => -(n : Int)
  | cs => (magnitude? cs).map Int.ofNat

/-- Digits with a point, with an exponent, with both or with neither. -/
def decimal? (cs : List Char) : Option Decimal := do
  let (negative, cs) := match cs with
    | '-' :: rest => (true, rest)
    | '+' :: rest => (false, rest)
    | _ => (false, cs)
  let whole := cs.takeWhile Char.isDigit
  let (fraction, cs) := match cs.dropWhile Char.isDigit with
    | '.' :: rest => (rest.takeWhile Char.isDigit, rest.dropWhile Char.isDigit)
    | rest => ([], rest)
  let digits ← natural? 10 (whole ++ fraction)
  let power ← match cs with
    | [] => some (0 : Int)
    | c :: rest =>
      if c ≠ 'e' ∧ c ≠ 'E' then none
      else match rest with
        | '-' :: ds => (natural? 10 ds).map fun n => -(n : Int)
        | '+' :: ds => (natural? 10 ds).map Int.ofNat
        | ds => (natural? 10 ds).map Int.ofNat
  return ⟨if negative then -(digits : Int) else digits, power - fraction.length⟩

/-- The numbers from which on there is no nearest number of double precision. -/
def doubleBound : Nat := Nat.pow 2 1024 - Nat.pow 2 970

/-- A decimal in the range of double precision: what lies below it is zero,
and what lies above it is no number. -/
def inRange? (d : Decimal) : Option Decimal :=
  let d := d.normal
  let size : Int := (Nat.toDigits 10 d.mantissa.natAbs).length + d.exponent
  if d.mantissa = 0 || size < -400 then some ⟨0, 0⟩
  else if 400 < size then none
  else if doubleBound * Nat.pow 10 (-d.exponent).toNat ≤
      d.mantissa.natAbs * Nat.pow 10 d.exponent.toNat then
    none
  else some d

/-- The number with a fraction that a text stands for; `none` inside is one
that is no number or not finite. -/
def real? (text : String) : Option (Option Decimal) :=
  if [".inf", ".Inf", ".INF", "+.inf", "+.Inf", "+.INF", "-.inf", "-.Inf", "-.INF", ".nan", ".NaN",
      ".NAN"].contains text then some none
  else
    match text.toList with
    | '+' :: '+' :: _ | '+' :: '-' :: _ => none
    | cs => ((decimal? cs).bind inRange?).map some

/-- Whether a text has digits alone, the first of several a zero. -/
def isPadded (text : String) : Bool :=
  let digits := match text.toList with
    | '+' :: cs | '-' :: cs => cs
    | cs => cs
  1 < digits.length && digits.head? = some '0' && digits.all Char.isDigit

/-- Whether 128 bits hold an integer, with a sign or without. -/
def isWide (n : Int) : Bool := -(Nat.pow 2 127 : Int) ≤ n && n < (Nat.pow 2 128 : Int)

/-- **What a plain scalar stands for**, where anything may stand. An integer
of more than 64 bits is refused while 128 hold it, and has only its nearest
number of double precision beyond. -/
def plainValue? (text : String) : Option Json :=
  if text.isEmpty || isNull text then some .null
  else match bool? text with
    | some b => some (.bool b)
    | none =>
      match (int? text).filter isWide with
      | some n => if Json.IsWord n then some (.int n) else none
      | none =>
        match if isPadded text then none else real? text with
        | some (some d) => some (.real d)
        | some none => some .null
        | none => some (.str text)

end AppOperator.Yaml
