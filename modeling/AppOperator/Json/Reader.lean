import AppOperator.Json.Basic

/-!
# Reading JSON text

A reader takes characters and gives back what it read with the characters
that follow. Values nest, so the reader of values carries a bound on the
steps that are left; every step takes a character, so `Json.parse?` starts
it above the length of the text.

A number without fraction and exponent is an integer when it fits 64 bits,
signed or unsigned, and `-0` is not one: it has a sign that no integer keeps.
-/

namespace AppOperator.Json

/-- Drops the blanks that may stand between tokens. -/
def skipBlanks : List Char → List Char :=
  List.dropWhile (fun c => c = ' ' || c = '\t' || c = '\n' || c = '\r')

/-- The value of a hexadecimal digit. -/
def hexDigit? (c : Char) : Option Nat :=
  if '0' ≤ c ∧ c ≤ '9' then some (c.toNat - '0'.toNat)
  else if 'a' ≤ c ∧ c ≤ 'f' then some (c.toNat - 'a'.toNat + 10)
  else if 'A' ≤ c ∧ c ≤ 'F' then some (c.toNat - 'A'.toNat + 10)
  else none

/-- Four hexadecimal digits. -/
def readHex4 : List Char → Option (Nat × List Char)
  | a :: b :: c :: d :: rest => do
    let n := (← hexDigit? a) * 4096 + (← hexDigit? b) * 256 + (← hexDigit? c) * 16 + (← hexDigit? d)
    return (n, rest)
  | _ => none

/-- The character of a code unit after `\u`: a unit of a pair needs its other half. -/
def readUnit (unit : Nat) (rest : List Char) : Option (Char × List Char) :=
  if 0xD800 ≤ unit ∧ unit < 0xDC00 then
    match rest with
    | '\\' :: 'u' :: more => do
      let (low, after) ← readHex4 more
      if 0xDC00 ≤ low ∧ low < 0xE000 then
        return (Char.ofNat (0x10000 + (unit - 0xD800) * 0x400 + (low - 0xDC00)), after)
      else none
    | _ => none
  else if 0xDC00 ≤ unit ∧ unit < 0xE000 then none
  else some (Char.ofNat unit, rest)

/-- The rest of a text after its opening quote; `done` holds what was read, last first. -/
def readText : (fuel : Nat) → (done : List Char) → List Char → Option (String × List Char)
  | 0, _, _ => none
  | _ + 1, _, [] => none
  | fuel + 1, done, c :: rest =>
    if c = '"' then some (String.ofList done.reverse, rest)
    else if c.toNat < 0x20 then none
    else if c = '\\' then
      match rest with
      | '"' :: r => readText fuel ('"' :: done) r
      | '\\' :: r => readText fuel ('\\' :: done) r
      | '/' :: r => readText fuel ('/' :: done) r
      | 'b' :: r => readText fuel ('\x08' :: done) r
      | 'f' :: r => readText fuel ('\x0c' :: done) r
      | 'n' :: r => readText fuel ('\n' :: done) r
      | 'r' :: r => readText fuel ('\r' :: done) r
      | 't' :: r => readText fuel ('\t' :: done) r
      | 'u' :: r =>
        match readHex4 r with
        | none => none
        | some (unit, r) =>
          match readUnit unit r with
          | none => none
          | some (d, r) => readText fuel (d :: done) r
      | _ => none
    else readText fuel (c :: done) rest

/-- The number that a run of digits stands for. -/
def digitsValue (digits : List Char) : Nat :=
  digits.foldl (fun n c => n * 10 + (c.toNat - '0'.toNat)) 0

/-- The value of a number without fraction and exponent. -/
def ofDigits (negative : Bool) (digits : List Char) : Json :=
  let n : Int := digitsValue digits
  let n := if negative then -n else n
  if IsWord n ∧ ¬ (negative ∧ n = 0) then .int n else .real (Decimal.normal ⟨n, 0⟩)

/-- A number: whole part, then a fraction and an exponent if there are any. -/
def readNumber (cs : List Char) : Option (Json × List Char) := do
  let (negative, cs) := match cs with
    | '-' :: r => (true, r)
    | _ => (false, cs)
  let whole := cs.takeWhile Char.isDigit
  let cs := cs.dropWhile Char.isDigit
  if whole.isEmpty || (whole.length > 1 && whole.head? = some '0') then none
  let (fraction, cs) ← match cs with
    | '.' :: r =>
      let digits := r.takeWhile Char.isDigit
      if digits.isEmpty then none else some (some digits, r.dropWhile Char.isDigit)
    | _ => some (none, cs)
  let (power, cs) ← match cs with
    | c :: r =>
      if c = 'e' ∨ c = 'E' then
        let (down, r) := match r with
          | '-' :: r => (true, r)
          | '+' :: r => (false, r)
          | _ => (false, r)
        let digits := r.takeWhile Char.isDigit
        if digits.isEmpty then none
        else
          let n : Int := digitsValue digits
          some (some (if down then -n else n), r.dropWhile Char.isDigit)
      else some (none, cs)
    | [] => some (none, cs)
  match fraction, power with
  | none, none => return (ofDigits negative whole, cs)
  | _, _ =>
    let decimals := fraction.getD []
    let n : Int := digitsValue (whole ++ decimals)
    let n := if negative then -n else n
    return (.real (Decimal.normal ⟨n, power.getD 0 - decimals.length⟩), cs)

/-- A fixed word. -/
def readWord (word : String) (value : Json) (cs : List Char) : Option (Json × List Char) :=
  if word.toList.isPrefixOf cs then some (value, cs.drop word.length) else none

mutual
/-- One value. -/
def readValue : (fuel : Nat) → List Char → Option (Json × List Char)
  | 0, _ => none
  | fuel + 1, cs =>
    match skipBlanks cs with
    | '"' :: rest => (readText (rest.length + 1) [] rest).map (fun (s, r) => (.str s, r))
    | '[' :: rest =>
      match skipBlanks rest with
      | ']' :: r => some (.arr [], r)
      | _ => readItems fuel [] rest
    | '{' :: rest =>
      match skipBlanks rest with
      | '}' :: r => some (.obj [], r)
      | _ => readMembers fuel [] rest
    | 't' :: rest => readWord "true" (.bool true) ('t' :: rest)
    | 'f' :: rest => readWord "false" (.bool false) ('f' :: rest)
    | 'n' :: rest => readWord "null" .null ('n' :: rest)
    | rest => readNumber rest
/-- The items of an array up to its closing bracket; `done` holds those read, last first. -/
def readItems : (fuel : Nat) → (done : List Json) → List Char → Option (Json × List Char)
  | 0, _, _ => none
  | fuel + 1, done, cs =>
    match readValue fuel cs with
    | none => none
    | some (v, rest) =>
      match skipBlanks rest with
      | ',' :: r => readItems fuel (v :: done) r
      | ']' :: r => some (.arr (v :: done).reverse, r)
      | _ => none
/-- The members of an object up to its closing brace; `done` holds those read. -/
def readMembers : (fuel : Nat) → (done : List (String × Json)) → List Char →
    Option (Json × List Char)
  | 0, _, _ => none
  | fuel + 1, done, cs =>
    match skipBlanks cs with
    | '"' :: rest =>
      match readText (rest.length + 1) [] rest with
      | none => none
      | some (name, rest) =>
        match skipBlanks rest with
        | ':' :: rest =>
          match readValue fuel rest with
          | none => none
          | some (v, rest) =>
            let done := Assoc.insert name v done
            match skipBlanks rest with
            | ',' :: r => readMembers fuel done r
            | '}' :: r => some (.obj done, r)
            | _ => none
        | _ => none
    | _ => none
end

/-- **The value that a text spells**, if it spells one and nothing more. -/
def parse? (text : String) : Option Json :=
  let cs := text.toList
  match readValue (cs.length + 1) cs with
  | some (v, rest) => if (skipBlanks rest).isEmpty then some v else none
  | none => none

end AppOperator.Json
