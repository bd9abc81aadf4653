/-!
# Addresses to listen on

An address of the network with a port, in the usual notation: four decimal
numbers with points between them, or in brackets up to eight hexadecimal
ones with colons, of which one run of zeros may be left out and the last two
may be written as four decimal numbers.

A reader takes characters from the front of a text and gives what it read and the
rest, and it is refused where what it wants is not there. An address is the whole of a
text, so something must be read and nothing may be left.
-/

namespace AppOperator

/-- **The address of a host.** -/
inductive HostAddress where
  /-- Four numbers of eight bits. -/
  | v4 (octets : List UInt8)
  /-- Eight numbers of sixteen bits, and the network it is meant in. -/
  | v6 (groups : List UInt16) (zone : UInt32)
deriving DecidableEq

/-- **An address to listen on.** -/
structure Address where
  /-- The host. -/
  host : HostAddress
  /-- The port. -/
  port : UInt16
deriving DecidableEq

namespace Address

/-- The port of every address of this host. -/
def anyHost (port : UInt16) : Address := { host := .v4 [0, 0, 0, 0], port }

/-! ## Reading

Numbers are read up to a bound and refused beyond it. The groups at the front of an
address are read as far as there are any, and only if there are fewer than eight a run
of zeros is looked for. -/

/-- The value of a hexadecimal digit. -/
def hexDigit? (c : Char) : Option Nat :=
  if '0' ≤ c ∧ c ≤ '9' then some (c.toNat - '0'.toNat)
  else if 'a' ≤ c ∧ c ≤ 'f' then some (c.toNat - 'a'.toNat + 10)
  else if 'A' ≤ c ∧ c ≤ 'F' then some (c.toNat - 'A'.toNat + 10)
  else none

/-- The digits of a base at the start of a text, as a number below a bound. -/
def number (base bound : Nat) (cs : List Char) : Option (Nat × List Char) :=
  let isDigit (c : Char) : Bool := (hexDigit? c).any (· < base)
  let digits := cs.takeWhile isDigit
  let n := digits.foldl (fun n c => n * base + (hexDigit? c).getD 0) 0
  if digits.isEmpty || bound ≤ n then none else some (n, cs.drop digits.length)

/-- A decimal number of eight bits, without a zero before it. -/
def octet (cs : List Char) : Option (UInt8 × List Char) := do
  let (n, rest) ← number 10 256 cs
  if cs.head? = some '0' ∧ cs.length ≠ rest.length + 1 then none else some (n.toUInt8, rest)

/-- A certain character. -/
def mark (c : Char) : List Char → Option (List Char)
  | d :: rest => if c = d then some rest else none
  | [] => none

/-- Four numbers with points between them. -/
def quad (cs : List Char) : Option (List UInt8 × List Char) := do
  let (a, cs) ← octet cs
  let (b, cs) ← octet (← mark '.' cs)
  let (c, cs) ← octet (← mark '.' cs)
  let (d, cs) ← octet (← mark '.' cs)
  return ([a, b, c, d], cs)

/-- A hexadecimal number of at most four digits. -/
def group (cs : List Char) : Option (UInt16 × List Char) := do
  let (n, rest) ← number 16 65536 cs
  if cs.length - rest.length ≤ 4 then some (n.toUInt16, rest) else none

/-- Two groups in one. -/
def pair (a b : UInt8) : UInt16 := (a.toNat * 256 + b.toNat).toUInt16

/-- **The groups at the start of a text**, at most some number of them, and
whether the last two were written as four decimal numbers. -/
def groups (started : Bool) : Nat → List Char → List UInt16 × Bool × List Char
  | 0, cs => ([], false, cs)
  | left + 1, cs =>
    let inner := if started then mark ':' cs else some cs
    match if left = 0 then none else inner.bind quad with
    | some ([a, b, c, d], rest) => ([pair a b, pair c d], true, rest)
    | _ =>
      match inner.bind group with
      | some (g, rest) =>
        let (more, embedded, rest) := groups true left rest
        (g :: more, embedded, rest)
      | none => ([], false, cs)

/-- Eight groups, of which a run of zeros may be left out. -/
def eight (cs : List Char) : Option (List UInt16 × List Char) :=
  match groups false 8 cs with
  | (front, embedded, rest) =>
    if front.length = 8 then some (front, rest)
    else if embedded then none
    else do
      let rest ← mark ':' (← mark ':' rest)
      let (back, _, rest) := groups false (7 - front.length) rest
      return (front ++ List.replicate (8 - front.length - back.length) 0 ++ back, rest)

/-- The network that a host is meant in. -/
def zone (cs : List Char) : Option (UInt32 × List Char) :=
  match (mark '%' cs).bind (number 10 0x100000000) with
  | some (n, rest) => some (n.toUInt32, rest)
  | none => some (0, cs)

/-- The address of a host. -/
def hostAddress (cs : List Char) : Option (HostAddress × List Char) :=
  match quad cs with
  | some (octets, rest) => some (.v4 octets, rest)
  | none => do
    let (groups, rest) ← eight (← mark '[' cs)
    let (zone, rest) ← zone rest
    return (.v6 groups zone, ← mark ']' rest)

/-- **The address that a text stands for.** -/
def parse? (text : String) : Option Address := do
  let (host, rest) ← hostAddress text.toList
  let (port, rest) ← number 10 65536 (← mark ':' rest)
  if rest.isEmpty then some { host, port := port.toUInt16 } else none

/-! ## Writing

An address is written in the one usual form: in small letters, without leading zeros,
with the first of the longest runs of zeros left out. -/

/-- Four numbers with points between them. -/
def quadText (octets : List UInt8) : String :=
  ".".intercalate (octets.map fun n => toString n.toNat)

/-- Groups with colons between them. -/
def groupsText (groups : List UInt16) : String :=
  ":".intercalate (groups.map fun n => String.ofList (Nat.toDigits 16 n.toNat))

/-- How many zeros a list starts with. -/
def zeros (groups : List UInt16) : Nat := (groups.takeWhile (· = 0)).length

/-- Where the longest run of zeros starts, the first of equally long ones,
and how long it is. -/
def longestZeros (groups : List UInt16) : Nat × Nat :=
  (List.range groups.length).foldl (fun best start =>
    let run := zeros (groups.drop start)
    if best.2 < run then (start, run) else best) (0, 0)

/-- Eight groups, with the longest run of at least two zeros left out. -/
def eightText (groups : List UInt16) : String :=
  match groups with
  | [0, 0, 0, 0, 0, 0xFFFF, a, b] =>
    let octets (n : UInt16) : List UInt8 := [(n.toNat / 256).toUInt8, (n.toNat % 256).toUInt8]
    "::ffff:" ++ quadText (octets a ++ octets b)
  | _ =>
    let (start, run) := longestZeros groups
    if run < 2 then groupsText groups
    else groupsText (groups.take start) ++ "::" ++ groupsText (groups.drop (start + run))

/-- The text of a host's address. -/
def hostText : HostAddress → String
  | .v4 octets => quadText octets
  | .v6 groups zone =>
    "[" ++ eightText groups ++ (if zone = 0 then "" else "%" ++ toString zone.toNat) ++ "]"

/-- **The text of an address.** -/
def render (a : Address) : String := hostText a.host ++ ":" ++ toString a.port.toNat

end Address
end AppOperator
