import AppOperator.Text.Blank
import AppOperator.Time.Date

/-!
# Points in time

A `Timestamp` is a second of universal time, which is all that an object
records of a time; an `Instant` adds the fraction that a clock or a finer
text may carry. Both are read and written in the notation of RFC 3339. The
reader takes some liberties that writers take: the letters in either case, a
blank for `T`, blanks around the parts, signed years and any zone offset.

The inserted second that a day may end with is written `60`. It is kept
apart from the second it follows by `leap`, and only the last second of a
minute can be followed by one.
-/

namespace AppOperator

/-- **A second of universal time.** -/
structure Timestamp where
  /-- The day. -/
  date : Date
  /-- The second of the day. -/
  clock : Fin 86400
  /-- Whether this is the second inserted after it. -/
  leap : Bool
  /-- A second is inserted only where a minute ends. -/
  leap_end : leap = true → clock.val % 60 = 59
deriving DecidableEq

/-- **A point in time**: a second and a fraction of it. -/
structure Instant extends Timestamp where
  /-- The fraction, in nanoseconds. -/
  nanos : Fin 1000000000
deriving DecidableEq

namespace Timestamp

/-- The first second of 1970. -/
def epoch : Timestamp := ⟨.epoch, ⟨0, by decide⟩, false, by decide⟩

instance : Inhabited Timestamp := ⟨epoch⟩

/-- A number in at least `width` digits. -/
def padded (width n : Nat) : List Char :=
  let digits := Nat.toDigits 10 n
  List.replicate (width - digits.length) '0' ++ digits

/-- A year: four digits, with a sign if it needs more or lies before year 0. -/
def renderYear (year : Int) : List Char :=
  if 0 ≤ year ∧ year ≤ 9999 then padded 4 year.toNat
  else (if year < 0 then '-' else '+') :: padded 4 year.natAbs

/-- **The text of a second**, in universal time. -/
def render (t : Timestamp) : String :=
  let c := t.clock.val
  String.ofList (renderYear t.date.year
    ++ '-' :: padded 2 t.date.month ++ '-' :: padded 2 t.date.day
    ++ 'T' :: padded 2 (c / 3600) ++ ':' :: padded 2 (c / 60 % 60)
    ++ ':' :: padded 2 (c % 60 + if t.leap then 1 else 0) ++ ['Z'])

/-- The second that shows as `clock` a number of seconds east of universal
time, unless it lies outside the calendar. -/
def ofLocal (date : Date) (clock : Nat) (leap : Bool) (east : Int) : Option Timestamp :=
  let shifted : Int := clock - east
  let day := if shifted < 0 then date.prev? else if shifted < 86400 then some date else date.next?
  let second := (shifted % 86400).toNat
  if h : second < 86400 ∧ (leap = true → second % 60 = 59) then
    day.map fun day => ⟨day, ⟨second, h.1⟩, leap, h.2⟩
  else none

end Timestamp

namespace Instant

/-- The first instant of 1970. -/
def epoch : Instant := { Timestamp.epoch with nanos := 0 }

instance : Inhabited Instant := ⟨epoch⟩

/-- The instant a second begins. -/
def ofTimestamp (t : Timestamp) : Instant := { t with nanos := 0 }

/-- The nanoseconds from `earlier` to `later`, negative if it is not earlier.
An inserted second between them counts. -/
def nanosBetween (earlier later : Instant) : Int :=
  let a := earlier.clock.val
  let b := later.clock.val
  let counted (t : Instant) : Int := t.nanos.val + if t.leap then 1000000000 else 0
  let inserted : Int :=
    if a < b then (if earlier.leap then 1 else 0)
    else if b < a then (if later.leap then -1 else 0) else 0
  ((later.date.position - earlier.date.position) * 86400 + (b - a + inserted)) * 1000000000
    + (counted later - counted earlier)

/-! ## Reading

Each part of a time is read off the front of the text. Readers are more lenient than
what is written: there may be blanks between the parts, and the marks between day and
time and for the zone have other forms. -/

/-- Between `least` and `most` digits, and the number they stand for. -/
def readDigits (least : Nat) (most : Option Nat) (cs : List Char) : Option (Nat × List Char) :=
  let run := cs.takeWhile Char.isDigit
  let taken := match most with
    | some n => run.take n
    | none => run
  if taken.length < least then none
  else some (taken.foldl (fun n c => n * 10 + (c.toNat - '0'.toNat)) 0, cs.drop taken.length)

/-- A number of one or two digits, blanks before it. -/
def readPair (cs : List Char) : Option (Nat × List Char) := readDigits 1 (some 2) (dropBlanks cs)

/-- A year: four digits at most, or any number of them after a sign. -/
def readYear (cs : List Char) : Option (Int × List Char) :=
  match dropBlanks cs with
  | '-' :: r => (readDigits 1 none r).map (fun (n, r) => (-(n : Int), r))
  | '+' :: r => (readDigits 1 none r).map (fun (n, r) => ((n : Int), r))
  | r => (readDigits 1 (some 4) r).map (fun (n, r) => ((n : Int), r))

/-- A fixed character, blanks before it. -/
def readMark (mark : Char) (cs : List Char) : Option (List Char) :=
  match dropBlanks cs with
  | c :: r => if c = mark then some r else none
  | [] => none

/-- The nanoseconds of a fraction, if one follows; digits past the ninth are dropped. -/
def readFraction (cs : List Char) : Option (Nat × List Char) :=
  match cs with
  | '.' :: r =>
    let run := r.takeWhile Char.isDigit
    let kept := run.take 9
    if kept.isEmpty then none
    else
      let n := kept.foldl (fun n c => n * 10 + (c.toNat - '0'.toNat)) 0
      some (n * Nat.pow 10 (9 - kept.length), r.drop run.length)
  | _ => some (0, cs)

/-- Exactly two digits. -/
def readTwo (cs : List Char) : Option (Nat × List Char) := readDigits 2 (some 2) cs

/-- A zone offset in seconds east. -/
def readZone (cs : List Char) : Option (Int × List Char) :=
  match cs with
  | u :: t :: c :: rest =>
    if (u = 'U' ∨ u = 'u') ∧ (t = 'T' ∨ t = 't') ∧ (c = 'C' ∨ c = 'c') then some (0, rest)
    else offset (u :: t :: c :: rest)
  | _ => offset cs
where
  /-- A sign, hours and minutes, or the letter of universal time. -/
  offset : List Char → Option (Int × List Char)
    | 'Z' :: rest | 'z' :: rest => some (0, rest)
    | '+' :: rest => (size rest).map (fun (n, r) => ((n : Int), r))
    | '-' :: rest | '−' :: rest => (size rest).map (fun (n, r) => (-(n : Int), r))
    | _ => none
  /-- Hours and minutes, with or without something between. -/
  size (cs : List Char) : Option (Nat × List Char) := do
    let (hours, r) ← readTwo cs
    let (minutes, r) ← readTwo (r.dropWhile (fun c => c = ':' || isBlank c))
    if minutes < 60 then return (hours * 3600 + minutes * 60, r) else none

/-- **The instant that a text names.** -/
def parse? (text : String) : Option Instant := do
  let (year, r) ← readYear text.toList
  let r ← readMark '-' r
  let (month, r) ← readPair r
  let r ← readMark '-' r
  let (day, r) ← readPair r
  let r ← match r with
    | 'T' :: r | 't' :: r | ' ' :: r => some r
    | _ => none
  let (hour, r) ← readPair r
  let r ← readMark ':' r
  let (minute, r) ← readPair r
  let r ← readMark ':' r
  let (second, r) ← readPair r
  let (nanos, r) ← readFraction r
  let (east, r) ← readZone (dropBlanks r)
  if !(dropBlanks r).isEmpty then none
  let date ← Date.of? year month day
  if hour ≥ 24 || minute ≥ 60 || second > 60 || east ≤ -86400 || 86400 ≤ east then none
  let leap := second == 60
  let clock := hour * 3600 + minute * 60 + (if leap then 59 else second)
  let t ← Timestamp.ofLocal date clock leap east
  if h : nanos < 1000000000 then return { t with nanos := ⟨nanos, h⟩ } else none

/-- The text of the second an instant falls in. -/
def render (t : Instant) : String := t.toTimestamp.render

end Instant

/-- The second that a text names, a fraction dropped. -/
def Timestamp.parse? (text : String) : Option Timestamp :=
  (Instant.parse? text).map Instant.toTimestamp

end AppOperator
