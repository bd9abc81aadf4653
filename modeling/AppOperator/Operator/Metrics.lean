import AppOperator.Data.Dict
import AppOperator.Number.Shortest

/-!
# What the operator counts

Reconciles are counted by their result, failed ones also by their reason,
and how long they took is kept as a histogram. `render` writes all of it in
the text format in which such counts are collected: families of series in
the order of their names, a family without any series left out.

Durations are counted in whole nanoseconds and become binary numbers only where they
are added up, as the sum is kept with double precision. A limit of the histogram
counts all durations that took no longer, so the counts do not fall from limit to
limit.
-/

namespace AppOperator

/-- A number of nanoseconds. -/
abbrev Nanoseconds := Nat

/-- **How long things took.** -/
structure Histogram where
  /-- For each limit how many took no longer. -/
  within : List Nat
  /-- How many there were. -/
  count : Nat := 0
  /-- How long they took together, in seconds. -/
  sum : Binary := .zero
deriving DecidableEq

namespace Histogram

/-- The limits, in milliseconds. -/
def limits : List Nat := [10, 50, 100, 250, 500, 1000, 2500, 5000, 10000, 30000]

/-- A histogram of nothing. -/
def empty : Histogram := { within := limits.map fun _ => 0 }

/-- A duration in seconds. -/
def seconds (elapsed : Nanoseconds) : Binary :=
  Binary.ofNat (elapsed / 1000000000) + Binary.ofRatio (elapsed % 1000000000) 1000000000

/-- One more duration. -/
def observe (h : Histogram) (elapsed : Nanoseconds) : Histogram :=
  { within := List.zipWith (fun limit n => if elapsed ≤ limit * 1000000 then n + 1 else n)
      limits h.within
    count := h.count + 1
    sum := h.sum + seconds elapsed }

end Histogram

/-- **The counts of reconciles.** -/
structure Metrics where
  /-- All reconciles by result. -/
  results : Dict String Nat := .empty
  /-- The failed ones by reason. -/
  failures : Dict String Nat := .empty
  /-- How long they took. -/
  durations : Histogram := .empty
deriving DecidableEq

namespace Metrics

instance : Inhabited Metrics := ⟨{}⟩

/-- Counts one more under a label. -/
def increment (counts : Dict String Nat) (label : String) : Dict String Nat :=
  counts.insert label ((counts.get? label).getD 0 + 1)

/-- **Counts a reconcile that succeeded.** -/
def recordSuccess (m : Metrics) (elapsed : Nanoseconds) : Metrics :=
  { m with results := increment m.results "success", durations := m.durations.observe elapsed }

/-- **Counts a reconcile that failed.** -/
def recordFailure (m : Metrics) (reason : String) (elapsed : Nanoseconds) : Metrics :=
  { results := increment m.results "error"
    failures := increment m.failures reason
    durations := m.durations.observe elapsed }

/-! ## The text

The text is a list of lines. A family is written with two lines that say what it is
and one line for each of its series. -/

/-- A character of a label's value as it stands between quotes. -/
def escape (c : Char) : List Char :=
  if c = '\\' then ['\\', '\\'] else if c = '"' then ['\\', '"']
  else if c = '\n' then ['\\', 'n'] else [c]

/-- A label in braces. -/
def label (name value : String) : String :=
  "\x7b" ++ name ++ "=\"" ++ String.ofList (value.toList.flatMap escape) ++ "\"\x7d"

/-- A family of series: its name, what it is about and its lines. -/
structure Family where
  /-- The name. -/
  name : String
  /-- What it is about. -/
  help : String
  /-- What kind of numbers it has. -/
  type : String
  /-- The lines of the series, without the name in front. -/
  series : List String

/-- The lines of a family. -/
def Family.lines (f : Family) : List String :=
  if f.series.isEmpty then []
  else ["# HELP " ++ f.name ++ " " ++ f.help, "# TYPE " ++ f.name ++ " " ++ f.type]
    ++ f.series.map (f.name ++ ·)

/-- The series of counts by a label. -/
def counters (labelName : String) (counts : Dict String Nat) : List String :=
  counts.entries.map fun (value, n) => label labelName value ++ " " ++ toString n

/-- The series of a histogram. -/
def histogram (h : Histogram) : List String :=
  let bucket (limit : String) (n : Nat) : String :=
    "_bucket" ++ label "le" limit ++ " " ++ toString n
  let seconds (limit : Nat) : String := Decimal.positional ⟨limit, -3⟩
  List.zipWith (fun limit n => bucket (seconds limit) n) Histogram.limits h.within
    ++ [bucket "+Inf" h.count, "_sum " ++ h.sum.shortest.positional, "_count " ++ toString h.count]

/-- All families, in the order of their names. -/
def families (m : Metrics) : List Family :=
  [{ name := "appsody_reconcile_duration_seconds", help := "Duration of reconciliations",
     type := "histogram", series := histogram m.durations },
   { name := "appsody_reconcile_failures_total", help := "Failed reconciliations by reason",
     type := "counter", series := counters "reason" m.failures },
   { name := "appsody_reconciliations_total", help := "Reconciliations by result",
     type := "counter", series := counters "result" m.results }]

/-- The lines of the text. -/
def lines (m : Metrics) : List String := m.families.flatMap Family.lines

/-- **The text of all counts.** -/
def render (m : Metrics) : String := String.join (m.lines.map (· ++ "\n"))

end Metrics
end AppOperator
