import AppOperator.Yaml.Cursor

/-!
# The text of scalars

A scalar may run over several lines. The blanks around a line's end are not
part of it: one end of a line becomes a blank, and of several all but the
first stay (`Gap.folded`). Plain and quoted scalars fold alike and differ in
where they end; block scalars keep their lines, marked off by indentation.

Every reader here gives what it read, back to front while it reads, and the
place after it.
-/

namespace AppOperator.Yaml

/-! ## Between words

A gap is read as a whole, ends of lines and all, before it is known what it stands
for: that depends on whether a line has ended in it and on how many more have. -/

/-- **What stands between two words of a scalar.** -/
structure Gap where
  /-- The blanks before the first end of a line. -/
  blanks : List Char := []
  /-- The first end of a line. -/
  first : List Char := []
  /-- The further ones. -/
  further : List Char := []
  /-- Whether a line has ended. -/
  broken : Bool := false

namespace Gap

/-- **The text that a gap stands for.** -/
def folded (g : Gap) : List Char :=
  if !g.broken then g.blanks
  else if g.first = ['\n'] then (if g.further.isEmpty then [' '] else g.further)
  else g.first ++ g.further

/-- Reads a gap. In a plain scalar, `floor` is the column before which no tab may stand. -/
def read (floor : Option Nat) : (fuel : Nat) → Gap → Cursor → Option (Gap × Cursor)
  | 0, g, c => some (g, c)
  | fuel + 1, g, c =>
    match c.rest with
    | [] => some (g, c)
    | x :: _ =>
      if isGap x then
        if g.broken && x = '\t' && floor.any (c.column < ·) then none
        else
          let g := if g.broken then g else { g with blanks := g.blanks ++ [x] }
          read floor fuel g (c.advance 1)
      else if isBreak x then
        let (text, next) := c.readBreak
        read floor fuel
          (if g.broken then { g with further := g.further ++ text }
            else { g with blanks := [], first := text, broken := true }) next
      else some (g, c)

end Gap

/-! ## Plain scalars

A plain scalar ends where something else must begin: at a colon before a blank, at a
comment, at what bounds the entries of a flow collection, and at a line that is
indented less than the block asks for. -/

/-- Whether a character bounds the entries of a flow collection. -/
def isFlowMark (x : Char) : Bool := x = ',' || x = '[' || x = ']' || x = '\x7b' || x = '\x7d'

/-- The characters of a plain scalar up to a blank or to where it ends.
Within a flow collection a colon may not touch what bounds an entry. -/
def plainRun (flow : Bool) : List Char → Option (List Char)
  | [] => some []
  | x :: rest =>
    if isBreak x || isGap x then some []
    else if flow && x = ':' && rest.head?.any (fun y => isFlowMark y || y = '?') then none
    else if (x = ':' && wordEnds rest) || (flow && isFlowMark x) then some []
    else (plainRun flow rest).map (x :: ·)

/-- Reads the lines of a plain scalar, after `gap`, and whether it ended with a line. -/
def plainLines (flow : Bool) (floor : Nat) :
    (fuel : Nat) → (text : List Char) → Gap → Cursor → Option (List Char × Bool × Cursor)
  | 0, text, gap, c => some (text, gap.broken, c)
  | fuel + 1, text, gap, c =>
    if c.seesBound || c.sees '#' then some (text, gap.broken, c)
    else do
      let run ← plainRun flow c.rest
      let (text, gap) := if run.isEmpty then (text, gap)
        else (run.reverse ++ gap.folded.reverse ++ text, {})
      let c := c.advance run.length
      match c.rest with
      | [] => some (text, gap.broken, c)
      | x :: _ =>
        if !(isGap x || isBreak x) then some (text, gap.broken, c)
        else
          let (gap, c) ← Gap.read (some floor) c.rest.length gap c
          if !flow && c.column < floor then some (text, gap.broken, c)
          else plainLines flow floor fuel text gap c

/-- **Reads a plain scalar**: its text, whether it ended with a line, and the
place after it. Outside flow collections each line must be indented to `floor`. -/
def readPlain (flow : Bool) (floor : Nat) (c : Cursor) : Option (String × Bool × Cursor) :=
  (plainLines flow floor (c.rest.length + 1) [] {} c).map fun (text, broken, c) =>
    (String.ofList text.reverse, broken, c)

/-! ## Quoted scalars

Between single quotes only the quote itself has an escape, which is to write it twice.
Between double quotes there are the escapes below, and an end of a line after a
backslash is no part of the text. -/

/-- The value of a hexadecimal digit. -/
def hexValue? (x : Char) : Option Nat :=
  if x.isDigit then some (x.toNat - '0'.toNat)
  else if 'a' ≤ x ∧ x ≤ 'f' then some (x.toNat - 'a'.toNat + 10)
  else if 'A' ≤ x ∧ x ≤ 'F' then some (x.toNat - 'A'.toNat + 10)
  else none

/-- The character that some hexadecimal digits name. -/
def hexChar? (digits : List Char) : Option Char := do
  let n ← digits.foldlM (fun n x => (hexValue? x).map (n * 16 + ·)) 0
  if h : n.isValidChar then some (Char.ofNatAux n h) else none

/-- What an escape stands for: a character, or the number of digits that name one. -/
def escape? : Char → Option (Char ⊕ Nat)
  | '0' => some (.inl '\x00')
  | 'a' => some (.inl '\x07')
  | 'b' => some (.inl '\x08')
  | 't' => some (.inl '\t')
  | '\t' => some (.inl '\t')
  | 'n' => some (.inl '\n')
  | 'v' => some (.inl '\x0b')
  | 'f' => some (.inl '\x0c')
  | 'r' => some (.inl '\r')
  | 'e' => some (.inl '\x1b')
  | ' ' => some (.inl ' ')
  | '"' => some (.inl '"')
  | '/' => some (.inl '/')
  | '\\' => some (.inl '\\')
  | 'N' => some (.inl '\u0085')
  | '_' => some (.inl '\u00a0')
  | 'L' => some (.inl '\u2028')
  | 'P' => some (.inl '\u2029')
  | 'x' => some (.inr 2)
  | 'u' => some (.inr 4)
  | 'U' => some (.inr 8)
  | _ => none

/-- Reads a quoted scalar up to a blank, to the end of a line or to the
closing quote, and whether an escaped end of a line was the last. -/
def quotedRun (quote : Char) :
    (fuel : Nat) → (text : List Char) → Cursor → Option (List Char × Bool × Cursor)
  | 0, text, c => some (text, false, c)
  | fuel + 1, text, c =>
    match c.rest with
    | [] => some (text, false, c)
    | x :: rest =>
      if isBreak x || isGap x then some (text, false, c)
      else if quote = '\'' && x = '\'' && rest.head? = some '\'' then
        quotedRun quote fuel ('\'' :: text) (c.advance 2)
      else if x = quote then some (text, false, c)
      else if quote = '"' && x = '\\' then
        match rest with
        | [] => none
        | y :: more =>
          if isBreak y then some (text, true, (c.advance 1).skipBreak)
          else match escape? y with
            | none => none
            | some (.inl z) => quotedRun quote fuel (z :: text) (c.advance 2)
            | some (.inr n) =>
              if (more.take n).length < n then none
              else match hexChar? (more.take n) with
                | none => none
                | some z => quotedRun quote fuel (z :: text) (c.advance (2 + n))
      else quotedRun quote fuel (x :: text) (c.advance 1)

/-- Reads the lines of a quoted scalar. -/
def quotedLines (quote : Char) :
    (fuel : Nat) → (text : List Char) → Cursor → Option (List Char × Cursor)
  | 0, _, _ => none
  | fuel + 1, text, c => do
    if c.seesBound || c.rest.isEmpty then none
    let (text, broken, c) ← quotedRun quote c.rest.length text c
    if c.sees quote then some (text, c.advance 1)
    else
      let (gap, c) ← Gap.read none c.rest.length { broken := broken } c
      quotedLines quote fuel (gap.folded.reverse ++ text) c

/-- **Reads a quoted scalar**, from its opening quote. -/
def readQuoted (quote : Char) (c : Cursor) : Option (String × Cursor) :=
  (quotedLines quote (c.rest.length + 1) [] (c.advance 1)).map fun (text, c) =>
    (String.ofList text.reverse, c)

/-! ## Block scalars

The header says how the text ends and may say how far it is indented; if it does not,
the deepest of the lines up to the first one with text does. -/

/-- What becomes of the ends of lines after the last line with text. -/
inductive Chomp where
  /-- None stays. -/
  | strip
  /-- One stays. -/
  | clip
  /-- All stay. -/
  | keep
deriving DecidableEq

/-- The header of a block scalar: its chomping, and its indentation if it is given. -/
def blockHeader (c : Cursor) : Option (Chomp × Nat × Cursor) := do
  let chomp? (c : Cursor) : Option (Chomp × Cursor) :=
    if c.sees '+' then some (.keep, c.advance 1)
    else if c.sees '-' then some (.strip, c.advance 1)
    else none
  let digit (c : Cursor) : Option (Nat × Cursor) :=
    match c.peek? with
    | some '0' => none
    | some x => if x.isDigit then some (x.toNat - '0'.toNat, c.advance 1) else some (0, c)
    | none => some (0, c)
  let (chomp, increment, c) ← match chomp? c with
    | some (chomp, c) => (digit c).map fun (n, c) => (chomp, n, c)
    | none => do
      let (n, c) ← digit c
      match if n = 0 then none else chomp? c with
      | some (chomp, c) => some (chomp, n, c)
      | none => some (.clip, n, c)
  let c := c.advanceWhile isGap
  let c := if c.sees '#' then c.advanceWhile (!isBreak ·) else c
  match c.peek? with
  | none => some (chomp, increment, c)
  | some x => if isBreak x then some (chomp, increment, c.skipBreak) else none

/-- Reads blank lines and the indentation after them. Where none is fixed
(`indent` 0), `deepest` is the deepest seen. -/
def blockBreaks (indent : Nat) :
    (fuel : Nat) → (deepest : Nat) → (breaks : List Char) → Cursor →
      Option (Nat × List Char × Cursor)
  | 0, deepest, breaks, c => some (deepest, breaks, c)
  | fuel + 1, deepest, breaks, c =>
    let spaces := (c.rest.takeWhile (· = ' ')).length
    let c := c.advance (if indent = 0 then spaces else min spaces (indent - c.column))
    let deepest := max deepest c.column
    if (indent = 0 || c.column < indent) && c.sees '\t' then none
    else if c.peek?.any isBreak then
      let (text, c) := c.readBreak
      blockBreaks indent fuel deepest (breaks ++ text) c
    else some (deepest, breaks, c)

/-- Reads the lines of a block scalar. `pending` is the end of the line
before, `breaks` are those of the blank lines after it, and `inset` says
whether that line began with a blank. -/
def blockLines (literal : Bool) (chomp : Chomp) (indent : Nat) :
    (fuel : Nat) → (text pending breaks : List Char) → (inset : Bool) → Cursor →
      Option (List Char × Cursor)
  | 0, text, _, _, _, c => some (text, c)
  | fuel + 1, text, pending, breaks, inset, c =>
    if c.column = indent && !c.rest.isEmpty then do
      let starts := c.peek?.any isGap
      let joined :=
        if !literal && pending = ['\n'] && !inset && !starts then
          (if breaks.isEmpty then [' '] else [])
        else pending
      let line := c.rest.takeWhile (!isBreak ·)
      let (pending, c) := (c.advance line.length).readBreak
      let text := line.reverse ++ breaks.reverse ++ joined.reverse ++ text
      let (_, breaks, c) ← blockBreaks indent (c.rest.length + 1) 0 [] c
      blockLines literal chomp indent fuel text pending breaks starts c
    else
      match chomp with
      | .strip => some (text, c)
      | .clip => some (pending.reverse ++ text, c)
      | .keep => some (breaks.reverse ++ pending.reverse ++ text, c)

/-- **Reads a block scalar**, from its indicator, in a block indented to
`parent` (0 if it is not in a block, else one more than the column). -/
def readBlock (literal : Bool) (parent : Nat) (c : Cursor) : Option (String × Cursor) := do
  let (chomp, increment, c) ← blockHeader (c.advance 1)
  let given := if increment = 0 then 0 else (parent - 1) + increment
  let (deepest, breaks, c) ← blockBreaks given (c.rest.length + 1) 0 [] c
  let indent := if given = 0 then max (max deepest parent) 1 else given
  let (text, c) ← blockLines literal chomp indent (c.rest.length + 1) [] [] breaks false c
  return (String.ofList text.reverse, c)

end AppOperator.Yaml
