import AppOperator.Text.Bytes
import AppOperator.Yaml.ScalarText

/-!
# The tokens of a YAML text

A text is cut into tokens from left to right. Two things make that more than
matching characters. Blocks are shown by indentation alone, so tokens that
begin and end them are put in where the column rises and falls. And a key is
known as one only at the colon after it, so the place where the last possible
key began is remembered, and the token for it is put in there when the colon
is met. A key must lie on one line and within 1024 characters.
-/

namespace AppOperator.Yaml

/-- How a scalar is written. -/
inductive ScalarStyle where
  /-- Without quotes. -/
  | plain
  /-- In quotes. -/
  | quoted
  /-- As a block that keeps its lines. -/
  | literal
  /-- As a block whose lines are joined. -/
  | folded
deriving DecidableEq

/-- **A token.** -/
inductive Token where
  /-- The version of the language. -/
  | version (major minor : Nat)
  /-- A short form for the beginning of tags. -/
  | tagHandle (handle lead : String)
  | documentStart
  | documentEnd
  | blockSequence
  | blockMapping
  | blockEnd
  | flowSequence
  | flowSequenceEnd
  | flowMapping
  | flowMappingEnd
  | flowEntry
  | blockEntry
  | key
  | value
  | alias (name : String)
  | anchor (name : String)
  | tag (handle suffix : String)
  | scalar (style : ScalarStyle) (text : String)
deriving DecidableEq

/-- **A place where a key may have begun.** -/
structure PossibleKey where
  /-- The number of tokens before it. -/
  position : Nat
  /-- The place. -/
  place : Cursor
  /-- Whether it must be a key, since a block's entries begin at its column. -/
  required : Bool

/-- **How far a text has been cut.** -/
structure Scanner where
  /-- The place reached. -/
  cursor : Cursor
  /-- The tokens, the latest first. -/
  tokens : List Token := []
  /-- The column of the block reached, one more than it; 0 outside blocks. -/
  indent : Nat := 0
  /-- Those of the blocks around it, the inner ones first. -/
  outer : List Nat := []
  /-- Whether a key may begin here. -/
  keyAllowed : Bool := true
  /-- The possible key of the innermost collection. -/
  possible : Option PossibleKey := none
  /-- Those of the collections around it: one for each open bracket. -/
  around : List (Option PossibleKey) := []

namespace Scanner

/-- Whether the place is inside brackets. -/
def inFlow (s : Scanner) : Bool := !s.around.isEmpty

/-- Adds a token. -/
def emit (s : Scanner) (t : Token) : Scanner := { s with tokens := t :: s.tokens }

/-- Puts tokens in at a position counted from the first. -/
def emitAt (s : Scanner) (position : Nat) (ts : List Token) : Scanner :=
  let later := s.tokens.length - position
  { s with tokens := s.tokens.take later ++ ts.reverse ++ s.tokens.drop later }

/-- Moves on along the line. -/
def advance (s : Scanner) (n : Nat) : Scanner := { s with cursor := s.cursor.advance n }

/-! ## Possible keys

One key is possible in each collection that is open: the innermost in `possible`, the
others in `around`. A key in a block that begins at its indentation is required, since
nothing but a key could stand there, so to give it up is an error. -/

/-- A key that is still possible here; one that had to be a key and no longer can is an error. -/
def stillPossible (c : Cursor) : Option PossibleKey → Option (Option PossibleKey)
  | none => some none
  | some k =>
    if k.place.line < c.line || k.place.index + 1024 < c.index then
      if k.required then none else some none
    else some (some k)

/-- Drops the keys that are no longer possible. -/
def dropStale (s : Scanner) : Option Scanner := do
  let possible ← stillPossible s.cursor s.possible
  let around ← s.around.mapM (stillPossible s.cursor)
  return { s with possible, around }

/-- Gives up the possible key of the innermost collection. -/
def giveUp (s : Scanner) : Option Scanner :=
  match s.possible with
  | some k => if k.required then none else some { s with possible := none }
  | none => some s

/-- Remembers that a key may begin here. -/
def remember (s : Scanner) : Option Scanner :=
  if s.keyAllowed then do
    let s ← s.giveUp
    let key : PossibleKey :=
      { position := s.tokens.length, place := s.cursor,
        required := !s.inFlow && s.indent = s.cursor.column + 1 }
    return { s with possible := some key }
  else some s

/-! ## Blocks

Indentations are counted from one, so that zero is the indentation outside of all
blocks. Inside brackets indentation means nothing. -/

/-- Begins a block at a column, unless one of that column is open. -/
def openBlock (s : Scanner) (column position : Nat) (t : Token) : Scanner :=
  if s.inFlow || column + 1 ≤ s.indent then s
  else { s.emitAt position [t] with indent := column + 1, outer := s.indent :: s.outer }

/-- Ends blocks from the inner ones outwards while they are deeper than an
indentation; `outer` are the indentations around the innermost. -/
def closeDeeper (indent : Nat) : (outer : List Nat) → Scanner → Scanner
  | [], s => s
  | up :: rest, s =>
    if s.indent ≤ indent then s
    else closeDeeper indent rest { s.emit .blockEnd with indent := up, outer := rest }

/-- Ends the blocks that are deeper than an indentation; inside brackets there are none. -/
def closeBlocks (s : Scanner) (indent : Nat) : Scanner :=
  if s.inFlow then s else closeDeeper indent s.outer s

/-! ## Blanks and comments

What lies between tokens is passed over line by line. In a block a new line is where a
key may begin. -/

/-- Moves on to where the next token begins. Tabs may not stand where a block's
indentation could. -/
def skipGaps : (fuel : Nat) → Scanner → Scanner
  | 0, s => s
  | fuel + 1, s =>
    let c := if s.cursor.index = 0 && s.cursor.sees '\uFEFF' then s.cursor.advance 1 else s.cursor
    let tabs := s.inFlow || !s.keyAllowed
    let c := c.advanceWhile (fun x => x = ' ' || (tabs && x = '\t'))
    let c := if c.sees '#' then c.advanceWhile (!isBreak ·) else c
    if c.peek?.any isBreak then
      skipGaps fuel { s with cursor := c.skipBreak, keyAllowed := s.keyAllowed || !s.inFlow }
    else { s with cursor := c }

/-! ## Directives

Lines that begin with a percent sign stand before a document and say how it is to be
read. Handles of tags and the escapes in tags are read here as well, as both occur in
directives. -/

/-- The place at the end of a line on which nothing but a comment follows. -/
def lineEnd? (c : Cursor) : Option Cursor :=
  let c := c.advanceWhile isGap
  let c := if c.sees '#' then c.advanceWhile (!isBreak ·) else c
  match c.peek? with
  | none => some c
  | some x => if isBreak x then some c.skipBreak else none

/-- Reads a number of at most nine digits. -/
def number? (c : Cursor) : Option (Nat × Cursor) :=
  let digits := c.rest.takeWhile Char.isDigit
  if digits.isEmpty || 9 < digits.length then none
  else some (digits.foldl (fun n x => n * 10 + (x.toNat - '0'.toNat)) 0, c.advance digits.length)

/-- Reads the handle of a tag: a mark, a word, and a mark again if one follows. -/
def handle? (c : Cursor) : Option (List Char × Cursor) :=
  if !c.sees '!' then none
  else
    let word := (c.advance 1).rest.takeWhile isWord
    let c := c.advance (1 + word.length)
    if c.sees '!' then some ('!' :: word ++ ['!'], c.advance 1) else some ('!' :: word, c)

/-- Whether a character may stand in a tag. -/
def isTagChar (verbatim : Bool) (x : Char) : Bool :=
  isWord x || ";/?:@&=+$.%!~*'()".toList.contains x || (verbatim && ",[]".toList.contains x)

/-- The bytes that escapes of two hexadecimal digits name, as many as follow. -/
def escapedBytes : (fuel : Nat) → List Char → List UInt8 × List Char
  | 0, cs => ([], cs)
  | fuel + 1, cs =>
    match cs with
    | '%' :: a :: b :: rest =>
      match hexValue? a, hexValue? b with
      | some x, some y =>
        let (bytes, left) := escapedBytes fuel rest
        (UInt8.ofNat (x * 16 + y) :: bytes, left)
      | _, _ => ([], cs)
    | cs => ([], cs)

/-- Replaces the escapes of a tag by the characters that they name. -/
def unescapeTag : (fuel : Nat) → List Char → Option (List Char)
  | 0, _ => some []
  | fuel + 1, cs =>
    match cs with
    | [] => some []
    | '%' :: _ => do
      let (bytes, rest) := escapedBytes cs.length cs
      if bytes.isEmpty then none
      let text ← Utf8.text? bytes
      return text.toList ++ (← unescapeTag fuel rest)
    | x :: rest => (unescapeTag fuel rest).map (x :: ·)

/-- Reads the characters of a tag. -/
def tagText? (verbatim : Bool) (c : Cursor) : Option (List Char × Cursor) := do
  let run := c.rest.takeWhile (isTagChar verbatim)
  let text ← unescapeTag (run.length + 1) run
  return (text, c.advance run.length)

/-- Reads a directive. Of its name only the two known ones are understood. -/
def directive (s : Scanner) : Option Scanner := do
  let s ← (s.closeBlocks 0).giveUp
  let c := s.cursor.advance 1
  let name := c.rest.takeWhile isWord
  let c := c.advance name.length
  if !wordEnds c.rest then none
  let c' := c.advanceWhile isGap
  let (token, c) ← match String.ofList name with
    | "YAML" => do
      let (major, c) ← number? c'
      if !c.sees '.' then none
      let (minor, c) ← number? (c.advance 1)
      some (Token.version major minor, c)
    | "TAG" => do
      let (handle, c) ← handle? c'
      if handle ≠ ['!'] && handle.getLast? ≠ some '!' then none
      if !c.peek?.any isGap then none
      let (lead, c) ← tagText? true (c.advanceWhile isGap)
      if lead.isEmpty || !wordEnds c.rest then none
      some (Token.tagHandle (String.ofList handle) (String.ofList lead), c)
    | _ => none
  return { s.emit token with cursor := ← lineEnd? c, keyAllowed := false }

/-! ## The kinds of tokens

One function for each kind. Each says what becomes of the possible key, whether a key
may follow, and which blocks begin or end. -/

/-- A mark that bounds documents. -/
def documentMark (s : Scanner) (t : Token) : Option Scanner := do
  let s ← (s.closeBlocks 0).giveUp
  return { (s.emit t).advance 3 with keyAllowed := false }

/-- An opening bracket. -/
def openFlow (s : Scanner) (t : Token) : Option Scanner := do
  let s ← s.remember
  return { (s.emit t).advance 1 with
    keyAllowed := true, possible := none, around := s.possible :: s.around }

/-- A closing bracket. -/
def closeFlow (s : Scanner) (t : Token) : Option Scanner := do
  let s ← s.giveUp
  let (possible, around) := match s.around with
    | [] => (none, [])
    | k :: rest => (k, rest)
  return { (s.emit t).advance 1 with keyAllowed := false, possible, around }

/-- A comma inside brackets. -/
def flowEntry (s : Scanner) : Option Scanner := do
  let s ← s.giveUp
  return { (s.emit .flowEntry).advance 1 with keyAllowed := true }

/-- A dash before an entry. -/
def blockEntry (s : Scanner) : Option Scanner := do
  if !s.inFlow && !s.keyAllowed then none
  let s ← (s.openBlock s.cursor.column s.tokens.length .blockSequence).giveUp
  return { (s.emit .blockEntry).advance 1 with keyAllowed := true }

/-- A question mark before a key. -/
def explicitKey (s : Scanner) : Option Scanner := do
  if !s.inFlow && !s.keyAllowed then none
  let s ← (s.openBlock s.cursor.column s.tokens.length .blockMapping).giveUp
  return { (s.emit .key).advance 1 with keyAllowed := !s.inFlow }

/-- A colon before a value. -/
def value (s : Scanner) : Option Scanner :=
  match s.possible with
  | some k =>
    let s := (s.emitAt k.position [.key]).openBlock k.place.column k.position .blockMapping
    some { (s.emit .value).advance 1 with possible := none, keyAllowed := false }
  | none => do
    if !s.inFlow && !s.keyAllowed then none
    let s := s.openBlock s.cursor.column s.tokens.length .blockMapping
    return { (s.emit .value).advance 1 with keyAllowed := !s.inFlow }

/-- An anchor or a reference to one. -/
def reference (s : Scanner) (t : String → Token) : Option Scanner := do
  let s ← s.remember
  let name := (s.cursor.advance 1).rest.takeWhile isWord
  let c := s.cursor.advance (1 + name.length)
  if name.isEmpty || !(wordEnds c.rest || c.peek?.any "?:,]\x7d%@`".toList.contains) then none
  return { s.emit (t (String.ofList name)) with cursor := c, keyAllowed := false }

/-- A tag: between angle brackets, or a handle and what follows it. -/
def tag (s : Scanner) : Option Scanner := do
  let s ← s.remember
  let c := s.cursor
  let (handle, suffix, c) ←
    if (c.advance 1).sees '<' then do
      let (suffix, c) ← tagText? true (c.advance 2)
      if suffix.isEmpty || !c.sees '>' then none
      some (([] : List Char), suffix, c.advance 1)
    else do
      let (handle, c) ← handle? c
      let (text, c) ← tagText? false c
      if 1 < handle.length && handle.getLast? = some '!' then
        if text.isEmpty then none
        some (handle, text, c)
      else
        let suffix := handle.drop 1 ++ text
        if suffix.isEmpty then some ([], ['!'], c) else some (['!'], suffix, c)
  if !(wordEnds c.rest || (s.inFlow && c.sees ',')) then none
  return { s.emit (.tag (String.ofList handle) (String.ofList suffix)) with
    cursor := c, keyAllowed := false }

/-- A block scalar. -/
def blockScalar (s : Scanner) (literal : Bool) : Option Scanner := do
  let s ← s.giveUp
  let (text, c) ← readBlock literal s.indent s.cursor
  return { s.emit (.scalar (if literal then .literal else .folded) text) with
    cursor := c, keyAllowed := true }

/-- A quoted scalar. -/
def quotedScalar (s : Scanner) (quote : Char) : Option Scanner := do
  let s ← s.remember
  let (text, c) ← readQuoted quote s.cursor
  return { s.emit (.scalar .quoted text) with cursor := c, keyAllowed := false }

/-- A plain scalar. -/
def plainScalar (s : Scanner) : Option Scanner := do
  let s ← s.remember
  let (text, broken, c) ← readPlain s.inFlow s.indent s.cursor
  return { s.emit (.scalar .plain text) with cursor := c, keyAllowed := broken }

/-- Whether a plain scalar may begin with these characters. -/
def beginsPlain (flow : Bool) : List Char → Bool
  | [] => false
  | x :: rest =>
    !(isBreak x || isGap x || "-?:,[]\x7b\x7d#&*!|>'\"%@`".toList.contains x)
      || (x = '-' && !rest.head?.any isGap)
      || (!flow && (x = '?' || x = ':') && !wordEnds rest)

/-! ## From the text to its tokens

The next character, and for a few marks the one after it, decides the kind of a token.
Tokens are collected back to front. Every step takes a character at least, so the
length of the text is fuel enough. -/

/-- Reads the token that begins with a character; `rest` follows it. -/
def readToken (s : Scanner) (x : Char) (rest : List Char) : Option Scanner :=
  if s.cursor.column = 0 && x = '%' then s.directive
  else if s.cursor.seesMark '-' then s.documentMark .documentStart
  else if s.cursor.seesMark '.' then s.documentMark .documentEnd
  else match x with
    | '[' => s.openFlow .flowSequence
    | '\x7b' => s.openFlow .flowMapping
    | ']' => s.closeFlow .flowSequenceEnd
    | '\x7d' => s.closeFlow .flowMappingEnd
    | ',' => s.flowEntry
    | '*' => s.reference .alias
    | '&' => s.reference .anchor
    | '!' => s.tag
    | '\'' => s.quotedScalar '\''
    | '"' => s.quotedScalar '"'
    | x =>
      if x = '-' && wordEnds rest then s.blockEntry
      else if x = '?' && (s.inFlow || wordEnds rest) then s.explicitKey
      else if x = ':' && (s.inFlow || wordEnds rest) then s.value
      else if x = '|' && !s.inFlow then s.blockScalar true
      else if x = '>' && !s.inFlow then s.blockScalar false
      else if beginsPlain s.inFlow (x :: rest) then s.plainScalar
      else none

/-- Reads tokens to the end of the text. -/
def run : (fuel : Nat) → Scanner → Option Scanner
  | 0, _ => none
  | fuel + 1, s => do
    let s ← (s.skipGaps (s.cursor.rest.length + 1)).dropStale
    let s := s.closeBlocks (s.cursor.column + 1)
    match s.cursor.rest with
    | [] => (s.closeBlocks 0).giveUp
    | x :: rest => run fuel (← s.readToken x rest)

end Scanner

/-- **The tokens of a text**, if it can be cut into tokens. -/
def Token.scan? (text : String) : Option (List Token) :=
  let cs := text.toList
  if cs.all isAllowed then
    (Scanner.run (cs.length + 2) { cursor := { rest := cs } }).map (·.tokens.reverse)
  else none

end AppOperator.Yaml
