/-!
# A place in a YAML text

Where a token begins decides what it means: its column shows which block it
belongs to, and its line whether it may still become a key. A `Cursor` is
what is left of the text together with that place.

There are five ends of a line, two of which stay what they are in a text while the
others become a line feed (`Cursor.readBreak`); a carriage return with a line feed
behind it is one end.
-/

namespace AppOperator.Yaml

/-- The characters that may stand in a text. -/
def isAllowed (c : Char) : Bool :=
  let n := c.toNat
  n = 0x9 || n = 0xA || n = 0xD || (0x20 ≤ n && n ≤ 0x7E) || n = 0x85
    || (0xA0 ≤ n && n ≤ 0xD7FF) || (0xE000 ≤ n && n ≤ 0xFFFD) || 0x10000 ≤ n

/-- The characters that end a line. -/
def isBreak (c : Char) : Bool :=
  c = '\n' || c = '\r' || c = '\u0085' || c = '\u2028' || c = '\u2029'

/-- The characters that part words of a line. -/
def isGap (c : Char) : Bool := c = ' ' || c = '\t'

/-- The characters of the names of anchors and tags. -/
def isWord (c : Char) : Bool := c.isAlphanum || c = '_' || c = '-'

/-- Whether a word ends before these characters. -/
def wordEnds : List Char → Bool
  | [] => true
  | c :: _ => isBreak c || isGap c

/-- **A place in a text.** -/
structure Cursor where
  /-- What is left of the text. -/
  rest : List Char
  /-- The number of characters before the place. -/
  index : Nat := 0
  /-- The number of lines before it. -/
  line : Nat := 0
  /-- The number of characters before it on its line. -/
  column : Nat := 0

namespace Cursor

/-- The next character. -/
def peek? (c : Cursor) : Option Char := c.rest.head?

/-- Whether the next character is this one. -/
def sees (c : Cursor) (x : Char) : Bool := c.rest.head? = some x

/-- The place some characters further on the line. -/
def advance (c : Cursor) (n : Nat) : Cursor :=
  { c with rest := c.rest.drop n, index := c.index + n, column := c.column + n }

/-- The place after the characters that pass a test. -/
def advanceWhile (c : Cursor) (test : Char → Bool) : Cursor :=
  c.advance (c.rest.takeWhile test).length

/-- The end of a line as it stands in a scalar, and the place after it. -/
def readBreak (c : Cursor) : List Char × Cursor :=
  let next (rest : List Char) (n : Nat) : Cursor :=
    { rest, index := c.index + n, line := c.line + 1, column := 0 }
  match c.rest with
  | '\r' :: '\n' :: rest => (['\n'], next rest 2)
  | x :: rest =>
    if x = '\u2028' || x = '\u2029' then ([x], next rest 1)
    else if isBreak x then (['\n'], next rest 1)
    else ([], c)
  | [] => ([], c)

/-- The place after the end of a line. -/
def skipBreak (c : Cursor) : Cursor := c.readBreak.2

/-- Whether a mark that bounds documents begins here. -/
def seesMark (c : Cursor) (mark : Char) : Bool :=
  c.column = 0 && match c.rest with
    | x :: y :: z :: rest => x = mark && y = mark && z = mark && wordEnds rest
    | _ => false

/-- Whether a document begins or ends here. -/
def seesBound (c : Cursor) : Bool := c.seesMark '-' || c.seesMark '.'

end Cursor
end AppOperator.Yaml
