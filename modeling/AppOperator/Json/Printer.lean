import AppOperator.Json.Basic

/-!
# Writing JSON text

Values are written without blanks. A text escapes its quotes, backslashes
and control characters and nothing else; a decimal is written as its digits
and its power of ten.

The text grows at its end while the value is walked through, so a value is written in
one go. Members come in the order in which the object lists them.
-/

namespace AppOperator.Json

/-- A digit below 16 in hexadecimal. -/
def hexChar (n : Nat) : Char :=
  if n < 10 then Char.ofNat ('0'.toNat + n) else Char.ofNat ('a'.toNat + (n - 10))

/-- Writes one character of a text. -/
def emitChar (out : String) (c : Char) : String :=
  if c = '"' then out ++ "\\\""
  else if c = '\\' then out ++ "\\\\"
  else if c.toNat < 0x20 then
    ((out ++ "\\u00").push (hexChar (c.toNat / 16))).push (hexChar (c.toNat % 16))
  else out.push c

/-- Writes a text between quotes. -/
def emitText (out text : String) : String :=
  (text.toList.foldl emitChar (out.push '"')).push '"'

mutual
/-- Writes a value. -/
def emit (out : String) : Json → String
  | .null => out ++ "null"
  | .bool true => out ++ "true"
  | .bool false => out ++ "false"
  | .int n => out ++ toString n
  | .real d => out ++ toString d.mantissa ++ "e" ++ toString d.exponent
  | .str s => emitText out s
  | .arr [] => out ++ "[]"
  | .arr (x :: xs) => emitItems (emit (out.push '[') x) xs
  | .obj [] => out ++ "\x7b\x7d"
  | .obj ((name, v) :: ms) => emitMembers (emit ((emitText (out.push '\x7b') name).push ':') v) ms
/-- Writes the remaining items of an array and its closing bracket. -/
def emitItems (out : String) : List Json → String
  | [] => out.push ']'
  | x :: xs => emitItems (emit (out.push ',') x) xs
/-- Writes the remaining members of an object and its closing brace. -/
def emitMembers (out : String) : List (String × Json) → String
  | [] => out.push '\x7d'
  | (name, v) :: ms => emitMembers (emit ((emitText (out.push ',') name).push ':') v) ms
end

/-- **The text of a value.** -/
def render (j : Json) : String := emit "" j

end AppOperator.Json
