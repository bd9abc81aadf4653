import AppOperator.Text.Visible

/-!
# Quoted text

A text between quotes, in which quotes, backslashes and all that could not be
read off the page are written as escapes.

Such texts stand in messages, where what a cluster answered is to be seen as it was.
What can be read off the page is decided by `Text/Visible`.
-/

namespace AppOperator.Quoted

/-- A character as it stands between quotes. -/
def escape (c : Char) : List Char :=
  match c with
  | '"' => ['\\', '"']
  | '\\' => ['\\', '\\']
  | '\n' => ['\\', 'n']
  | '\r' => ['\\', 'r']
  | '\t' => ['\\', 't']
  | '\x00' => ['\\', '0']
  | c =>
    if isVisible c then [c]
    else '\\' :: 'u' :: '\x7b' :: Nat.toDigits 16 c.toNat ++ ['\x7d']

/-- **A text in quotes.** -/
def quote (text : String) : String :=
  String.ofList ('"' :: text.toList.flatMap escape ++ ['"'])

end AppOperator.Quoted
