/-!
# Base64

The bytes of a secret travel as text in the standard alphabet with padding.
Every byte string has exactly one text: the padding is required and the bits
it stands for are zero. Main statement: decoding the text of some bytes
gives them back (`decode?_encode`).

Three bytes are four characters, and one or two bytes at the end are two or three
characters with padding. The functions are recursions on these groups, so each law is
proved for a group and then by induction.
-/

namespace AppOperator.Base64

/-- The character of six bits. -/
def sextetChar (n : Nat) : Char :=
  if n < 26 then Char.ofNat ('A'.toNat + n)
  else if n < 52 then Char.ofNat ('a'.toNat + (n - 26))
  else if n < 62 then Char.ofNat ('0'.toNat + (n - 52))
  else if n = 62 then '+' else '/'

/-- The six bits of a character of the alphabet. -/
def sextet? (c : Char) : Option Nat :=
  if 'A' ≤ c ∧ c ≤ 'Z' then some (c.toNat - 'A'.toNat)
  else if 'a' ≤ c ∧ c ≤ 'z' then some (c.toNat - 'a'.toNat + 26)
  else if '0' ≤ c ∧ c ≤ '9' then some (c.toNat - '0'.toNat + 52)
  else if c = '+' then some 62
  else if c = '/' then some 63
  else none

/-- The characters of some bytes, three bytes to four characters. -/
def encodeBytes : List UInt8 → List Char
  | [] => []
  | [a] =>
    let n := a.toNat
    [sextetChar (n / 4), sextetChar (n % 4 * 16), '=', '=']
  | [a, b] =>
    let n := a.toNat * 256 + b.toNat
    [sextetChar (n / 1024), sextetChar (n / 16 % 64), sextetChar (n % 16 * 4), '=']
  | a :: b :: c :: rest =>
    let n := a.toNat * 65536 + b.toNat * 256 + c.toNat
    sextetChar (n / 262144) :: sextetChar (n / 4096 % 64) :: sextetChar (n / 64 % 64)
      :: sextetChar (n % 64) :: encodeBytes rest

/-- The bytes of some characters, if those are the characters of bytes. -/
def decodeChars : List Char → Option (List UInt8)
  | [] => some []
  | [a, b, '=', '='] => do
    let n := (← sextet? a) * 64 + (← sextet? b)
    if n % 16 = 0 then return [UInt8.ofNat (n / 16)] else none
  | [a, b, c, '='] => do
    let n := (← sextet? a) * 4096 + (← sextet? b) * 64 + (← sextet? c)
    if n % 4 = 0 then return [UInt8.ofNat (n / 1024), UInt8.ofNat (n / 4 % 256)] else none
  | a :: b :: c :: d :: rest => do
    let n := (← sextet? a) * 262144 + (← sextet? b) * 4096 + (← sextet? c) * 64 + (← sextet? d)
    let bytes ← decodeChars rest
    return UInt8.ofNat (n / 65536) :: UInt8.ofNat (n / 256 % 256) :: UInt8.ofNat (n % 256) :: bytes
  | _ => none

/-- **The text of some bytes.** -/
def encode (bytes : List UInt8) : String := String.ofList (encodeBytes bytes)

/-- **The bytes of a text**, if it is the text of some bytes. -/
def decode? (text : String) : Option (List UInt8) := decodeChars text.toList

theorem sextet?_sextetChar : ∀ n < 64, sextet? (sextetChar n) = some n := by decide

theorem sextetChar_ne_pad : ∀ n < 64, sextetChar n ≠ '=' := by decide

theorem decodeChars_one {a b : Nat} (ha : a < 64) (hb : b < 64) :
    decodeChars [sextetChar a, sextetChar b, '=', '=']
      = if (a * 64 + b) % 16 = 0 then some [UInt8.ofNat ((a * 64 + b) / 16)] else none := by
  rw [decodeChars]
  simp only [sextet?_sextetChar a ha, sextet?_sextetChar b hb]
  rfl

theorem decodeChars_two {a b c : Nat} (ha : a < 64) (hb : b < 64) (hc : c < 64) :
    decodeChars [sextetChar a, sextetChar b, sextetChar c, '=']
      = if (a * 4096 + b * 64 + c) % 4 = 0 then
          some [UInt8.ofNat ((a * 4096 + b * 64 + c) / 1024),
            UInt8.ofNat ((a * 4096 + b * 64 + c) / 4 % 256)]
        else none := by
  rw [decodeChars]
  · simp only [sextet?_sextetChar a ha, sextet?_sextetChar b hb, sextet?_sextetChar c hc]
    rfl
  · intro h; exact absurd h (sextetChar_ne_pad c hc)

theorem decodeChars_three {a b c d : Nat} (ha : a < 64) (hb : b < 64) (hc : c < 64)
    (hd : d < 64) (rest : List Char) :
    decodeChars (sextetChar a :: sextetChar b :: sextetChar c :: sextetChar d :: rest)
      = (decodeChars rest).map (fun bytes =>
          UInt8.ofNat ((a * 262144 + b * 4096 + c * 64 + d) / 65536)
            :: UInt8.ofNat ((a * 262144 + b * 4096 + c * 64 + d) / 256 % 256)
            :: UInt8.ofNat ((a * 262144 + b * 4096 + c * 64 + d) % 256) :: bytes) := by
  rw [decodeChars]
  · simp only [sextet?_sextetChar a ha, sextet?_sextetChar b hb, sextet?_sextetChar c hc,
      sextet?_sextetChar d hd]
    cases decodeChars rest <;> rfl
  · intro h; exact absurd h (sextetChar_ne_pad c hc)
  · intro h; exact absurd h (sextetChar_ne_pad d hd)

theorem decodeChars_encodeBytes (bytes : List UInt8) :
    decodeChars (encodeBytes bytes) = some bytes := by
  fun_induction encodeBytes bytes with
  | case1 => rfl
  | case2 a n =>
    have ha : n < 256 := a.toNat_lt
    rw [decodeChars_one (by omega) (by omega), if_pos (by omega),
      show (n / 4 * 64 + n % 4 * 16) / 16 = a.toNat by omega, UInt8.ofNat_toNat]
  | case3 a b n =>
    have ha : a.toNat < 256 := a.toNat_lt
    have hb : b.toNat < 256 := b.toNat_lt
    have hn : n = a.toNat * 256 + b.toNat := rfl
    clear_value n
    rw [decodeChars_two (by omega) (by omega) (by omega), if_pos (by omega),
      show (n / 1024 * 4096 + n / 16 % 64 * 64 + n % 16 * 4) / 1024 = a.toNat by omega,
      show (n / 1024 * 4096 + n / 16 % 64 * 64 + n % 16 * 4) / 4 % 256 = b.toNat by omega,
      UInt8.ofNat_toNat, UInt8.ofNat_toNat]
  | case4 a b c rest n ih =>
    have ha : a.toNat < 256 := a.toNat_lt
    have hb : b.toNat < 256 := b.toNat_lt
    have hc : c.toNat < 256 := c.toNat_lt
    have hn : n = a.toNat * 65536 + b.toNat * 256 + c.toNat := rfl
    clear_value n
    rw [decodeChars_three (by omega) (by omega) (by omega) (by omega), ih,
      show n / 262144 * 262144 + n / 4096 % 64 * 4096 + n / 64 % 64 * 64 + n % 64 = n by omega,
      show n / 65536 = a.toNat by omega, show n / 256 % 256 = b.toNat by omega,
      show n % 256 = c.toNat by omega]
    simp

/-- **Decoding undoes encoding.** -/
@[simp] theorem decode?_encode (bytes : List UInt8) : decode? (encode bytes) = some bytes := by
  simp [decode?, encode, decodeChars_encodeBytes]

end AppOperator.Base64
