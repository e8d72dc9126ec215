/-!
# Base64

The standard alphabet with padding: three bytes are four characters, and a last
group of one or two bytes is filled up with `=`. `decode?` reads exactly what
`encode` writes.
-/

namespace Courier.Base64

/-- The character of a value below 64. -/
def symbol (n : Nat) : Char :=
  if n < 26 then Char.ofNat ('A'.toNat + n)
  else if n < 52 then Char.ofNat ('a'.toNat + (n - 26))
  else if n < 62 then Char.ofNat ('0'.toNat + (n - 52))
  else if n = 62 then '+' else '/'

/-- The value of a character of the alphabet. -/
def value? (c : Char) : Option Nat :=
  if 'A' ≤ c ∧ c ≤ 'Z' then some (c.toNat - 'A'.toNat)
  else if 'a' ≤ c ∧ c ≤ 'z' then some (c.toNat - 'a'.toNat + 26)
  else if '0' ≤ c ∧ c ≤ '9' then some (c.toNat - '0'.toNat + 52)
  else if c = '+' then some 62
  else if c = '/' then some 63
  else none

/-- Bytes as text, three of them as four characters, filled up at the end. -/
def encode : List UInt8 → List Char
  | [] => []
  | [a] =>
      let n := a.toNat
      [symbol (n / 4), symbol (n % 4 * 16), '=', '=']
  | [a, b] =>
      let n := a.toNat * 256 + b.toNat
      [symbol (n / 1024), symbol (n / 16 % 64), symbol (n % 16 * 4), '=']
  | a :: b :: c :: rest =>
      let n := (a.toNat * 256 + b.toNat) * 256 + c.toNat
      symbol (n / 262144) :: symbol (n / 4096 % 64) :: symbol (n / 64 % 64) :: symbol (n % 64) ::
        encode rest

/-- The bytes a text encodes, if its padding stands at the end and its unused bits are zero. -/
def decode? : List Char → Option (List UInt8)
  | [] => some []
  | [w, x, '=', '='] => do
      let w ← value? w
      let x ← value? x
      if x % 16 = 0 then return [UInt8.ofNat (w * 4 + x / 16)] else none
  | [w, x, y, '='] => do
      let w ← value? w
      let x ← value? x
      let y ← value? y
      let n := (w * 64 + x) * 16 + y / 4
      if y % 4 = 0 then return [UInt8.ofNat (n / 256), UInt8.ofNat (n % 256)] else none
  | w :: x :: y :: z :: rest => do
      let w ← value? w
      let x ← value? x
      let y ← value? y
      let z ← value? z
      let n := ((w * 64 + x) * 64 + y) * 64 + z
      let rest ← decode? rest
      return UInt8.ofNat (n / 65536) :: UInt8.ofNat (n / 256 % 256) :: UInt8.ofNat (n % 256) :: rest
  | _ => none

theorem value_symbol {n : Nat} (h : n < 64) : value? (symbol n) = some n := by
  have all : ∀ k < 64, value? (symbol k) = some k := by decide
  exact all n h

theorem symbol_ne_pad {n : Nat} (h : n < 64) : symbol n ≠ '=' := by
  have all : ∀ k < 64, symbol k ≠ '=' := by decide
  exact all n h

end Courier.Base64
