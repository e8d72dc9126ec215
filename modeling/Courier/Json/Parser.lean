import Courier.Json.Basic
import Courier.Number.Word
import Courier.Text.Digit

/-!
# Reading JSON

The reader is strict: nothing but blanks may follow the value, at most 127 arrays
and objects may be open at once, strings hold no raw control characters and no
half of a surrogate pair, and a number has to fit a double. Of two members with
one key the later counts.

Recursion is on fuel that covers two calls for every character, which no text
uses up: each call of `value` reads a character before it calls on, and each
call of `items` or `members` reads a value and a separator before it calls itself.
-/

namespace Courier.Json.Parser

/-- The open arrays and objects a reader allows. -/
def maxDepth : Nat := 127

/-- The blanks that may stand between tokens. -/
def isSpace (c : Char) : Bool := c == ' ' || c == '\n' || c == '\t' || c == '\r'

/-- What follows the blanks. -/
def skip (cs : List Char) : List Char := cs.dropWhile isSpace

/-- A digit of the base ten. -/
def isDigit (c : Char) : Bool := '0' ≤ c && c ≤ '9'

/-- Four hexadecimal digits. -/
def unit16? (a b c d : Char) : Option Nat := do
  let a ← Text.hexValue? a
  let b ← Text.hexValue? b
  let c ← Text.hexValue? c
  let d ← Text.hexValue? d
  return ((a * 16 + b) * 16 + c) * 16 + d

/-- The character an escape letter stands for, `u` apart. -/
def letterEscape? : Char → Option Char
  | '"' => some '"'
  | '\\' => some '\\'
  | '/' => some '/'
  | 'b' => some '\x08'
  | 'f' => some '\x0c'
  | 'n' => some '\n'
  | 'r' => some '\r'
  | 't' => some '\t'
  | _ => none

/-- The rest of a string after its opening quote; `acc` holds what was read, reversed. -/
def string? (acc : List Char) : List Char → Option (String × List Char)
  | '"' :: rest => some (String.ofList acc.reverse, rest)
  | '\\' :: 'u' :: a :: b :: c :: d :: rest => do
      let hi ← unit16? a b c d
      if hi < 0xd800 ∨ 0xdfff < hi then string? (Char.ofNat hi :: acc) rest
      else if 0xdc00 ≤ hi then none
      else
        match rest with
        | '\\' :: 'u' :: e :: f :: g :: h :: rest => do
            let lo ← unit16? e f g h
            if 0xdc00 ≤ lo ∧ lo ≤ 0xdfff then
              string? (Char.ofNat (0x10000 + (hi - 0xd800) * 0x400 + (lo - 0xdc00)) :: acc) rest
            else none
        | _ => none
  | '\\' :: c :: rest => do
      let c ← letterEscape? c
      string? (c :: acc) rest
  | c :: rest => if c.toNat < 0x20 then none else string? (c :: acc) rest
  | [] => none

/-- Adds digits while the number fits 64 bits; also the digits left over. -/
def takeDigits (n : Nat) : List Char → Nat × List Char
  | [] => (n, [])
  | c :: rest =>
      let next := 10 * n + (c.toNat - '0'.toNat)
      if next < wordBound then takeDigits next rest else (n, c :: rest)

/-- A number with a fraction or an exponent, or one of too many digits. -/
def double? (negative : Bool) (whole fraction : List Char) (exponent : Int) : Option Number := do
  let (n, dropped) := takeDigits 0 whole
  let (m, unread) := takeDigits n fraction
  let used := fraction.length - unread.length
  let d ← Double.ofDigits? negative m (exponent + dropped.length - used)
  return .double d

/-- A number without fraction and exponent: whole if it fits 64 bits, with `-0` a double. -/
def whole? (negative : Bool) (digits : List Char) : Option Number :=
  let (n, dropped) := takeDigits 0 digits
  if dropped.isEmpty && !negative then some (.int n)
  else if dropped.isEmpty && n != 0 && n ≤ signedBound then some (.int (-n))
  else double? negative digits [] 0

/-- The power of ten after an `e`. -/
def exponent? (cs : List Char) : Option (Int × List Char) :=
  let (negative, cs) := match cs with
    | '-' :: rest => (true, rest)
    | '+' :: rest => (false, rest)
    | _ => (false, cs)
  (Text.decimalValue? (cs.takeWhile isDigit)).map fun n =>
    (if negative then -(n : Int) else n, cs.dropWhile isDigit)

/-- A number at the beginning of the text, and what follows it. -/
def number? (cs : List Char) : Option (Number × List Char) := do
  let (negative, cs) := match cs with
    | '-' :: rest => (true, rest)
    | _ => (false, cs)
  let whole := cs.takeWhile isDigit
  let rest := cs.dropWhile isDigit
  if whole.isEmpty || (1 < whole.length && whole.head? == some '0') then none
  else
    let (fraction, rest) := match rest with
      | '.' :: rest => (some (rest.takeWhile isDigit), rest.dropWhile isDigit)
      | _ => (none, rest)
    if fraction == some [] then none
    else
      match rest with
      | 'e' :: rest | 'E' :: rest => do
          let (exponent, rest) ← exponent? rest
          return (← double? negative whole (fraction.getD []) exponent, rest)
      | _ =>
          match fraction with
          | some fraction => return (← double? negative whole fraction 0, rest)
          | none => return (← whole? negative whole, rest)

mutual

/-- A value at the beginning of the text, and what follows it; nested no deeper than
`depth`. -/
def value : Nat → Nat → List Char → Option (Json × List Char)
  | 0, _, _ => none
  | fuel + 1, depth, cs =>
      match skip cs with
      | 'n' :: 'u' :: 'l' :: 'l' :: rest => some (.null, rest)
      | 't' :: 'r' :: 'u' :: 'e' :: rest => some (.bool true, rest)
      | 'f' :: 'a' :: 'l' :: 's' :: 'e' :: rest => some (.bool false, rest)
      | '"' :: rest => (string? [] rest).map fun (s, rest) => (.str s, rest)
      | '[' :: rest =>
          match depth, skip rest with
          | 0, _ => none
          | _ + 1, ']' :: rest => some (.arr [], rest)
          | depth + 1, rest => (items fuel depth [] rest).map fun (vs, rest) => (.arr vs, rest)
      | '\x7b' :: rest =>
          match depth, skip rest with
          | 0, _ => none
          | _ + 1, '\x7d' :: rest => some (.obj [], rest)
          | depth + 1, rest => (members fuel depth [] rest).map fun (ms, rest) => (.obj ms, rest)
      | rest => (number? rest).map fun (n, rest) => (.num n, rest)

/-- The rest of an array after `acc`, up to its closing bracket. -/
def items : Nat → Nat → List Json → List Char → Option (List Json × List Char)
  | 0, _, _, _ => none
  | fuel + 1, depth, acc, cs =>
      match value fuel depth cs with
      | none => none
      | some (v, rest) =>
          match skip rest with
          | ',' :: rest => items fuel depth (v :: acc) rest
          | ']' :: rest => some ((v :: acc).reverse, rest)
          | _ => none

/-- The rest of an object after `acc`, up to its closing brace. -/
def members : Nat → Nat → Object → List Char → Option (Object × List Char)
  | 0, _, _, _ => none
  | fuel + 1, depth, acc, cs =>
      match skip cs with
      | '"' :: rest =>
          match string? [] rest with
          | none => none
          | some (key, rest) =>
              match skip rest with
              | ':' :: rest =>
                  match value fuel depth rest with
                  | none => none
                  | some (v, rest) =>
                      match skip rest with
                      | ',' :: rest => members fuel depth (acc.insert key v) rest
                      | '\x7d' :: rest => some (acc.insert key v, rest)
                      | _ => none
              | _ => none
      | _ => none

end

end Parser

/-- The value a text denotes, if it is the text of one. -/
def parse? (s : String) : Option Json :=
  let cs := s.toList
  match Parser.value (2 * cs.length + 2) Parser.maxDepth cs with
  | some (v, rest) => if (Parser.skip rest).isEmpty then some v else none
  | none => none

end Courier.Json
