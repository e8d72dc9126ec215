/-!
# UTF-8

Bytes of a text, and the text of bytes. Reading has a strict form, which refuses
anything that no text encodes to, and a lenient one, which puts U+FFFD in the
place of each maximal stretch of bytes that begins a character and does not
complete it.
-/

namespace Courier.Text

/-- The bytes of a text. -/
def utf8 (cs : List Char) : List UInt8 := cs.flatMap String.utf8EncodeChar

/-- What a first byte announces: how many bytes follow, the bits it brings, and
the range of the second byte. -/
structure Lead where
  following : Nat
  bits : Nat
  low : Nat
  high : Nat

/-- Overlong forms, surrogates and numbers above U+10FFFF show in the second byte. -/
def lead? (b : Nat) : Option Lead :=
  if b < 0x80 then some ⟨0, b, 0x80, 0xbf⟩
  else if b < 0xc2 then none
  else if b < 0xe0 then some ⟨1, b - 0xc0, 0x80, 0xbf⟩
  else if b < 0xf0 then
    some ⟨2, b - 0xe0, if b = 0xe0 then 0xa0 else 0x80, if b = 0xed then 0x9f else 0xbf⟩
  else if b < 0xf5 then
    some ⟨3, b - 0xf0, if b = 0xf0 then 0x90 else 0x80, if b = 0xf4 then 0x8f else 0xbf⟩
  else none

/-- A character in the making. -/
structure Unfinished where
  missing : Nat
  bits : Nat
  low : Nat
  high : Nat

/-- The character that stands for bytes which are no text. -/
def replacement : Char := '\ufffd'

/-- Starts a character with this byte: what is finished by it, and what is open. -/
def begin (b : Nat) : List Char × Option Unfinished :=
  match lead? b with
  | none => ([replacement], none)
  | some l =>
      if l.following = 0 then ([Char.ofNat l.bits], none)
      else ([], some ⟨l.following, l.bits, l.low, l.high⟩)

/-- Reads one more byte. -/
def push (st : Option Unfinished) (b : Nat) : List Char × Option Unfinished :=
  match st with
  | none => begin b
  | some p =>
      if p.low ≤ b ∧ b ≤ p.high then
        let bits := p.bits * 64 + (b - 0x80)
        if p.missing ≤ 1 then ([Char.ofNat bits], none)
        else ([], some ⟨p.missing - 1, bits, 0x80, 0xbf⟩)
      else
        let (cs, st) := begin b
        (replacement :: cs, st)

/-- The text of bytes, with a replacement for all that is none. -/
def readLenient (st : Option Unfinished) : List UInt8 → List Char
  | [] => if st.isSome then [replacement] else []
  | b :: rest =>
      let (cs, st) := push st b.toNat
      cs ++ readLenient st rest

/-- The text of these bytes, with U+FFFD where they are none. -/
def ofUtf8Lenient (bytes : List UInt8) : List Char := readLenient none bytes

/-- The text that encodes to these bytes. -/
def ofUtf8? (bytes : List UInt8) : Option (List Char) :=
  let cs := ofUtf8Lenient bytes
  if utf8 cs = bytes then some cs else none

end Courier.Text
