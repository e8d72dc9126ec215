import Courier.Base64
import Mathlib

/-!
# The bits of Base64

Base64 is defined by bits: those of all bytes, one after the other, are cut into groups of six,
zeros fill the last group, each group has its character of the alphabet, and the text is padded
to a multiple of four. The encoder never sees a bit. It divides a number of three bytes by powers
of 64, and has rules of its own for a last one or two bytes.

Both come to the same because bits of a number are bits of its quotient and its remainder. That is
shown for three bytes, and where bytes are missing for three bytes of which the last are zero. The
definition leaves no choice, so the text of bytes is this one and no other; and the decoder reads
this text and no other as these bytes.
-/

namespace Courier.Base64

/-! ## The alphabet -/

/-- The characters that stand for six bits each, in the order of their values. -/
def alphabet : List Char :=
  "ABCDEFGHIJKLMNOPQRSTUVWXYZabcdefghijklmnopqrstuvwxyz0123456789+/".toList

theorem getD_alphabet {n : Nat} (h : n < 64) : alphabet.getD n '=' = symbol n := by
  have all : ∀ k < 64, alphabet[k]? = some (symbol k) := by decide
  rw [List.getD_eq_getElem?_getD, all n h, Option.getD_some]

theorem toNat_lt_of_value? {c : Char} {n : Nat} (h : value? c = some n) : c.toNat < 128 := by
  have hle : ∀ {a b : Char}, a ≤ b ↔ a.toNat ≤ b.toNat := Iff.rfl
  unfold value? at h
  simp only [hle, Char.reduceToNat] at h
  split at h
  · omega
  split at h
  · omega
  split at h
  · omega
  split at h
  · next hc => rw [hc]; decide
  split at h
  · next hc => rw [hc]; decide
  · cases h

theorem value?_eq_some_iff {c : Char} {n : Nat} : value? c = some n ↔ n < 64 ∧ symbol n = c := by
  constructor
  · intro h
    have all : ∀ k < 128, ∀ v ∈ value? (Char.ofNat k), v < 64 ∧ symbol v = Char.ofNat k := by
      decide
    have hc := all c.toNat (toNat_lt_of_value? h) n
    rw [Char.ofNat_toNat] at hc
    exact hc h
  · rintro ⟨h, rfl⟩
    exact value_symbol h

/-! ## Decoding undoes encoding -/

section Groups

variable {p q r s : Nat} (hp : p < 64) (hq : q < 64) (hr : r < 64) (hs : s < 64)

include hp hq

theorem decode?_one : decode? [symbol p, symbol q, '=', '='] =
    if q % 16 = 0 then some [UInt8.ofNat (p * 4 + q / 16)] else none := by
  simp [decode?, value_symbol hp, value_symbol hq]

include hr

theorem decode?_two : decode? [symbol p, symbol q, symbol r, '='] =
    if r % 4 = 0 then
      some [UInt8.ofNat (((p * 64 + q) * 16 + r / 4) / 256),
        UInt8.ofNat (((p * 64 + q) * 16 + r / 4) % 256)]
    else none := by
  rw [decode?.eq_3 _ _ _ (symbol_ne_pad hr), value_symbol hp, value_symbol hq, value_symbol hr]
  rfl

include hs

theorem decode?_three (rest : List Char) :
    decode? (symbol p :: symbol q :: symbol r :: symbol s :: rest) =
      (decode? rest).map fun bytes =>
        UInt8.ofNat ((((p * 64 + q) * 64 + r) * 64 + s) / 65536) ::
          UInt8.ofNat ((((p * 64 + q) * 64 + r) * 64 + s) / 256 % 256) ::
          UInt8.ofNat ((((p * 64 + q) * 64 + r) * 64 + s) % 256) :: bytes := by
  have hpad := symbol_ne_pad hs
  rw [decode?.eq_4 _ _ _ _ _ (fun _ h => absurd h hpad) (fun h => absurd h hpad),
    value_symbol hp, value_symbol hq, value_symbol hr, value_symbol hs]
  cases decode? rest <;> rfl

end Groups

theorem ofNat_eq {n : Nat} (a : UInt8) (h : n = a.toNat) : UInt8.ofNat n = a := by
  rw [h, UInt8.ofNat_toNat]

theorem decode?_encode (bytes : List UInt8) : decode? (encode bytes) = some bytes := by
  induction bytes using encode.induct with
  | case1 => rfl
  | case2 a =>
      have ha := a.toNat_lt
      rw [encode, decode?_one (by omega) (by omega), if_pos (by omega)]
      rw [ofNat_eq a (by omega)]
  | case3 a b =>
      have ha := a.toNat_lt
      have hb := b.toNat_lt
      rw [encode, decode?_two (by omega) (by omega) (by omega), if_pos (by omega)]
      rw [ofNat_eq a (by omega), ofNat_eq b (by omega)]
  | case4 a b c rest ih =>
      have ha := a.toNat_lt
      have hb := b.toNat_lt
      have hc := c.toNat_lt
      rw [encode, decode?_three (by omega) (by omega) (by omega) (by omega), ih, Option.map_some]
      rw [ofNat_eq a (by omega), ofNat_eq b (by omega), ofNat_eq c (by omega)]

theorem eq_encode_of_decode? {text : List Char} {bytes : List UInt8}
    (h : decode? text = some bytes) : text = encode bytes := by
  have htoNat : ∀ {n : Nat}, n < 256 → (UInt8.ofNat n).toNat = n :=
    fun hn => UInt8.toNat_ofNat_of_lt' hn
  induction text using decode?.induct generalizing bytes with
  | case1 =>
      cases h
      rfl
  | case2 w x =>
      simp only [decode?, Option.bind_eq_bind, Option.bind_eq_some_iff, value?_eq_some_iff] at h
      obtain ⟨p, ⟨hp, rfl⟩, q, ⟨hq, rfl⟩, h⟩ := h
      split at h
      · next hfill =>
          cases h
          rw [encode, htoNat (by omega), show (p * 4 + q / 16) / 4 = p by omega,
            show (p * 4 + q / 16) % 4 * 16 = q by omega]
      · cases h
  | case3 w x y hy =>
      simp only [decode?.eq_3 _ _ _ hy, Option.bind_eq_bind, Option.bind_eq_some_iff,
        value?_eq_some_iff] at h
      obtain ⟨p, ⟨hp, rfl⟩, q, ⟨hq, rfl⟩, r, ⟨hr, rfl⟩, h⟩ := h
      split at h
      · next hfill =>
          cases h
          rw [encode, htoNat (by omega), htoNat (by omega), Nat.div_add_mod',
            show ((p * 64 + q) * 16 + r / 4) / 1024 = p by omega,
            show ((p * 64 + q) * 16 + r / 4) / 16 % 64 = q by omega,
            show ((p * 64 + q) * 16 + r / 4) % 16 * 4 = r by omega]
      · cases h
  | case4 w x y z rest hyz hz ih =>
      simp only [decode?.eq_4 _ _ _ _ _ hyz hz, Option.bind_eq_bind, Option.bind_eq_some_iff,
        value?_eq_some_iff] at h
      obtain ⟨p, ⟨hp, rfl⟩, q, ⟨hq, rfl⟩, r, ⟨hr, rfl⟩, s, ⟨hs, rfl⟩, bytes, hrest, h⟩ := h
      cases h
      have hbytes : ∀ n, (n / 65536 * 256 + n / 256 % 256) * 256 + n % 256 = n := by omega
      rw [encode, htoNat (by omega), htoNat (by omega), htoNat (by omega), hbytes, ← ih hrest,
        show (((p * 64 + q) * 64 + r) * 64 + s) / 262144 = p by omega,
        show (((p * 64 + q) * 64 + r) * 64 + s) / 4096 % 64 = q by omega,
        show (((p * 64 + q) * 64 + r) * 64 + s) / 64 % 64 = r by omega,
        show (((p * 64 + q) * 64 + r) * 64 + s) % 64 = s by omega]
  | case5 text h0 h1 h2 h3 =>
      rw [decode?.eq_5] at h
      cases h
      all_goals assumption

/-- Only what encodes the bytes is read as them. -/
theorem decode?_eq_some_iff {text : List Char} {bytes : List UInt8} :
    decode? text = some bytes ↔ text = encode bytes := by
  constructor
  · exact eq_encode_of_decode?
  · rintro rfl
    exact decode?_encode bytes

theorem length_encode (bytes : List UInt8) :
    (encode bytes).length = 4 * ((bytes.length + 2) / 3) := by
  induction bytes using encode.induct with
  | case1 => rfl
  | case2 | case3 => simp [encode]
  | case4 a b c rest ih =>
      simp only [encode, List.length_cons, ih]
      omega

/-! ## The bits in groups of six -/

/-- The lowest bits of a number, the highest of them first. -/
def bits : Nat → Nat → List Bool
  | 0, _ => []
  | width + 1, n => n.testBit width :: bits width n

theorem length_bits (width n : Nat) : (bits width n).length = width := by
  induction width with
  | zero => rfl
  | succ width ih => rw [bits, List.length_cons, ih]

theorem bits_zero (width : Nat) : bits width 0 = List.replicate width false := by
  induction width with
  | zero => rfl
  | succ width ih => rw [bits, ih, Nat.zero_testBit, List.replicate_succ]

/-- What stands above the bits that are read makes no difference. -/
theorem bits_add_of_le {width above y : Nat} (x : Nat) (hy : y < 2 ^ above) (h : width ≤ above) :
    bits width (x * 2 ^ above + y) = bits width y := by
  induction width with
  | zero => rfl
  | succ width ih =>
      rw [bits, bits, ih (by omega), Nat.mul_comm, Nat.testBit_two_pow_mul_add x hy,
        if_pos (by omega)]

theorem bits_append (width below x : Nat) {y : Nat} (hy : y < 2 ^ below) :
    bits (width + below) (x * 2 ^ below + y) = bits width x ++ bits below y := by
  induction width with
  | zero => rw [Nat.zero_add, bits_add_of_le x hy le_rfl, bits, List.nil_append]
  | succ width ih =>
      have htop : (x * 2 ^ below + y).testBit (width + below) = x.testBit width := by
        rw [Nat.mul_comm, Nat.testBit_two_pow_mul_add x hy, if_neg (by omega),
          Nat.add_sub_cancel]
      rw [Nat.add_right_comm, bits, htop, ih, bits, List.cons_append]

theorem bits_eq_iff {width x y : Nat} :
    bits width x = bits width y ↔ ∀ i < width, x.testBit i = y.testBit i := by
  induction width with
  | zero => simp [bits]
  | succ width ih =>
      rw [bits, bits, List.cons.injEq, ih]
      constructor
      · rintro ⟨htop, hrest⟩ i hi
        rcases Nat.lt_succ_iff_lt_or_eq.1 hi with hi | rfl
        · exact hrest i hi
        · exact htop
      · intro h
        exact ⟨h width (by omega), fun i hi => h i (by omega)⟩

theorem bits_inj {width x y : Nat} (hx : x < 2 ^ width) (hy : y < 2 ^ width)
    (h : bits width x = bits width y) : x = y := by
  refine Nat.eq_of_testBit_eq fun i => ?_
  by_cases hi : i < width
  · exact bits_eq_iff.1 h i hi
  · have hle : 2 ^ width ≤ 2 ^ i := Nat.pow_le_pow_right (by omega) (by omega)
    rw [Nat.testBit_lt_two_pow (by omega), Nat.testBit_lt_two_pow (by omega)]

/-- The bits of the bytes in groups of six, with zeros to fill the last group. -/
structure Regroups (bytes : List UInt8) (groups : List Nat) (fill : Nat) : Prop where
  bits_eq : groups.flatMap (bits 6) =
    bytes.flatMap (fun b => bits 8 b.toNat) ++ List.replicate fill false
  bounded : ∀ g ∈ groups, g < 64
  fill_lt : fill < 6

/-- The characters of the groups, padded to a multiple of four. -/
structure Pads (groups : List Nat) (padding : Nat) (text : List Char) : Prop where
  text_eq : text = groups.map (alphabet.getD · '=') ++ List.replicate padding '='
  padding_lt : padding < 4
  four_dvd : 4 ∣ text.length

/-- Base64 as it is defined: by the bits, and not by how they are reckoned. -/
def Written (bytes : List UInt8) (text : List Char) : Prop :=
  ∃ groups fill padding, Regroups bytes groups fill ∧ Pads groups padding text

/-! ### Three bytes and fewer -/

theorem bits_four {w x y z : Nat} (hx : x < 64) (hy : y < 64) (hz : z < 64) :
    bits 24 (((w * 64 + x) * 64 + y) * 64 + z) =
      bits 6 w ++ (bits 6 x ++ (bits 6 y ++ bits 6 z)) := by
  have hlast : bits 24 (((w * 64 + x) * 64 + y) * 64 + z) = _ ++ bits 6 z := bits_append 18 6 _ hz
  have hthird : bits 18 ((w * 64 + x) * 64 + y) = _ ++ bits 6 y := bits_append 12 6 _ hy
  have hsecond : bits 12 (w * 64 + x) = _ ++ bits 6 x := bits_append 6 6 _ hx
  rw [hlast, hthird, hsecond, List.append_assoc, List.append_assoc]

theorem bits_three {a b c : Nat} (hb : b < 256) (hc : c < 256) :
    bits 24 ((a * 256 + b) * 256 + c) = bits 8 a ++ (bits 8 b ++ bits 8 c) := by
  have hlast : bits 24 ((a * 256 + b) * 256 + c) = _ ++ bits 8 c := bits_append 16 8 _ hc
  have hsecond : bits 16 (a * 256 + b) = _ ++ bits 8 b := bits_append 8 8 _ hb
  rw [hlast, hsecond, List.append_assoc]

theorem regroup {a b c w x y z : Nat} (hb : b < 256) (hc : c < 256) (hx : x < 64) (hy : y < 64)
    (hz : z < 64) (h : ((w * 64 + x) * 64 + y) * 64 + z = (a * 256 + b) * 256 + c) :
    bits 6 w ++ (bits 6 x ++ (bits 6 y ++ bits 6 z)) = bits 8 a ++ (bits 8 b ++ bits 8 c) := by
  rw [← bits_four hx hy hz, h, bits_three hb hc]

/-- Where bytes are missing there are zeros, of which only those count that fill a group. -/
theorem regroups_one {a : UInt8} : Regroups [a] [a.toNat / 4, a.toNat % 4 * 16] 4 := by
  have ha := a.toNat_lt
  have h := regroup (a := a.toNat) (b := 0) (c := 0) (w := a.toNat / 4) (x := a.toNat % 4 * 16)
    (y := 0) (z := 0) (by omega) (by omega) (by omega) (by omega) (by omega) (by omega)
  refine ⟨(List.append_left_inj (List.replicate 12 false)).1 ?_, by simp; omega, by omega⟩
  simpa [bits_zero] using h

theorem regroups_two {a b : UInt8} :
    let n := a.toNat * 256 + b.toNat
    Regroups [a, b] [n / 1024, n / 16 % 64, n % 16 * 4] 2 := by
  intro n
  have ha := a.toNat_lt
  have hb := b.toNat_lt
  have h := regroup (a := a.toNat) (c := 0) (w := n / 1024) (x := n / 16 % 64) (y := n % 16 * 4)
    (z := 0) hb (by omega) (by omega) (by omega) (by omega) (by omega)
  refine ⟨(List.append_left_inj (List.replicate 6 false)).1 ?_, by simp; omega, by omega⟩
  simpa [bits_zero] using h

theorem Regroups.three {a b c : UInt8} {bytes : List UInt8} {groups : List Nat} {fill : Nat}
    (h : Regroups bytes groups fill) :
    let n := (a.toNat * 256 + b.toNat) * 256 + c.toNat
    Regroups (a :: b :: c :: bytes)
      (n / 262144 :: n / 4096 % 64 :: n / 64 % 64 :: n % 64 :: groups) fill := by
  intro n
  have ha := a.toNat_lt
  have hb := b.toNat_lt
  have hc := c.toNat_lt
  have hbits := regroup (a := a.toNat) (w := n / 262144) (x := n / 4096 % 64) (y := n / 64 % 64)
    (z := n % 64) hb hc (by omega) (by omega) (by omega) (by omega)
  refine ⟨?_, ?_, h.fill_lt⟩
  · simp only [List.flatMap_cons, h.bits_eq, ← List.append_assoc] at hbits ⊢
    rw [hbits]
  · have hbounded := h.bounded
    simp only [List.forall_mem_cons]
    exact ⟨by omega, by omega, by omega, by omega, hbounded⟩

theorem written_encode (bytes : List UInt8) : Written bytes (encode bytes) := by
  suffices h : ∃ groups fill padding, Regroups bytes groups fill ∧ padding < 4 ∧
      encode bytes = groups.map symbol ++ List.replicate padding '=' by
    obtain ⟨groups, fill, padding, hgroups, hpadding, htext⟩ := h
    refine ⟨groups, fill, padding, hgroups, ?_, hpadding, ?_⟩
    · rw [htext, List.map_congr_left fun g hg => getD_alphabet (hgroups.bounded g hg)]
    · rw [length_encode]
      exact Nat.dvd_mul_right 4 _
  induction bytes using encode.induct with
  | case1 => exact ⟨[], 0, 0, ⟨rfl, by simp, by omega⟩, by omega, rfl⟩
  | case2 a => exact ⟨_, 4, 2, regroups_one, by omega, rfl⟩
  | case3 a b => exact ⟨_, 2, 1, regroups_two, by omega, rfl⟩
  | case4 a b c rest ih =>
      obtain ⟨groups, fill, padding, hgroups, hpadding, htext⟩ := ih
      refine ⟨_, fill, padding, hgroups.three, hpadding, ?_⟩
      rw [encode, htext]
      rfl

theorem Written.mem_alphabet {bytes : List UInt8} {text : List Char} (h : Written bytes text) :
    ∀ c ∈ text, c ∈ alphabet ∨ c = '=' := by
  obtain ⟨groups, fill, padding, hgroups, hpads⟩ := h
  intro c hc
  rw [hpads.text_eq] at hc
  rcases List.mem_append.1 hc with hc | hc
  · obtain ⟨g, hg, rfl⟩ := List.mem_map.1 hc
    have hlt : g < alphabet.length := hgroups.bounded g hg
    rw [List.getD_eq_getElem alphabet '=' hlt]
    exact .inl (List.getElem_mem hlt)
  · exact .inr (List.eq_of_mem_replicate hc)

/-! ### There is one way to write bytes -/

theorem length_flatMap_bits (width : Nat) (groups : List Nat) :
    (groups.flatMap (bits width)).length = groups.length * width := by
  simp [List.length_flatMap, length_bits]

theorem eq_of_flatMap_bits {groups groups' : List Nat} (hg : ∀ g ∈ groups, g < 64)
    (hg' : ∀ g ∈ groups', g < 64) (h : groups.flatMap (bits 6) = groups'.flatMap (bits 6)) :
    groups = groups' := by
  induction groups generalizing groups' with
  | nil =>
      cases groups' with
      | nil => rfl
      | cons g' groups' => cases h
  | cons g groups ih =>
      cases groups' with
      | nil => cases h
      | cons g' groups' =>
          obtain ⟨hlt, hrest⟩ := List.forall_mem_cons.1 hg
          obtain ⟨hlt', hrest'⟩ := List.forall_mem_cons.1 hg'
          have hlength : (bits 6 g).length = (bits 6 g').length := by
            rw [length_bits, length_bits]
          obtain ⟨hfirst, hothers⟩ := List.append_inj h hlength
          rw [bits_inj hlt hlt' hfirst, ih hrest hrest' hothers]

variable {bytes : List UInt8} {groups groups' : List Nat} {text text' : List Char}

theorem Regroups.length_eq {fill : Nat} (h : Regroups bytes groups fill) :
    groups.length * 6 = bytes.length * 8 + fill := by
  have hlength := congrArg List.length h.bits_eq
  rw [length_flatMap_bits, List.length_append, List.length_replicate] at hlength
  rw [hlength]
  simp [List.length_flatMap, length_bits]

theorem Regroups.unique {fill fill' : Nat} (h : Regroups bytes groups fill)
    (h' : Regroups bytes groups' fill') : groups = groups' := by
  have hlength := h.length_eq
  have hlength' := h'.length_eq
  have hfill := h.fill_lt
  have hfill' := h'.fill_lt
  have hsame : fill = fill' := by omega
  subst hsame
  exact eq_of_flatMap_bits h.bounded h'.bounded (h.bits_eq.trans h'.bits_eq.symm)

theorem Pads.unique {padding padding' : Nat} (h : Pads groups padding text)
    (h' : Pads groups padding' text') : text = text' := by
  have hlength := congrArg List.length h.text_eq
  have hlength' := congrArg List.length h'.text_eq
  have hfour := h.four_dvd
  have hfour' := h'.four_dvd
  have hlt := h.padding_lt
  have hlt' := h'.padding_lt
  rw [List.length_append, List.length_map, List.length_replicate] at hlength hlength'
  have hsame : padding = padding' := by omega
  rw [h.text_eq, h'.text_eq, hsame]

/-- The text of bytes is the one that is written with their bits. -/
theorem written_iff : Written bytes text ↔ text = encode bytes := by
  constructor
  · rintro ⟨groups, fill, padding, hgroups, hpads⟩
    obtain ⟨groups', fill', padding', hgroups', hpads'⟩ := written_encode bytes
    rw [← hgroups.unique hgroups'] at hpads'
    exact hpads.unique hpads'
  · rintro rfl
    exact written_encode bytes

end Courier.Base64
