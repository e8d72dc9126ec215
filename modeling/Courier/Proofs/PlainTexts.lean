import Courier.Number.Word
import Courier.Text.Blank
import Courier.Text.Digit
import Mathlib

/-!
# Blanks at the ends, and numerals

What is left of a text when the blanks at its ends are removed, and which number a run of
digits stands for, are said here without the functions that compute them. Both functions are
then exact: a text is trimmed to one text only, and a number is read where there is one.
-/

namespace Courier.Text

variable {p : Char → Bool} {cs mid : List Char}

/-- `mid` is what is left of `cs`: characters with the property have been removed from both
ends, as many as there are. -/
structure Strips (p : Char → Bool) (cs mid : List Char) : Prop where
  parts : ∃ before after, cs = before ++ mid ++ after ∧ (∀ c ∈ before, p c = true) ∧
    ∀ c ∈ after, p c = true
  first : ∀ c ∈ mid.head?, p c = false
  last : ∀ c ∈ mid.getLast?, p c = false

/-- `t` is `s` without the blanks at its ends. -/
def Trims (s t : String) : Prop := Strips isBlank s.toList t.toList

theorem strips_strip (p : Char → Bool) (cs : List Char) : Strips p cs (strip p cs) where
  parts := by
    refine ⟨cs.takeWhile p, (cs.dropWhile p).rtakeWhile p, ?_, fun c => List.mem_takeWhile_imp,
      fun c => List.mem_rtakeWhile_imp⟩
    have hright : strip p cs ++ (cs.dropWhile p).rtakeWhile p = cs.dropWhile p :=
      List.rdropWhile_append_rtakeWhile
    rw [List.append_assoc, hright, List.takeWhile_append_dropWhile]
  first := by
    intro c hc
    -- A prefix begins as the whole does.
    have hstart : strip p cs <+: cs.dropWhile p := List.rdropWhile_prefix p _
    have hhead : (cs.dropWhile p).head? = some c := by
      obtain ⟨rest, hrest⟩ := hstart
      rw [← hrest, List.head?_append, Option.mem_def.1 hc]
      rfl
    have hnot := List.head?_dropWhile_not p cs
    rwa [hhead] at hnot
  last := by
    intro c hc
    have hne : (cs.dropWhile p).rdropWhile p ≠ [] := by
      intro hnil
      have hstrip : strip p cs = [] := hnil
      rw [hstrip] at hc
      cases hc
    have hnot := List.rdropWhile_last_not p (cs.dropWhile p) hne
    have hlast : ((cs.dropWhile p).rdropWhile p).getLast hne = c :=
      Option.some.inj ((List.getLast?_eq_some_getLast hne).symm.trans hc)
    rwa [hlast, Bool.not_eq_true] at hnot

theorem Strips.eq_strip (h : Strips p cs mid) : mid = strip p cs := by
  obtain ⟨before, after, rfl, hbefore, hafter⟩ := h.parts
  have hright : (mid ++ after).rdropWhile p = mid := by
    rw [List.rdropWhile, List.reverse_append,
      List.dropWhile_append_of_pos fun c hc => hafter c (List.mem_reverse.1 hc)]
    refine List.rdropWhile_eq_self_iff.2 fun hne => ?_
    rw [h.last _ (List.getLast?_eq_some_getLast hne)]
    exact Bool.false_ne_true
  show mid = ((before ++ mid ++ after).dropWhile p).rdropWhile p
  rw [List.append_assoc, List.dropWhile_append_of_pos hbefore]
  cases mid with
  | nil =>
      rw [List.nil_append, List.dropWhile_eq_nil_iff.2 hafter]
      rfl
  | cons c mid =>
      have hc : ¬ p c = true := by
        rw [h.first c rfl]
        exact Bool.false_ne_true
      rw [List.cons_append, List.dropWhile_cons_of_neg hc, ← List.cons_append, hright]

theorem strips_iff : Strips p cs mid ↔ mid = strip p cs :=
  ⟨Strips.eq_strip, fun h => h ▸ strips_strip p cs⟩

theorem trims_iff {s t : String} : Trims s t ↔ t = trim s := by
  rw [Trims, strips_iff, trim, ← String.toList_inj, String.toList_ofList]

/-- The code points of the blanks. -/
def blankCodes : List Nat :=
  [0x9, 0xa, 0xb, 0xc, 0xd, 0x20, 0x85, 0xa0, 0x1680, 0x2000, 0x2001, 0x2002, 0x2003, 0x2004,
   0x2005, 0x2006, 0x2007, 0x2008, 0x2009, 0x200a, 0x2028, 0x2029, 0x202f, 0x205f, 0x3000]

theorem mem_blankCodes {c : Char} (h : isBlank c = true) : c.toNat ∈ blankCodes := by
  simp [isBlank] at h
  simp [blankCodes]
  omega

/-- No digit is a blank. -/
theorem isBlank_of_isDecimal {c : Char} (h : isDecimal c = true) : isBlank c = false := by
  have hall : ∀ n ∈ blankCodes,
      (decimalZeros.any fun first => first ≤ n && n < first + 10) = false := by decide
  cases hc : isBlank c with
  | false => rfl
  | true => cases (hall c.toNat (mem_blankCodes hc)).symm.trans h

/-! ## Numerals -/

/-- `cs` is a run of ASCII digits and stands for `n`, leading zeros allowed. -/
structure Numeral (cs : List Char) (n : Nat) : Prop where
  ne_nil : cs ≠ []
  digits : ∀ c ∈ cs, '0' ≤ c ∧ c ≤ '9'
  value : n = Nat.ofDigits 10 (cs.reverse.map fun c => c.toNat - '0'.toNat)

theorem digitValue?_eq_some_iff {c : Char} {d : Nat} :
    digitValue? c = some d ↔ ('0' ≤ c ∧ c ≤ '9') ∧ c.toNat - '0'.toNat = d := by
  unfold digitValue?
  rw [Option.ite_none_right_eq_some, Option.some.injEq]

/-- Reading from the left, each digit is added to ten times what came before it. -/
theorem foldl_digits_eq_some_iff (cs : List Char) (n : Nat) :
    cs.foldl (fun acc c => acc.bind fun m => (digitValue? c).map (10 * m + ·)) (some 0) =
        some n ↔
      (∀ c ∈ cs, '0' ≤ c ∧ c ≤ '9') ∧
        n = Nat.ofDigits 10 (cs.reverse.map fun c => c.toNat - '0'.toNat) := by
  induction cs using List.reverseRecOn generalizing n with
  | nil => simp [eq_comm]
  | append_singleton cs c ih =>
      rw [List.foldl_append, List.foldl_cons, List.foldl_nil, Option.bind_eq_some_iff,
        List.reverse_append, List.reverse_singleton, List.singleton_append, List.map_cons,
        Nat.ofDigits_cons, List.forall_mem_append, List.forall_mem_singleton, Nat.add_comm]
      simp only [ih, Option.map_eq_some_iff, digitValue?_eq_some_iff]
      constructor
      · rintro ⟨m, ⟨hcs, rfl⟩, d, ⟨hc, rfl⟩, rfl⟩
        exact ⟨⟨hcs, hc⟩, rfl⟩
      · rintro ⟨⟨hcs, hc⟩, rfl⟩
        exact ⟨_, ⟨hcs, rfl⟩, _, ⟨hc, rfl⟩, rfl⟩

theorem decimalValue?_eq_some_iff {n : Nat} : decimalValue? cs = some n ↔ Numeral cs n := by
  unfold decimalValue?
  split
  · next hempty =>
      have hnil : cs = [] := List.isEmpty_iff.1 hempty
      exact ⟨fun h => (by cases h), fun h => absurd hnil h.ne_nil⟩
  · next hempty =>
      have hne : cs ≠ [] := fun hnil => hempty (List.isEmpty_iff.2 hnil)
      rw [foldl_digits_eq_some_iff]
      exact ⟨fun h => ⟨hne, h.1, h.2⟩, fun h => ⟨h.digits, h.value⟩⟩

/-- The digits of the other scripts are not ASCII. -/
theorem isDecimal_ofNat : ∀ n < 128,
    (isDecimal (Char.ofNat n) = true ↔ '0' ≤ Char.ofNat n ∧ Char.ofNat n ≤ '9') := by
  decide +kernel

theorem isDecimal_iff_of_ascii {c : Char} (h : c.toNat < 128) :
    isDecimal c = true ↔ '0' ≤ c ∧ c ≤ '9' := by
  have hc := isDecimal_ofNat c.toNat h
  rwa [Char.ofNat_toNat] at hc

theorem toNat_lt_of_digit {c : Char} (h : '0' ≤ c ∧ c ≤ '9') : c.toNat < 128 := by
  have hn : c.toNat ≤ '9'.toNat := h.2
  simp at hn
  omega

end Courier.Text
