import Courier.Agent.Client
import Mathlib.Data.List.DropRight

/-!
# The order of versions

Two lists of numbers are compared number by number, the shorter one continued with zeros.
How many zeros that takes is different for each pair, so that nothing about three versions
can be read off the recursion. What makes the order one order is that more zeros do no
harm: brought to any common length, the lists compare as lists do, lexicographically. Three
versions are brought to the greatest of their lengths, and transitivity is that of lists.

The zeros at the end are then all that two equal versions can differ in, beside their tags,
and a gate is a minimum in a transitive order: what one version passes, all later ones pass.
-/

namespace Courier.Version

open Std (TransOrd OrientedOrd)

/-- A list of numbers without the zeros at its end. -/
def trimmed (ps : List Nat) : List Nat := ps.rdropWhile (· == 0)

/-! ## Padding -/

theorem rightpad_cons (n p : Nat) (ps : List Nat) :
    (p :: ps).rightpad (n + 1) 0 = p :: ps.rightpad n 0 := by
  simp [List.rightpad]

theorem rightpad_nil_succ (n : Nat) :
    ([] : List Nat).rightpad (n + 1) 0 = 0 :: ([] : List Nat).rightpad n 0 := by
  simp [List.rightpad, List.replicate_succ]

/-- However many zeros both lists are given, they compare as before. -/
theorem compareParts_eq_compare (as bs : List Nat) (n : Nat) (ha : as.length ≤ n)
    (hb : bs.length ≤ n) :
    compareParts as bs = compare (as.rightpad n 0) (bs.rightpad n 0) := by
  fun_induction compareParts as bs generalizing n with
  | case1 => simp
  | case2 a as ih =>
      obtain ⟨m, rfl⟩ : ∃ m, n = m + 1 := ⟨n - 1, by simp at ha; omega⟩
      rw [ih m (by simpa using ha) (Nat.zero_le m), rightpad_cons, rightpad_nil_succ,
        List.compare_cons_cons]
  | case3 b bs ih =>
      obtain ⟨m, rfl⟩ : ∃ m, n = m + 1 := ⟨n - 1, by simp at hb; omega⟩
      rw [ih m (Nat.zero_le m) (by simpa using hb), rightpad_cons, rightpad_nil_succ,
        List.compare_cons_cons]
  | case4 a as b bs ih =>
      obtain ⟨m, rfl⟩ : ∃ m, n = m + 1 := ⟨n - 1, by simp at ha; omega⟩
      rw [ih m (by simpa using ha) (by simpa using hb), rightpad_cons, rightpad_cons,
        List.compare_cons_cons]

theorem compare_eq_compare_rightpad (a b : Version) {n : Nat} (ha : a.parts.length ≤ n)
    (hb : b.parts.length ≤ n) :
    compare a b = compare (a.parts.rightpad n 0) (b.parts.rightpad n 0) :=
  compareParts_eq_compare a.parts b.parts n ha hb

instance : OrientedOrd Version where
  eq_swap {a b} := by
    have ha : a.parts.length ≤ Nat.max a.parts.length b.parts.length := Nat.le_max_left _ _
    have hb : b.parts.length ≤ Nat.max a.parts.length b.parts.length := Nat.le_max_right _ _
    rw [compare_eq_compare_rightpad a b ha hb, compare_eq_compare_rightpad b a hb ha]
    exact OrientedOrd.eq_swap

instance : TransOrd Version where
  isLE_trans {a b c} hab hbc := by
    -- One length for all three; each pair alone would make do with less.
    obtain ⟨n, ha, hb, hc⟩ : ∃ n, a.parts.length ≤ n ∧ b.parts.length ≤ n ∧ c.parts.length ≤ n :=
      ⟨a.parts.length + b.parts.length + c.parts.length, by omega, by omega, by omega⟩
    rw [compare_eq_compare_rightpad a b ha hb] at hab
    rw [compare_eq_compare_rightpad b c hb hc] at hbc
    rw [compare_eq_compare_rightpad a c ha hc]
    exact TransOrd.isLE_trans hab hbc

/-! ## Equal versions -/

theorem trimmed_append_zeros (ps : List Nat) (k : Nat) :
    trimmed (ps ++ List.replicate k 0) = trimmed ps := by
  induction k with
  | zero => simp
  | succ k ih =>
      rw [List.replicate_succ', ← List.append_assoc, trimmed, List.rdropWhile_concat_pos _ _ _ rfl]
      exact ih

theorem exists_eq_trimmed_append (ps : List Nat) :
    ∃ k, ps = trimmed ps ++ List.replicate k 0 := by
  refine ⟨(ps.rtakeWhile (· == 0)).length, ?_⟩
  have hzeros : ps.rtakeWhile (· == 0) = List.replicate (ps.rtakeWhile (· == 0)).length 0 :=
    List.eq_replicate_iff.2 ⟨rfl, fun p hp => by simpa using List.mem_rtakeWhile_imp hp⟩
  rw [← hzeros]
  exact (List.rdropWhile_append_rtakeWhile ..).symm

/-- The zeros that a list has of its own are among those that it is padded with. -/
theorem rightpad_trimmed {ps : List Nat} {n : Nat} (h : ps.length ≤ n) :
    (trimmed ps).rightpad n 0 = ps.rightpad n 0 := by
  obtain ⟨k, hk⟩ := exists_eq_trimmed_append ps
  have hlen : ps.length = (trimmed ps).length + k := by
    rw [congrArg List.length hk]
    simp
  have hzeros : n - (trimmed ps).length = k + (n - ps.length) := by omega
  rw [List.rightpad, List.rightpad, hzeros, List.replicate_add, ← List.append_assoc, ← hk]

theorem beq_iff (a b : Version) : a == b ↔ trimmed a.parts = trimmed b.parts := by
  obtain ⟨n, ha, hb⟩ : ∃ n, a.parts.length ≤ n ∧ b.parts.length ≤ n :=
    ⟨a.parts.length + b.parts.length, by omega, by omega⟩
  have hbeq : (a == b) = (compare a b).isEq := rfl
  rw [hbeq, Ordering.isEq_iff_eq_eq, compare_eq_compare_rightpad a b ha hb,
    Std.LawfulEqOrd.compare_eq_iff_eq]
  constructor
  · intro h
    have htrim := congrArg trimmed h
    rwa [List.rightpad, List.rightpad, trimmed_append_zeros, trimmed_append_zeros] at htrim
  · intro h
    rw [← rightpad_trimmed ha, ← rightpad_trimmed hb, h]

/-! ## Gates -/

theorem atLeast_mono {a b : Version} {m : String} (h : (compare a b).isGE)
    (hb : b.atLeast m = true) : a.atLeast m = true := by
  unfold atLeast at hb ⊢
  cases hm : parse? m with
  | none =>
      rw [hm] at hb
      cases hb
  | some least =>
      rw [hm] at hb
      exact Std.TransCmp.isGE_trans h hb

theorem atLeast_of_parse_error {m : String} {e : Failure} (h : parse m = .error e) (a : Version) :
    a.atLeast m = false := by
  unfold parse at h
  cases hm : parse? m with
  | none => rw [atLeast, hm]
  | some least =>
      rw [hm] at h
      cases h

/-- A version that passes a gate passes every gate that the least such version passes. -/
theorem atLeast_of_least {v least : Version} {m m' : String} (hm : parse? m = some least)
    (hv : v.atLeast m = true) (hl : least.atLeast m' = true) : v.atLeast m' = true := by
  rw [atLeast, hm] at hv
  exact atLeast_mono hv hl

theorem parse?_batchReport : parse? batchReport = some ⟨"3.1.0", [3, 1, 0]⟩ := rfl

theorem atLeast_localReport_of_batchReport {v : Version} (h : v.atLeast batchReport = true) :
    v.atLeast localReport = true :=
  atLeast_of_least parse?_batchReport h (by decide +kernel)

theorem atLeast_sessionReuse_of_batchReport {v : Version} (h : v.atLeast batchReport = true) :
    v.atLeast sessionReuse = true :=
  atLeast_of_least parse?_batchReport h (by decide +kernel)

theorem atLeast_batchReport_of_deliveryMode {config : Config} {base url : Url} {v : Version}
    {limit : Nat} (h : Client.deliveryMode config base v = .ok (.batch url limit)) :
    v.atLeast batchReport = true := by
  unfold Client.deliveryMode at h
  split at h
  · next hv => exact hv
  · cases h

/-! ## The order as a whole -/

/-- The versions are in one order, with the gates along it. -/
structure Ranked : Prop where
  refl (a : Version) : compare a a = .eq
  total (a b : Version) : (compare a b).isLE ∨ (compare b a).isLE
  trans (a b c : Version) : (compare a b).isLE → (compare b c).isLE → (compare a c).isLE
  antisymm (a b : Version) : (compare a b).isLE → (compare b a).isLE → a == b
  swap (a b : Version) : compare b a = (compare a b).swap
  lexicographic (a b : Version) (n : Nat) : a.parts.length ≤ n → b.parts.length ≤ n →
    compare a b = compare (a.parts.rightpad n 0) (b.parts.rightpad n 0)
  equal (a b : Version) : a == b ↔ trimmed a.parts = trimmed b.parts
  gate (a b : Version) (m : String) : (compare a b).isGE → b.atLeast m → a.atLeast m
  noGate (a : Version) (m : String) (e : Failure) : parse m = .error e → a.atLeast m = false
  /-- Where batches are sent, reports on disk can be asked for and sessions taken up again. -/
  batches (config : Config) (base url : Url) (v : Version) (limit : Nat) :
    Client.deliveryMode config base v = .ok (.batch url limit) →
      (∀ identity, Client.asksTooMuch identity v = false) ∧
        ∀ c : Client, c.version = v → c.canReuse

theorem ranked : Ranked where
  refl a := Std.ReflOrd.compare_self
  total a b := by
    have hswap : compare b a = (compare a b).swap := OrientedOrd.eq_swap
    rw [hswap]
    cases compare a b <;> decide
  trans a b c := TransOrd.isLE_trans
  antisymm a b hab hba := by
    have hbeq : (a == b) = (compare a b).isEq := rfl
    rw [hbeq, Ordering.isEq_iff_eq_eq]
    exact Std.OrientedCmp.isLE_antisymm hab hba
  swap a b := OrientedOrd.eq_swap
  lexicographic a b n := compare_eq_compare_rightpad a b
  equal := beq_iff
  gate a b m := atLeast_mono
  noGate a m e h := atLeast_of_parse_error h a
  batches config base url v limit h := by
    have hv := atLeast_batchReport_of_deliveryMode h
    refine ⟨fun identity => ?_, fun c hc => ?_⟩
    · rw [Client.asksTooMuch, atLeast_localReport_of_batchReport hv]
      simp
    · rw [Client.canReuse, hc]
      exact atLeast_sessionReuse_of_batchReport hv

/-- Neither the zeros at the end nor the tag count. -/
example : (⟨"v2.5-rc1", [2, 5]⟩ : Version) == ⟨"2.5.0", [2, 5, 0]⟩ := by
  decide +kernel

end Courier.Version
