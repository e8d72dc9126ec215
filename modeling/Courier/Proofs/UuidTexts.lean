import Courier.Uuid
import Mathlib.Data.List.Basic

/-!
# The texts of UUIDs

Thirty-two digits make a UUID, each in either case. They may stand alone or in the five
groups, and the groups may stand in braces or after `urn:uuid:`. That is all that is read,
and what is read is what was written: a text denotes one UUID at most.

The reader looks for the hyphens where they have to be and drops all hyphens there are. That
it accepts no others needs a count: the digits that are left are thirty-two, so that the
groups cannot have lost any.
-/

namespace Courier.Uuid

open Text (hexValue? hexDigit)

/-- The digits of a UUID, each in either case. -/
def Spells (ds : List Char) (id : Uuid) : Prop := ds.map Char.toLower = hexText id.bytes

/-- Digits in the five groups. -/
def grouped (ds : List Char) : List Char :=
  ds.take 8 ++ '-' :: ((ds.drop 8).take 4 ++ '-' :: ((ds.drop 12).take 4 ++
    '-' :: ((ds.drop 16).take 4 ++ '-' :: ds.drop 20)))

/-- A text of a UUID, in one of the four forms. -/
def Denotes (s : String) (id : Uuid) : Prop :=
  ∃ ds, Spells ds id ∧
    (s.toList = ds ∨ s.toList = grouped ds ∨ s.toList = '\x7b' :: (grouped ds ++ ['\x7d']) ∨
      s.toList = urn ++ grouped ds)

/-! ## Digits -/

theorem hexValue?_ofNat : ∀ n < 128, ∀ d < 16,
    (hexValue? (Char.ofNat n) = some d ↔ (Char.ofNat n).toLower = hexDigit d) := by
  decide +kernel

theorem lt_of_hexValue? {c : Char} {d : Nat} (h : hexValue? c = some d) :
    c.toNat < 128 ∧ d < 16 := by
  have hbound : c ≤ 'f' ∧ d < 16 := by
    unfold Text.hexValue? at h
    split at h
    · next hc =>
        have hn : c.toNat ≤ '9'.toNat := hc.2
        cases h
        exact ⟨Char.le_trans hc.2 (by decide), by simp at hn ⊢; omega⟩
    · split at h
      · next hc =>
          have hn : c.toNat ≤ 'f'.toNat := hc.2
          cases h
          exact ⟨hc.2, by simp at hn ⊢; omega⟩
      · split at h
        · next hc =>
            have hn : c.toNat ≤ 'F'.toNat := hc.2
            cases h
            exact ⟨Char.le_trans hc.2 (by decide), by simp at hn ⊢; omega⟩
        · cases h
  have hn : c.toNat ≤ 'f'.toNat := hbound.1
  exact ⟨by simp at hn; omega, hbound.2⟩

theorem toNat_lt_of_toLower {c : Char} (h : c.toLower.toNat < 128) : c.toNat < 128 := by
  unfold Char.toLower at h
  split at h
  · next hc =>
      have hn : c.toNat ≤ 'Z'.toNat := hc.2
      simp at hn
      omega
  · exact h

/-- A digit has the value of the lower case digit that is written for it. -/
theorem hexValue?_eq_some_iff {c : Char} {d : Nat} (hd : d < 16) :
    hexValue? c = some d ↔ c.toLower = hexDigit d := by
  have hdigit : ∀ k < 16, (hexDigit k).toNat < 128 := by decide
  have hsame : c.toNat < 128 → (hexValue? c = some d ↔ c.toLower = hexDigit d) := by
    intro hc
    have h := hexValue?_ofNat c.toNat hc d hd
    rwa [Char.ofNat_toNat] at h
  constructor
  · intro h
    exact (hsame (lt_of_hexValue? h).1).1 h
  · intro h
    have hc : c.toNat < 128 := toNat_lt_of_toLower (by rw [h]; exact hdigit d hd)
    exact (hsame hc).2 h

theorem hexText_cons (b : UInt8) (bs : List UInt8) : hexText (b :: bs) =
    hexDigit (b.toNat / 16) :: hexDigit (b.toNat % 16) :: hexText bs := rfl

/-- Two digits are read as the byte that is written with them. -/
theorem exists_hexValues_iff {a b : Char} {byte : UInt8} :
    (∃ hi lo, hexValue? a = some hi ∧ hexValue? b = some lo ∧ UInt8.ofNat (hi * 16 + lo) = byte) ↔
      a.toLower = hexDigit (byte.toNat / 16) ∧ b.toLower = hexDigit (byte.toNat % 16) := by
  constructor
  · rintro ⟨hi, lo, ha, hb, rfl⟩
    have hhi := (lt_of_hexValue? ha).2
    have hlo := (lt_of_hexValue? hb).2
    have hbyte : (UInt8.ofNat (hi * 16 + lo)).toNat = hi * 16 + lo := by
      rw [UInt8.toNat_ofNat']
      omega
    have hdiv : (hi * 16 + lo) / 16 = hi := by omega
    have hmod : (hi * 16 + lo) % 16 = lo := by omega
    rw [hbyte, hdiv, hmod]
    exact ⟨(hexValue?_eq_some_iff hhi).1 ha, (hexValue?_eq_some_iff hlo).1 hb⟩
  · rintro ⟨ha, hb⟩
    have hbyte := byte.toNat_lt
    refine ⟨byte.toNat / 16, byte.toNat % 16, ?_, ?_, ?_⟩
    · exact (hexValue?_eq_some_iff (by omega)).2 ha
    · exact (hexValue?_eq_some_iff (by omega)).2 hb
    · rw [Nat.div_add_mod', UInt8.ofNat_toNat]

theorem hexBytes?_cons_cons {a b : Char} {ds : List Char} {byte : UInt8} {bs : List UInt8} :
    hexBytes? (a :: b :: ds) = some (byte :: bs) ↔ (∃ hi lo, hexValue? a = some hi ∧
      hexValue? b = some lo ∧ UInt8.ofNat (hi * 16 + lo) = byte) ∧ hexBytes? ds = some bs := by
  simp only [hexBytes?, Option.bind_eq_bind, Option.bind_eq_some_iff, Option.pure_def,
    Option.some.injEq, List.cons.injEq]
  constructor
  · rintro ⟨hi, ha, lo, hb, rest, hrest, hbyte, rfl⟩
    exact ⟨⟨hi, lo, ha, hb, hbyte⟩, hrest⟩
  · rintro ⟨⟨hi, lo, ha, hb, hbyte⟩, hrest⟩
    exact ⟨hi, ha, lo, hb, bs, hrest, hbyte, rfl⟩

/-- The bytes that are read off digits are written with these digits. -/
theorem hexBytes?_eq_some_iff (ds : List Char) (bs : List UInt8) :
    hexBytes? ds = some bs ↔ ds.map Char.toLower = hexText bs := by
  induction ds using hexBytes?.induct generalizing bs with
  | case1 =>
      cases bs with
      | nil => simp [hexBytes?, hexText]
      | cons b bs => simp [hexBytes?, hexText_cons]
  | case2 a b ds ih =>
      cases bs with
      | nil => simp [hexBytes?, hexText, Option.bind_eq_some_iff]
      | cons byte bs =>
          rw [hexBytes?_cons_cons, exists_hexValues_iff, ih, hexText_cons]
          simp [and_assoc]
  | case3 ds hnil hcons =>
      -- A single digit is left over.
      obtain ⟨a, rfl⟩ : ∃ a, ds = [a] := by
        match ds, hnil, hcons with
        | [a], _, _ => exact ⟨a, rfl⟩
        | [], hnil, _ => exact absurd rfl hnil
        | a :: b :: ds, _, hcons => exact absurd rfl (hcons a b ds)
      cases bs with
      | nil => simp [hexBytes?, hexText]
      | cons b bs => simp [hexBytes?, hexText_cons]

theorem ofDigits?_eq_some_iff (ds : List Char) (id : Uuid) :
    ofDigits? ds = some id ↔ Spells ds id := by
  unfold ofDigits? ofBytes? Spells
  rw [← hexBytes?_eq_some_iff]
  obtain ⟨bytes, hlen⟩ := id
  cases hexBytes? ds with
  | none => simp
  | some bs =>
      simp only [Option.bind_some, Option.some.injEq]
      split
      · simp
      · next hbs =>
          constructor
          · intro h
            cases h
          · intro h
            exact absurd (h ▸ hlen) hbs

theorem length_hexText (bs : List UInt8) : (hexText bs).length = 2 * bs.length := by
  induction bs with
  | nil => rfl
  | cons b bs ih =>
      rw [hexText_cons, List.length_cons, List.length_cons, List.length_cons, ih]
      omega

theorem Spells.length_eq {ds : List Char} {id : Uuid} (h : Spells ds id) : ds.length = 32 := by
  have hlen := congrArg List.length h
  rwa [List.length_map, length_hexText, id.length_eq] at hlen

theorem Spells.isDigit {ds : List Char} {id : Uuid} (h : Spells ds id) {c : Char} (hc : c ∈ ds) :
    ∃ d < 16, c.toLower = hexDigit d := by
  have hmem : c.toLower ∈ hexText id.bytes := h ▸ List.mem_map_of_mem hc
  obtain ⟨b, -, hb⟩ := List.mem_flatMap.1 hmem
  have hlt := b.toNat_lt
  rcases List.mem_cons.1 hb with hb | hb
  · exact ⟨b.toNat / 16, by omega, hb⟩
  · exact ⟨b.toNat % 16, by omega, List.mem_singleton.1 hb⟩

/-- What no digit is, stands nowhere among the digits. -/
theorem Spells.not_mem {ds : List Char} {id : Uuid} (h : Spells ds id) {c : Char}
    (hc : ∀ d < 16, c.toLower ≠ hexDigit d) : c ∉ ds := by
  intro hmem
  obtain ⟨d, hd, heq⟩ := h.isDigit hmem
  exact hc d hd heq

/-! ## Groups -/

theorem exists_five_groups {cs : List Char} (hlen : cs.length = 36)
    (hmarks : [8, 13, 18, 23].all (fun i => cs[i]? == some '-') = true) :
    ∃ a b c d e, a.length = 8 ∧ b.length = 4 ∧ c.length = 4 ∧ d.length = 4 ∧ e.length = 12 ∧
      cs = a ++ '-' :: (b ++ '-' :: (c ++ '-' :: (d ++ '-' :: e))) := by
  -- A mark divides what follows the mark before it.
  have hcut : ∀ (i : Nat) (rest : List Char), rest[i]? = some '-' →
      rest = rest.take i ++ '-' :: rest.drop (i + 1) := by
    intro i rest h
    obtain ⟨hi, hget⟩ := List.getElem?_eq_some_iff.1 h
    rw [← hget, ← List.drop_eq_getElem_cons hi, List.take_append_drop]
  simp only [List.all_cons, List.all_nil, Bool.and_true, Bool.and_eq_true, beq_iff_eq] at hmarks
  obtain ⟨h8, h13, h18, h23⟩ := hmarks
  refine ⟨cs.take 8, (cs.drop 9).take 4, (cs.drop 14).take 4, (cs.drop 19).take 4, cs.drop 24,
    by simp; omega, by simp; omega, by simp; omega, by simp; omega, by simp; omega, ?_⟩
  have hb := hcut 4 (cs.drop 9) (by rwa [List.getElem?_drop])
  have hc := hcut 4 (cs.drop 14) (by rwa [List.getElem?_drop])
  have hd := hcut 4 (cs.drop 19) (by rwa [List.getElem?_drop])
  rw [List.drop_drop] at hb hc hd
  rw [← hd, ← hc, ← hb]
  exact hcut 8 cs h8

theorem grouped_append {a b c d e : List Char} (ha : a.length = 8) (hb : b.length = 4)
    (hc : c.length = 4) (hd : d.length = 4) :
    grouped (a ++ (b ++ (c ++ (d ++ e)))) =
      a ++ '-' :: (b ++ '-' :: (c ++ '-' :: (d ++ '-' :: e))) := by
  have h8 : (a ++ (b ++ (c ++ (d ++ e)))).drop 8 = b ++ (c ++ (d ++ e)) := by
    rw [← ha, List.drop_left]
  have h12 : (a ++ (b ++ (c ++ (d ++ e)))).drop 12 = c ++ (d ++ e) := by
    rw [show 12 = 8 + 4 from rfl, ← List.drop_drop, h8, ← hb, List.drop_left]
  have h16 : (a ++ (b ++ (c ++ (d ++ e)))).drop 16 = d ++ e := by
    rw [show 16 = 12 + 4 from rfl, ← List.drop_drop, h12, ← hc, List.drop_left]
  have h20 : (a ++ (b ++ (c ++ (d ++ e)))).drop 20 = e := by
    rw [show 20 = 16 + 4 from rfl, ← List.drop_drop, h16, ← hd, List.drop_left]
  have htake : ∀ (x y : List Char), (x ++ y).take x.length = x := fun x y => List.take_left
  rw [grouped, h8, h12, h16, h20]
  congr 1
  · rw [← ha, htake]
  · rw [← hb, htake, hb, ← hc, htake, hc, ← hd, htake]

theorem exists_split_digits {ds : List Char} (h : ds.length = 32) :
    ∃ a b c d e, a.length = 8 ∧ b.length = 4 ∧ c.length = 4 ∧ d.length = 4 ∧ e.length = 12 ∧
      ds = a ++ (b ++ (c ++ (d ++ e))) := by
  refine ⟨ds.take 8, (ds.drop 8).take 4, (ds.drop 12).take 4, (ds.drop 16).take 4, ds.drop 20,
    by simp; omega, by simp; omega, by simp; omega, by simp; omega, by simp; omega, ?_⟩
  have hd : (ds.drop 16).take 4 ++ ds.drop 20 = ds.drop 16 := by
    rw [show 20 = 16 + 4 from rfl, ← List.drop_drop, List.take_append_drop]
  have hc : (ds.drop 12).take 4 ++ ds.drop 16 = ds.drop 12 := by
    rw [show 16 = 12 + 4 from rfl, ← List.drop_drop, List.take_append_drop]
  have hb : (ds.drop 8).take 4 ++ ds.drop 12 = ds.drop 8 := by
    rw [show 12 = 8 + 4 from rfl, ← List.drop_drop, List.take_append_drop]
  rw [hd, hc, hb, List.take_append_drop]

theorem length_grouped {ds : List Char} (h : ds.length = 32) : (grouped ds).length = 36 := by
  simp [grouped, h]

/-- Where all but four are no hyphens, the hyphens are the four between the groups. -/
theorem eq_grouped_filter {cs : List Char} (hlen : cs.length = 36)
    (hmarks : [8, 13, 18, 23].all (fun i => cs[i]? == some '-') = true)
    (h : (cs.filter (· != '-')).length = 32) : cs = grouped (cs.filter (· != '-')) := by
  have hmark : ('-' != '-') = false := rfl
  have hle : ∀ x : List Char, (x.filter (· != '-')).length ≤ x.length :=
    fun x => List.length_filter_le _ _
  have hall : ∀ x : List Char, (x.filter (· != '-')).length = x.length →
      x.filter (· != '-') = x := by
    intro x hx
    rw [List.filter_eq_self]
    exact List.length_filter_eq_length_iff.1 hx
  obtain ⟨a, b, c, d, e, ha, hb, hc, hd, he, rfl⟩ := exists_five_groups hlen hmarks
  simp only [List.filter_append, List.filter_cons, hmark, Bool.false_eq_true, if_false,
    List.length_append] at h ⊢
  -- None of the groups can be short of a character.
  have ha' := hle a
  have hb' := hle b
  have hc' := hle c
  have hd' := hle d
  have he' := hle e
  rw [hall a (by omega), hall b (by omega), hall c (by omega), hall d (by omega),
    hall e (by omega), grouped_append ha hb hc hd]

theorem marks_grouped {ds : List Char} (h : ds.length = 32) :
    [8, 13, 18, 23].all (fun i => (grouped ds)[i]? == some '-') = true := by
  obtain ⟨a, b, c, d, e, ha, hb, hc, hd, he, rfl⟩ := exists_split_digits h
  rw [grouped_append ha hb hc hd]
  simp [List.getElem?_append, ha, hb, hc, hd]

theorem filter_grouped {ds : List Char} (h : ds.length = 32) (hno : '-' ∉ ds) :
    (grouped ds).filter (· != '-') = ds := by
  have hmark : ('-' != '-') = false := rfl
  have hself : ds.filter (· != '-') = ds := by
    refine List.filter_eq_self.2 fun c hc => bne_iff_ne.2 ?_
    rintro rfl
    exact hno hc
  obtain ⟨a, b, c, d, e, ha, hb, hc, hd, he, rfl⟩ := exists_split_digits h
  rw [grouped_append ha hb hc hd]
  simp only [List.filter_append, List.filter_cons, hmark, Bool.false_eq_true, if_false] at hself ⊢
  exact hself

theorem ofGroups?_eq_some_iff (cs : List Char) (id : Uuid) :
    ofGroups? cs = some id ↔ ∃ ds, Spells ds id ∧ cs = grouped ds := by
  unfold ofGroups?
  constructor
  · intro h
    split at h
    · next hcs =>
        have hspells := (ofDigits?_eq_some_iff _ id).1 h
        exact ⟨_, hspells, eq_grouped_filter hcs.1 hcs.2 hspells.length_eq⟩
    · cases h
  · rintro ⟨ds, hds, rfl⟩
    have hno : '-' ∉ ds := hds.not_mem (by decide)
    rw [if_pos ⟨length_grouped hds.length_eq, marks_grouped hds.length_eq⟩,
      filter_grouped hds.length_eq hno]
    exact (ofDigits?_eq_some_iff ds id).2 hds

/-! ## Whole texts -/

theorem urn_eq : urn = ['u', 'r', 'n', ':', 'u', 'u', 'i', 'd', ':'] := rfl

theorem unwrap_braces (cs : List Char) :
    unwrap ('\x7b' :: (cs ++ ['\x7d'])) = (cs, 1, false) := by
  have hlast : ('\x7b' :: (cs ++ ['\x7d'])).getLast? = some '\x7d' :=
    List.getLast?_eq_some_iff.2 ⟨'\x7b' :: cs, rfl⟩
  rw [unwrap, if_pos ⟨rfl, by simp, hlast⟩]
  simp

theorem unwrap_urn (cs : List Char) : unwrap (urn ++ cs) = (cs, urn.length, false) := by
  have hhead : (urn ++ cs).head? ≠ some '\x7b' := by
    rw [urn_eq]
    simp
  have hprefix : urn.isPrefixOf (urn ++ cs) = true := by
    rw [List.isPrefixOf_iff_prefix]
    exact List.prefix_append urn cs
  rw [unwrap, if_neg fun h => hhead h.1, if_pos hprefix, List.drop_left]

theorem unwrap_plain {c : Char} (hbrace : c ≠ '\x7b') (hu : c ≠ 'u') (cs : List Char) :
    unwrap (c :: cs) = (c :: cs, 0, true) := by
  have hhead : (c :: cs).head? ≠ some '\x7b' := by simpa using hbrace
  have hprefix : ¬ urn.isPrefixOf (c :: cs) = true := by
    rw [List.isPrefixOf_iff_prefix]
    rw [urn_eq]
    intro h
    exact hu (List.cons_prefix_cons.1 h).1.symm
  rw [unwrap, if_neg fun h => hhead h.1, if_neg hprefix]

theorem unwrap_cases (cs : List Char) :
    (∃ inner, cs = '\x7b' :: (inner ++ ['\x7d']) ∧ unwrap cs = (inner, 1, false)) ∨
      (∃ inner, cs = urn ++ inner ∧ unwrap cs = (inner, urn.length, false)) ∨
      unwrap cs = (cs, 0, true) := by
  by_cases hbraces : cs.head? = some '\x7b' ∧ 2 ≤ cs.length ∧ cs.getLast? = some '\x7d'
  · obtain ⟨hhead, hlen, hlast⟩ := hbraces
    obtain ⟨rest, rfl⟩ := List.head?_eq_some_iff.1 hhead
    have hne : rest ≠ [] := by
      rintro rfl
      simp at hlen
    have hlast' : rest.getLast? = some '\x7d' := by
      rwa [List.getLast?_cons_of_ne_nil hne] at hlast
    obtain ⟨inner, rfl⟩ := List.getLast?_eq_some_iff.1 hlast'
    exact .inl ⟨inner, rfl, unwrap_braces inner⟩
  · right
    by_cases hurn : urn.isPrefixOf cs = true
    · obtain ⟨inner, rfl⟩ := List.isPrefixOf_iff_prefix.1 hurn
      exact .inl ⟨inner, rfl, unwrap_urn inner⟩
    · exact .inr (by rw [unwrap, if_neg hbraces, if_neg hurn])

theorem parse?_of_length {s : String} (h : s.toList.length = 32) :
    parse? s = ofDigits? s.toList := by
  rw [parse?]
  exact if_pos h

/-- Texts of any other length are unwrapped first. -/
theorem parse?_of_unwrap {s : String} (h : s.toList.length ≠ 32) {inner : List Char}
    {before : Nat} {plain : Bool} (hu : unwrap s.toList = (inner, before, plain)) :
    parse? s = if plain ∨ (before = 1 ∧ s.toList.length = 38) ∨
      (before = urn.length ∧ s.toList.length = 45) then ofGroups? inner else none := by
  rw [parse?]
  dsimp only
  rw [if_neg h, hu]

theorem denotes_of_parse? {s : String} {id : Uuid} (h : parse? s = some id) : Denotes s id := by
  by_cases hlen : s.toList.length = 32
  · rw [parse?_of_length hlen] at h
    exact ⟨s.toList, (ofDigits?_eq_some_iff _ id).1 h, .inl rfl⟩
  · have hgroups : ∀ {p : Prop} [Decidable p] {inner : List Char},
        (if p then ofGroups? inner else none) = some id →
          ∃ ds, Spells ds id ∧ inner = grouped ds := by
      intro p _ inner h
      split at h
      · exact (ofGroups?_eq_some_iff inner id).1 h
      · cases h
    rcases unwrap_cases s.toList with ⟨inner, hs, hu⟩ | ⟨inner, hs, hu⟩ | hu
    · rw [parse?_of_unwrap hlen hu] at h
      obtain ⟨ds, hds, rfl⟩ := hgroups h
      exact ⟨ds, hds, .inr (.inr (.inl hs))⟩
    · rw [parse?_of_unwrap hlen hu] at h
      obtain ⟨ds, hds, rfl⟩ := hgroups h
      exact ⟨ds, hds, .inr (.inr (.inr hs))⟩
    · rw [parse?_of_unwrap hlen hu] at h
      obtain ⟨ds, hds, hs⟩ := hgroups h
      exact ⟨ds, hds, .inr (.inl hs)⟩

/-- Digits begin neither with a brace nor like `urn:uuid:`. -/
theorem unwrap_grouped {ds : List Char} {id : Uuid} (h : Spells ds id) :
    unwrap (grouped ds) = (grouped ds, 0, true) := by
  have hlen := h.length_eq
  cases ds with
  | nil => simp at hlen
  | cons c ds =>
      have hbrace : c ≠ '\x7b' := by
        rintro rfl
        exact h.not_mem (by decide) List.mem_cons_self
      have hu : c ≠ 'u' := by
        rintro rfl
        exact h.not_mem (by decide) List.mem_cons_self
      exact unwrap_plain hbrace hu _

theorem parse?_of_denotes {s : String} {id : Uuid} (h : Denotes s id) : parse? s = some id := by
  obtain ⟨ds, hds, hs⟩ := h
  have hgrouped : ofGroups? (grouped ds) = some id :=
    (ofGroups?_eq_some_iff _ id).2 ⟨ds, hds, rfl⟩
  have hlen := length_grouped hds.length_eq
  rcases hs with hs | hs | hs | hs
  · rw [parse?_of_length (by rw [hs]; exact hds.length_eq), hs]
    exact (ofDigits?_eq_some_iff ds id).2 hds
  · have hlen' : s.toList.length = 36 := by rw [hs, hlen]
    have hu : unwrap s.toList = (grouped ds, 0, true) := by rw [hs, unwrap_grouped hds]
    rw [parse?_of_unwrap (by omega) hu, if_pos (.inl rfl)]
    exact hgrouped
  · have hlen' : s.toList.length = 38 := by simp [hs, hlen]
    have hu : unwrap s.toList = (grouped ds, 1, false) := by rw [hs, unwrap_braces]
    rw [parse?_of_unwrap (by omega) hu, if_pos (.inr (.inl ⟨rfl, hlen'⟩))]
    exact hgrouped
  · have hlen' : s.toList.length = 45 := by simp [hs, hlen, urn_eq]
    have hu : unwrap s.toList = (grouped ds, urn.length, false) := by rw [hs, unwrap_urn]
    rw [parse?_of_unwrap (by omega) hu, if_pos (.inr (.inr ⟨rfl, hlen'⟩))]
    exact hgrouped

theorem parse?_eq_some_iff (s : String) (id : Uuid) : parse? s = some id ↔ Denotes s id :=
  ⟨denotes_of_parse?, parse?_of_denotes⟩

theorem Denotes.unique {s : String} {id id' : Uuid} (h : Denotes s id) (h' : Denotes s id') :
    id = id' := by
  rw [← parse?_eq_some_iff] at h h'
  exact Option.some.inj (h.symm.trans h')

/-- The groups, as they are written, are a text of the UUID. -/
theorem denotes_text (id : Uuid) : Denotes id.text id := by
  have hlower : ∀ d < 16, (hexDigit d).toLower = hexDigit d := by decide
  have htext : id.text.toList = grouped (hexText id.bytes) := by
    rw [text]
    simp only [String.toList_ofList, grouped, List.append_assoc, List.cons_append]
  refine ⟨hexText id.bytes, ?_, .inr (.inl htext)⟩
  have hsame : ∀ c ∈ hexText id.bytes, c.toLower = c := by
    intro c hc
    obtain ⟨b, -, hb⟩ := List.mem_flatMap.1 hc
    have hlt := b.toNat_lt
    rcases List.mem_cons.1 hb with rfl | hb
    · exact hlower _ (by omega)
    · exact List.mem_singleton.1 hb ▸ hlower _ (by omega)
  exact (List.map_congr_left hsame).trans (List.map_id _)

end Courier.Uuid
