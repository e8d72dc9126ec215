import Courier.Proofs.Base64Bits
import Courier.Screenshot

/-!
# What is left of an answer in a screenshot

Of an answer in bytes nothing is lost: the array is a screenshot only if all its elements are
whole numbers from 0 to 255 and there is at least one, and the bytes are read back from the text.
Of an answer in text the line breaks are lost and nothing else is.

Whether there is anything to show is asked at two moments. Of bytes it is asked when they are
known, but of a text before its line breaks are taken out. So there are three kinds of answer and
not two: those that have data, those that have none, and texts of nothing but line breaks, which
come out as an empty screenshot.
-/

namespace Courier.Screenshot

/-! ## Bytes -/

/-- A whole number from 0 to 255; a double is none, whatever its value. -/
def IsByte (v : Json) : Prop := ∃ i : Int, v = .num (.int i) ∧ 0 ≤ i ∧ i ≤ 255

/-- A byte as an element of an array. -/
def number (b : UInt8) : Json := .num (.int b.toNat)

theorem isByte_iff {v : Json} : IsByte v ↔ ∃ b, v = number b := by
  constructor
  · rintro ⟨i, rfl, h₀, h₁⟩
    refine ⟨UInt8.ofNat i.toNat, ?_⟩
    rw [number, UInt8.toNat_ofNat_of_lt' (show i.toNat < 256 by omega), Int.toNat_of_nonneg h₀]
  · rintro ⟨b, rfl⟩
    have hb := b.toNat_lt
    exact ⟨b.toNat, rfl, by omega, by omega⟩

theorem byte?_eq_some_iff {v : Json} {b : UInt8} : byte? v = some b ↔ v = number b := by
  have hnumber : ∀ a, byte? (number a) = some a := by
    intro a
    have ha := a.toNat_lt
    simp only [number, byte?]
    rw [if_pos (by omega), Int.toNat_natCast, UInt8.ofNat_toNat]
  constructor
  · intro h
    have hv : IsByte v := by
      unfold byte? at h
      split at h
      · next i =>
          split at h
          · next hi => exact ⟨i, rfl, by omega, by omega⟩
          · cases h
      · cases h
    obtain ⟨a, rfl⟩ := isByte_iff.1 hv
    rw [hnumber] at h
    rw [Option.some.inj h]
  · rintro rfl
    exact hnumber b

theorem mapM_byte?_eq_some_iff {items : List Json} {bytes : List UInt8} :
    items.mapM byte? = some bytes ↔ items = bytes.map number := by
  induction items generalizing bytes with
  | nil => cases bytes <;> simp
  | cons v items ih =>
      rw [List.mapM_cons]
      simp only [Option.bind_eq_bind, Option.bind_eq_some_iff, byte?_eq_some_iff, ih]
      constructor
      · rintro ⟨b, rfl, rest, rfl, h⟩
        cases h
        rfl
      · intro h
        cases bytes with
        | nil => cases h
        | cons b rest =>
            obtain ⟨hv, hitems⟩ := List.cons.inj h
            exact ⟨b, hv, rest, hitems, rfl⟩

theorem ofAnswer?_arr_eq_some_iff {items : List Json} {t : String} :
    ofAnswer? (.arr items) = some t ↔ ∃ bytes, bytes ≠ [] ∧ items = bytes.map number ∧
      t = encode bytes := by
  rw [ofAnswer?]
  constructor
  · intro h
    split at h
    · next b bytes hbytes =>
        cases h
        exact ⟨b :: bytes, List.cons_ne_nil _ _, mapM_byte?_eq_some_iff.1 hbytes, rfl⟩
    · cases h
  · rintro ⟨bytes, hne, hitems, rfl⟩
    obtain ⟨b, rest, rfl⟩ := List.exists_cons_of_ne_nil hne
    rw [mapM_byte?_eq_some_iff.2 hitems]

theorem exists_bytes_iff {items : List Json} :
    (∃ bytes : List UInt8, items = bytes.map number) ↔ ∀ v ∈ items, IsByte v := by
  constructor
  · rintro ⟨bytes, rfl⟩
    exact List.forall_mem_map.2 fun b _ => isByte_iff.2 ⟨b, rfl⟩
  · intro h
    induction items with
    | nil => exact ⟨[], rfl⟩
    | cons v items ih =>
        obtain ⟨hv, hitems⟩ := List.forall_mem_cons.1 h
        obtain ⟨b, rfl⟩ := isByte_iff.1 hv
        obtain ⟨bytes, rfl⟩ := ih hitems
        exact ⟨b :: bytes, rfl⟩

theorem exists_ofAnswer?_arr_iff {items : List Json} :
    (∃ t, ofAnswer? (.arr items) = some t) ↔ items ≠ [] ∧ ∀ v ∈ items, IsByte v := by
  simp only [ofAnswer?_arr_eq_some_iff, ← exists_bytes_iff]
  constructor
  · rintro ⟨t, bytes, hne, rfl, -⟩
    exact ⟨by simpa using hne, bytes, rfl⟩
  · rintro ⟨hne, bytes, rfl⟩
    exact ⟨encode bytes, bytes, by simpa using hne, rfl, rfl⟩

/-- The text is Base64 of the bytes that are the elements of an array: it is written by their bits
and read as them, and no other text is. -/
def Holds (items : List Json) (t : String) : Prop :=
  ∃ bytes : List UInt8, items = bytes.map number ∧
    (∀ text, Base64.Written bytes text ↔ text = t.toList) ∧
    (∀ text, Base64.decode? text = some bytes ↔ text = t.toList) ∧
    t.length = 4 * ((items.length + 2) / 3) ∧ ∀ c ∈ t.toList, c ∈ Base64.alphabet ∨ c = '='

theorem holds_of_ofAnswer? {items : List Json} {t : String}
    (h : ofAnswer? (.arr items) = some t) : Holds items t := by
  obtain ⟨bytes, -, rfl, rfl⟩ := ofAnswer?_arr_eq_some_iff.1 h
  have htext : (encode bytes).toList = Base64.encode bytes := String.toList_ofList
  refine ⟨bytes, rfl, ?_⟩
  rw [← String.length_toList, htext, Base64.length_encode, List.length_map]
  exact ⟨fun _ => Base64.written_iff, fun _ => Base64.decode?_eq_some_iff, rfl,
    (Base64.written_encode bytes).mem_alphabet⟩

theorem eq_of_ofAnswer?_arr {items items' : List Json} {t : String}
    (h : ofAnswer? (.arr items) = some t) (h' : ofAnswer? (.arr items') = some t) :
    items = items' := by
  obtain ⟨bytes, rfl, -, hread, -⟩ := holds_of_ofAnswer? h
  obtain ⟨bytes', rfl, -, hread', -⟩ := holds_of_ofAnswer? h'
  have hsame : some bytes = some bytes' :=
    ((hread t.toList).2 rfl).symm.trans ((hread' t.toList).2 rfl)
  rw [Option.some.inj hsame]

/-! ## Texts -/

/-- The characters that a picture is cut into lines with. -/
def IsBreak (c : Char) : Prop := c = '\n' ∨ c = '\r'

/-- The second text is the first without its line breaks. -/
inductive Joins : List Char → List Char → Prop where
  | nil : Joins [] []
  | dropped {c : Char} {s t : List Char} : IsBreak c → Joins s t → Joins (c :: s) t
  | kept {c : Char} {s t : List Char} : ¬ IsBreak c → Joins s t → Joins (c :: s) (c :: t)

theorem isLineBreak_iff {c : Char} : isLineBreak c = true ↔ IsBreak c := by
  simp [isLineBreak, IsBreak]

theorem joins_filter (s : List Char) : Joins s (s.filter fun c => !isLineBreak c) := by
  induction s with
  | nil => exact .nil
  | cons c s ih =>
      by_cases hc : IsBreak c
      · rw [List.filter_cons_of_neg (by simpa [isLineBreak_iff] using hc)]
        exact .dropped hc ih
      · have hline : isLineBreak c = false := Bool.eq_false_iff.2 (mt isLineBreak_iff.1 hc)
        rw [List.filter_cons_of_pos (by simp [hline])]
        exact .kept hc ih

theorem Joins.not_isBreak {s t : List Char} (h : Joins s t) : ∀ c ∈ t, ¬ IsBreak c := by
  induction h with
  | nil => exact List.forall_mem_nil _
  | dropped _ _ ih => exact ih
  | kept hc _ ih => exact List.forall_mem_cons.2 ⟨hc, ih⟩

theorem Joins.eq_self {s t : List Char} (h : Joins s t) (hs : ∀ c ∈ s, ¬ IsBreak c) : t = s := by
  induction h with
  | nil => rfl
  | dropped hc _ _ => exact absurd hc (hs _ List.mem_cons_self)
  | kept _ _ ih => rw [ih fun c hc => hs c (List.mem_cons_of_mem _ hc)]

theorem Joins.eq_nil_iff {s t : List Char} (h : Joins s t) : t = [] ↔ ∀ c ∈ s, IsBreak c := by
  induction h with
  | nil => simp
  | dropped hc _ ih => simp [ih, hc]
  | kept hc _ _ => simp [hc]

theorem joins_joinLines (s : String) : Joins s.toList (joinLines s).toList := by
  rw [joinLines, String.toList_ofList]
  exact joins_filter s.toList

theorem joinLines_of_not_isBreak {s : String} (h : ∀ c ∈ s.toList, ¬ IsBreak c) :
    joinLines s = s :=
  String.toList_inj.1 ((joins_joinLines s).eq_self h)

theorem joinLines_eq_empty_iff {s : String} : joinLines s = "" ↔ ∀ c ∈ s.toList, IsBreak c := by
  rw [← (joins_joinLines s).eq_nil_iff]
  exact String.toList_eq_nil_iff.symm

theorem ofAnswer?_str {s : String} (h : s ≠ "") : ofAnswer? (.str s) = some (joinLines s) := by
  rw [ofAnswer?, if_neg (by simpa using h)]

/-! ## The three kinds of answer -/

/-- The answer has data for a screenshot. -/
inductive HasData : Json → Prop where
  | bytes {items : List Json} : items ≠ [] → (∀ v ∈ items, IsByte v) → HasData (.arr items)
  | text {s : String} : (∃ c ∈ s.toList, ¬ IsBreak c) → HasData (.str s)

/-- The answer is a text of nothing but line breaks. -/
def IsBlank (v : Json) : Prop := ∃ s : String, v = .str s ∧ s ≠ "" ∧ ∀ c ∈ s.toList, IsBreak c

/-- There is something in the text, and all of it in one line. -/
def IsFilled (t : String) : Prop := t ≠ "" ∧ ∀ c ∈ t.toList, ¬ IsBreak c

theorem ofAnswer?_of_hasData {v : Json} (h : HasData v) :
    ∃ t, ofAnswer? v = some t ∧ IsFilled t := by
  cases h with
  | @bytes items hne hall =>
      obtain ⟨t, ht⟩ := exists_ofAnswer?_arr_iff.2 ⟨hne, hall⟩
      obtain ⟨bytes, -, -, -, hlength, hmem⟩ := holds_of_ofAnswer? ht
      have hbreak : ∀ c, IsBreak c → c ∉ Base64.alphabet ∧ c ≠ '=' := by
        rintro c (rfl | rfl) <;> decide
      refine ⟨t, ht, ?_, fun c hc hbad => ?_⟩
      · rintro rfl
        have hpos := List.length_pos_iff.2 hne
        simp at hlength
        omega
      · rcases hmem c hc with halpha | hpad
        · exact (hbreak c hbad).1 halpha
        · exact (hbreak c hbad).2 hpad
  | @text s hs =>
      obtain ⟨c, hc, hink⟩ := hs
      have hne : s ≠ "" := by
        rintro rfl
        simp at hc
      refine ⟨_, ofAnswer?_str hne, ?_, (joins_joinLines s).not_isBreak⟩
      intro hempty
      exact hink (joinLines_eq_empty_iff.1 hempty c hc)

theorem ofAnswer?_of_isBlank {v : Json} (h : IsBlank v) : ofAnswer? v = some "" := by
  obtain ⟨s, rfl, hne, hall⟩ := h
  rw [ofAnswer?_str hne, joinLines_eq_empty_iff.2 hall]

theorem ofAnswer?_of_neither {v : Json} (hdata : ¬ HasData v) (hblank : ¬ IsBlank v) :
    ofAnswer? v = none := by
  cases v with
  | null | bool | num | obj => rfl
  | str s =>
      by_cases hne : s = ""
      · rw [hne]
        rfl
      · refine absurd ⟨s, rfl, hne, fun c hc => ?_⟩ hblank
        by_contra hink
        exact hdata (.text ⟨c, hc, hink⟩)
  | arr items =>
      refine Option.eq_none_iff_forall_ne_some.2 fun t ht => hdata ?_
      obtain ⟨hne, hall⟩ := exists_ofAnswer?_arr_iff.1 ⟨t, ht⟩
      exact .bytes hne hall

/-! ## What survives -/

/-- What a screenshot has of an answer. -/
structure Faithful : Prop where
  /-- An array is a screenshot if and only if it is one of bytes and not empty. -/
  array : ∀ items, (∃ t, ofAnswer? (.arr items) = some t) ↔ items ≠ [] ∧ ∀ v ∈ items, IsByte v
  bytes : ∀ items t, ofAnswer? (.arr items) = some t → Holds items t
  distinct : ∀ items items' t, ofAnswer? (.arr items) = some t → ofAnswer? (.arr items') = some t →
    items = items'
  /-- A text that is not all line breaks is one without them, which stays as it is. -/
  text : ∀ s : String, (∃ c ∈ s.toList, ¬ IsBreak c) → ∃ t, ofAnswer? (.str s) = some t ∧
    Joins s.toList t.toList ∧ joinLines t = t ∧ ofAnswer? (.str t) = some t
  /-- There are no other screenshots. -/
  others : ∀ v t, ofAnswer? v = some t → (∃ items, v = .arr items) ∨ ∃ s, v = .str s

theorem faithful : Faithful where
  array _ := exists_ofAnswer?_arr_iff
  bytes _ _ := holds_of_ofAnswer?
  distinct _ _ _ := eq_of_ofAnswer?_arr
  text s hs := by
    obtain ⟨t, ht, hne, hink⟩ := ofAnswer?_of_hasData (.text hs)
    have hstays : joinLines t = t := joinLines_of_not_isBreak hink
    have hs : s ≠ "" := by
      rintro rfl
      cases ht
    obtain rfl : joinLines s = t := Option.some.inj ((ofAnswer?_str hs).symm.trans ht)
    refine ⟨_, ht, joins_joinLines s, hstays, ?_⟩
    rw [ofAnswer?_str hne, hstays]
  others v t h := by
    cases v with
    | null | bool | num | obj => cases h
    | arr items => exact .inl ⟨items, rfl⟩
    | str s => exact .inr ⟨s, rfl⟩

/-- Five bytes, and a byte with a number that is none. -/
example : ofAnswer? (.arr ([104, 101, 108, 108, 111].map number)) = some "aGVsbG8=" ∧
    ofAnswer? (.arr [number 1, .num (.int 999)]) = none := by decide

end Courier.Screenshot
