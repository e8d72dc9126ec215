import Courier.Decoding
import Courier.Proofs.ObjectMembers

/-!
# Records, field by field

A record is read from an object or from an array, and either way its reader does the same: it
takes one field after the other and puts them together. So it is enough to look at the fields.
A cell is a field with its value and the way the value is written, and it is lawful if reading
undoes writing and if nothing but the value stands behind a null that is left out. From lawful
cells the record is read back, whatever else stands in the object.

An object may be checked in an order of its own, that of its keys, before any field is taken.
That no fault is found there is the only thing for which the keys must be distinct.
-/

namespace Courier

namespace Json

@[simp] theorem ofInt_inj {i j : Int} : ofInt i = ofInt j ↔ i = j :=
  ⟨fun h => Number.int.inj (Json.num.inj h), congrArg ofInt⟩

@[simp] theorem ofNat_inj {m n : Nat} : ofNat m = ofNat n ↔ m = n :=
  (ofInt_inj (i := m) (j := n)).trans Int.ofNat_inj

/-- An absent value is not written as any other. -/
theorem orNull_injective {α : Type} {write : α → Json} (hw : Function.Injective write)
    (hn : ∀ a, write a ≠ .null) : Function.Injective (orNull write) := by
  intro x y h
  cases x with
  | none =>
      cases y with
      | none => rfl
      | some b => exact absurd h.symm (hn b)
  | some a =>
      cases y with
      | none => exact absurd h (hn a)
      | some b => exact congrArg some (hw h)

@[simp] theorem orNull_str_inj {s t : Option String} : orNull str s = orNull str t ↔ s = t :=
  (orNull_injective (fun _ _ => Json.str.inj) fun _ => Json.noConfusion).eq_iff

@[simp] theorem orNull_ofInt_inj {i j : Option Int} : orNull ofInt i = orNull ofInt j ↔ i = j :=
  (orNull_injective (fun _ _ => ofInt_inj.1) fun _ => Json.noConfusion).eq_iff

end Json

namespace Decoding

/-! ## Single values -/

theorem natural_ofNat {n bound : Nat} (name : String) (h : n < bound) :
    natural name bound (.ofNat n) = .ok n := by
  have hin : (0 : Int) ≤ n ∧ (n : Int) ≤ bound - 1 := by omega
  show (integer name 0 (bound - 1) (.num (.int n))).map Int.toNat = .ok n
  rw [integer, if_pos hin]
  rfl

theorem lt_of_natural_ofNat {name : String} {n bound x : Nat}
    (h : natural name bound (.ofNat n) = .ok x) : n < bound := by
  refine Decidable.byContradiction fun hn => ?_
  have hout : ¬ ((0 : Int) ≤ n ∧ (n : Int) ≤ bound - 1) := by omega
  have hread : (integer name 0 (bound - 1) (.num (.int n))).map Int.toNat = .ok x := h
  rw [integer, if_neg hout] at hread
  cases hread

theorem int64_ofInt {i : Int} (h : -signedBound ≤ i ∧ i < signedBound) :
    int64 (.ofInt i) = .ok i := by
  have hin : -(signedBound : Int) ≤ i ∧ i ≤ signedBound - 1 := by omega
  show integer "i64" (-signedBound) (signedBound - 1) (.num (.int i)) = .ok i
  rw [integer, if_pos hin]

theorem bounds_of_int64_ofInt {i x : Int} (h : int64 (.ofInt i) = .ok x) :
    -signedBound ≤ i ∧ i < signedBound := by
  refine Decidable.byContradiction fun hn => ?_
  have hout : ¬ (-(signedBound : Int) ≤ i ∧ i ≤ signedBound - 1) := by omega
  have hread : integer "i64" (-signedBound) (signedBound - 1) (.num (.int i)) = .ok x := h
  rw [integer, if_neg hout] at hread
  cases hread

theorem optional_of_ne_null {α : Type} {read : Json → Decoded α} {v : Json} (h : v ≠ .null) :
    optional read v = (read v).map some := by
  cases v with
  | null => exact absurd rfl h
  | _ => rfl

/-- What is read back cannot be the same for two values. -/
theorem injective_of_read {α : Type} {write : α → Json} {read : Json → Decoded α}
    (h : ∀ a, read (write a) = .ok a) : Function.Injective write := by
  intro a b hab
  have hok : (.ok a : Decoded α) = .ok b := (h a).symm.trans (hab ▸ h b)
  exact Except.ok.inj hok

/-! ## Cells -/

/-- A field, the value it has and how that is written. -/
structure Cell where
  {α : Type}
  field : Field α
  value : α
  written : Json

namespace Cell

/-- The name of the field that the cell is for. -/
def name (c : Cell) : String := c.field.name

/-- The member of the written record. -/
def member (c : Cell) : String × Json := (c.name, c.written)

/-- The field reads the value back from its written form, also where null is left out. -/
structure Lawful (c : Cell) : Prop where
  read : c.field.read c.written = .ok c.value
  absent : c.written = .null → c.field.absent = some c.value

variable {α : Type} {read : Json → Decoded α} {write : α → Json}

theorem Lawful.required (name : String) {a : α} (h : read (write a) = .ok a)
    (hw : write a ≠ .null) : Lawful ⟨required name read, a, write a⟩ :=
  ⟨h, fun hnull => absurd hnull hw⟩

theorem Lawful.maybe (name : String) {a : Option α} (h : ∀ x ∈ a, read (write x) = .ok x)
    (hw : ∀ x ∈ a, write x ≠ .null) : Lawful ⟨maybe name read, a, Json.orNull write a⟩ := by
  cases a with
  | none => exact ⟨rfl, fun _ => rfl⟩
  | some x =>
      refine ⟨?_, fun hnull => absurd hnull (hw x rfl)⟩
      show optional read (write x) = .ok (some x)
      rw [optional_of_ne_null (hw x rfl), h x rfl]
      rfl

/-! The cells of the records at hand, each with its law. -/

/-- A text that has to be there. -/
def text (name s : String) : Cell := ⟨required name string, s, .str s⟩

/-- A text that may be missing. -/
def text? (name : String) (s : Option String) : Cell := ⟨maybe name string, s, .orNull .str s⟩

/-- A truth value that has to be there. -/
def flag (name : String) (b : Bool) : Cell := ⟨required name bool, b, .bool b⟩

/-- A flag that is off where it is left out. -/
def raised (name : String) (b : Bool) : Cell := ⟨defaulted name bool false, b, .bool b⟩

/-- A size that has to be there. -/
def count (name : String) (n : Nat) : Cell := ⟨required name Decoding.size, n, .ofNat n⟩

/-- An unsigned number that has to be there. -/
def word (name : String) (n : Nat) : Cell := ⟨required name Decoding.word64, n, .ofNat n⟩

/-- A signed number that has to be there. -/
def signed (name : String) (i : Int) : Cell := ⟨required name int64, i, .ofInt i⟩

/-- A signed number that may be missing. -/
def signed? (name : String) (i : Option Int) : Cell := ⟨maybe name int64, i, .orNull .ofInt i⟩

/-- One of several names. -/
def chosen (name : String) (read : Json → Decoded α) (write : α → Json) (a : α) : Cell :=
  ⟨required name read, a, write a⟩

/-- Any value at all, null where it is left out. -/
def anything (name : String) (v : Json) : Cell := ⟨defaulted name any .null, v, v⟩

variable (name : String)

theorem lawful_text (s : String) : (text name s).Lawful := .required name rfl Json.noConfusion

theorem lawful_text? (s : Option String) : (text? name s).Lawful :=
  .maybe name (fun _ _ => rfl) fun _ _ => Json.noConfusion

theorem lawful_flag (b : Bool) : (flag name b).Lawful := .required name rfl Json.noConfusion

theorem lawful_raised (b : Bool) : (raised name b).Lawful := ⟨rfl, Json.noConfusion⟩

theorem lawful_count {n : Nat} (h : n < wordBound) : (count name n).Lawful :=
  .required name (natural_ofNat _ h) Json.noConfusion

theorem lawful_word {n : Nat} (h : n < wordBound) : (word name n).Lawful :=
  .required name (natural_ofNat _ h) Json.noConfusion

theorem lawful_signed {i : Int} (h : -signedBound ≤ i ∧ i < signedBound) :
    (signed name i).Lawful :=
  .required name (int64_ofInt h) Json.noConfusion

theorem lawful_signed? {i : Option Int} (h : ∀ x ∈ i, -signedBound ≤ x ∧ x < signedBound) :
    (signed? name i).Lawful :=
  .maybe name (fun x hx => int64_ofInt (h x hx)) fun _ _ => Json.noConfusion

theorem lawful_chosen {a : α} (h : read (write a) = .ok a) (hw : write a ≠ .null) :
    (chosen name read write a).Lawful :=
  .required name h hw

theorem lawful_anything (v : Json) : (anything name v).Lawful :=
  ⟨rfl, fun hnull => congrArg some (Eq.symm hnull)⟩

/-- Something is read from what is written. -/
def Readable (c : Cell) : Prop := ∃ x, c.field.read c.written = .ok x

variable {name}

theorem Readable.count {n : Nat} (h : (count name n).Readable) : n < wordBound :=
  h.elim fun _ hread => lt_of_natural_ofNat hread

theorem Readable.word {n : Nat} (h : (word name n).Readable) : n < wordBound :=
  h.elim fun _ hread => lt_of_natural_ofNat hread

theorem Readable.signed {i : Int} (h : (signed name i).Readable) :
    -signedBound ≤ i ∧ i < signedBound :=
  h.elim fun _ hread => bounds_of_int64_ofInt hread

theorem Readable.signed? {i : Option Int} (h : (signed? name i).Readable) :
    ∀ x ∈ i, -signedBound ≤ x ∧ x < signedBound := by
  rintro x rfl
  obtain ⟨y, hread⟩ := h
  have hsome : (int64 (.ofInt x)).map some = .ok y := hread
  cases hx : int64 (.ofInt x) with
  | ok z => exact bounds_of_int64_ofInt hx
  | error e =>
      rw [hx] at hsome
      cases hsome

end Cell

/-! ## Taking fields -/

variable {c : Cell} {cells : List Cell} {o : Object} {vs : List Json} {s : Shape}

/-- Each field is there as it is written, or it is left out and would be null. -/
def Tells (cells : List Cell) (o : Object) : Prop :=
  ∀ c ∈ cells, (o.get? c.name).getD .null = c.written

theorem take_members (hl : c.Lawful) (h : (o.get? c.name).getD .null = c.written) (s : Shape)
    (i : Nat) : (Source.members o).take s i c.field = .ok c.value := by
  unfold Source.take
  cases hg : o.get? c.field.name with
  | none =>
      have hnull : c.written = .null := by
        rw [← h, Cell.name, hg]
        rfl
      simp only [hg, hl.absent hnull]
  | some v =>
      have hv : v = c.written := by
        rw [← h, Cell.name, hg]
        rfl
      simp only [hg, hv, hl.read]

theorem take_items (hl : c.Lawful) {i : Nat} (h : vs[i]? = some c.written) (s : Shape) :
    (Source.items vs).take s i c.field = .ok c.value := by
  simp only [Source.take, h, hl.read]

theorem Field.check_eq_none {α : Type} {f : Field α} {v : Json} {a : α} (h : f.read v = .ok a) :
    f.check.2 v = none := by
  simp only [check, h]

/-- The checks of the cells find no fault in an object that tells them. -/
theorem firstFault_eq_none (hl : ∀ c ∈ cells, c.Lawful) (hn : o.keys.Nodup) (ht : Tells cells o) :
    firstFault (cells.map fun c => c.field.check) o = none := by
  refine List.findSome?_eq_none_iff.2 fun m hm => ?_
  obtain ⟨key, v⟩ := m
  cases hf : (cells.map fun c => c.field.check).lookup key with
  | none => rfl
  | some fault =>
      obtain ⟨before, after, hsplit, -⟩ := List.lookup_eq_some_iff.1 hf
      have hmem : (key, fault) ∈ cells.map fun c => c.field.check := by
        rw [hsplit]
        exact List.mem_append_right _ List.mem_cons_self
      obtain ⟨c, hc, hcheck⟩ := List.mem_map.1 hmem
      cases hcheck
      have hv : v = c.written := by
        have h := ht c hc
        rw [Cell.name, Object.get?_of_mem hn hm] at h
        exact h
      exact Field.check_eq_none (hv ▸ (hl c hc).read)

theorem Field.read_of_check {α : Type} {f : Field α} {v : Json} (h : f.check.2 v = none) :
    ∃ x, f.read v = .ok x := by
  cases hread : f.read v with
  | ok x => exact ⟨x, rfl⟩
  | error e =>
      simp only [check, hread] at h
      cases h

theorem lookup_check (hn : (cells.map Cell.name).Nodup) (hc : c ∈ cells) :
    (cells.map fun c => c.field.check).lookup c.name = some c.field.check.2 := by
  induction cells with
  | nil => cases hc
  | cons d cells ih =>
      obtain ⟨hd, hn⟩ := List.nodup_cons.1 hn
      rw [List.map_cons, Field.check, List.lookup_cons]
      rcases List.mem_cons.1 hc with rfl | hc
      · rw [Cell.name, beq_self_eq_true]
        rfl
      · have hne : (c.name == d.name) = false :=
          beq_eq_false_iff_ne.2 fun he => hd (he ▸ List.mem_map_of_mem hc)
        rw [Cell.name, Cell.name] at hne
        rw [Cell.name, hne]
        exact ih hn hc

/-- Where no fault is found, each cell that is there has been read. -/
theorem readable_of_firstFault (hn : (cells.map Cell.name).Nodup)
    (h : firstFault (cells.map fun c => c.field.check) o = none) (hc : c ∈ cells)
    (hm : c.member ∈ o) : c.Readable := by
  have hfault := List.findSome?_eq_none_iff.1 h _ hm
  rw [Cell.member, lookup_check hn hc] at hfault
  exact Field.read_of_check hfault

/-- The fields of the cells are taken one after the other, from field `i` on. -/
def Source.Gives (src : Source) (s : Shape) : Nat → List Cell → Prop
  | _, [] => True
  | i, c :: cells => src.take s i c.field = .ok c.value ∧ src.Gives s (i + 1) cells

theorem gives_members (hl : ∀ c ∈ cells, c.Lawful) (ht : Tells cells o) (i : Nat) :
    (Source.members o).Gives s i cells := by
  induction cells generalizing i with
  | nil => trivial
  | cons c cells ih =>
      obtain ⟨hc, hl⟩ := List.forall_mem_cons.1 hl
      obtain ⟨hm, ht⟩ := List.forall_mem_cons.1 ht
      exact ⟨take_members hc hm s i, ih hl ht (i + 1)⟩

theorem gives_items (hl : ∀ c ∈ cells, c.Lawful) (before : List Json) :
    (Source.items (before ++ cells.map Cell.written)).Gives s before.length cells := by
  induction cells generalizing before with
  | nil => trivial
  | cons c cells ih =>
      obtain ⟨hc, hl⟩ := List.forall_mem_cons.1 hl
      refine ⟨take_items hc ?_ s, ?_⟩
      · rw [List.map_cons, List.getElem?_append_right (Nat.le_refl _), Nat.sub_self]
        rfl
      · have hrest := ih hl (before ++ [c.written])
        rw [List.append_assoc, List.length_append] at hrest
        exact hrest

/-! ## Records -/

variable {α : Type} {a : α} {decode : Json → Decoded α}

/-- The reader of a record that has these cells: what it builds from them is the value. -/
def Assembles (decode : Json → Decoded α) (cells : List Cell) (a : α) : Prop :=
  ∃ s build, s.fields = cells.length ∧
    decode = record s (cells.map fun c => c.field.check) build ∧
    ∀ src : Source, src.Gives s 0 cells → build src = .ok a

theorem Assembles.object (h : Assembles decode cells a) (hl : ∀ c ∈ cells, c.Lawful)
    (hn : o.keys.Nodup) (ht : Tells cells o) : decode (.obj o) = .ok a := by
  obtain ⟨s, build, -, rfl, hbuild⟩ := h
  have hok : build (.members o) = .ok a := hbuild _ (gives_members hl ht 0)
  simp only [record, firstFault_eq_none hl hn ht, hok]

theorem Assembles.readable {b : α} (h : Assembles decode cells a)
    (hn : (cells.map Cell.name).Nodup) (hok : decode (.obj o) = .ok b) (hc : c ∈ cells)
    (hm : c.member ∈ o) : c.Readable := by
  obtain ⟨s, build, -, rfl, -⟩ := h
  cases hf : firstFault (cells.map fun c => c.field.check) o with
  | none => exact readable_of_firstFault hn hf hc hm
  | some e =>
      simp only [record, hf] at hok
      cases hok

theorem Assembles.array (h : Assembles decode cells a) (hl : ∀ c ∈ cells, c.Lawful) :
    decode (.arr (cells.map Cell.written)) = .ok a := by
  obtain ⟨s, build, hwidth, rfl, hbuild⟩ := h
  have hok : build (.items (cells.map Cell.written)) = .ok a := hbuild _ (gives_items hl [])
  have hlen : ¬ s.fields < (cells.map Cell.written).length := by
    rw [List.length_map, hwidth]
    exact Nat.lt_irrefl _
  simp only [record, hok]
  exact if_neg hlen

end Decoding

end Courier
