import Courier.Proofs.BatchRefinement
import Courier.Proofs.RoundTrips

/-!
# What the written form of a report tells

The three kinds of report are written as objects with names of their own, and some of their
fields may be absent. Here each kind is a row of slots, one for every field it can have, and a
slot is empty if the field is absent. What is written are the slots that are not empty, so a
look-up finds what is in the slot, and an empty slot is told from one that holds a null, an
empty text or an empty object.

The tag is a slot like the others. It tells the kind, the kind tells the names of the slots,
and then the written form tells each of them. The only thing that gets lost is which command
it was, if two commands have one name.
-/

namespace Courier

/-! ## Slots -/

/-- What is written of a row of slots. -/
def filled (slots : List (String × Option Json)) : Object :=
  slots.filterMap fun slot => slot.2.map (Prod.mk slot.1)

section Slots

variable {slots : List (String × Option Json)} {name : String}

theorem keys_filled_sublist (slots : List (String × Option Json)) :
    (filled slots).keys.Sublist (slots.map Prod.fst) := by
  induction slots with
  | nil => exact List.Sublist.refl []
  | cons slot slots ih =>
      obtain ⟨n, v⟩ := slot
      cases v with
      | none => exact ih.cons n
      | some v => exact ih.cons_cons n

theorem get?_filled_of_mem {v : Option Json} (hn : (slots.map Prod.fst).Nodup)
    (h : (name, v) ∈ slots) : (filled slots).get? name = v := by
  have hkeys : (filled slots).keys.Nodup := hn.sublist (keys_filled_sublist slots)
  cases v with
  | some v => exact Object.get?_of_mem hkeys (List.mem_filterMap.2 ⟨_, h, rfl⟩)
  | none =>
      refine Object.get?_eq_none_iff.2 fun hmem => ?_
      obtain ⟨m, hm, hname⟩ := List.mem_map.1 hmem
      obtain ⟨slot, hslot, hm⟩ := List.mem_filterMap.1 hm
      obtain ⟨v, hv, rfl⟩ := Option.map_eq_some_iff.1 hm
      -- The name has one slot, and that is empty.
      have hsame : slot = (name, none) := List.inj_on_of_nodup_map hn hslot h hname
      rw [hsame] at hv
      cases hv

theorem get?_filled_of_notMem (h : name ∉ slots.map Prod.fst) : (filled slots).get? name = none :=
  Object.get?_eq_none_iff.2 fun hmem => h ((keys_filled_sublist slots).subset hmem)

end Slots

/-! ## The slots of a report -/

/-- The names of the fields that reports of a kind can have. -/
def ReportKind.fields : ReportKind → List String
  | .command =>
      ["commandName", "commandParameters", "result", "passed", "message", "screenshot", "type"]
  | .step =>
      ["guid", "description", "message", "passed", "screenshot", "element", "inputParameters",
       "outputParameters", "type"]
  | .test => ["name", "passed", "message", "type"]

theorem ReportKind.nodup_fields (k : ReportKind) : k.fields.Nodup := by
  cases k <;> decide

namespace Report

/-- The fields of a report, each with what is written for it; nothing for an absent field. -/
def slots (r : Report) : List (String × Option Json) :=
  match r with
  | .command c =>
      [("commandName", some (.str c.command.name)), ("commandParameters", some c.params),
       ("result", some c.result), ("passed", some (.bool c.passed)),
       ("message", c.message.map .str), ("screenshot", c.screenshot.map .str),
       ("type", some r.kind.encode)]
  | .step s =>
      [("guid", some (.str s.guid)), ("description", some (.str s.description)),
       ("message", some (.str s.message)), ("passed", some (.bool s.passed)),
       ("screenshot", s.screenshot.map .str), ("element", s.element.map SearchCriteria.encode),
       ("inputParameters", s.inputs.map .obj), ("outputParameters", s.outputs.map .obj),
       ("type", some r.kind.encode)]
  | .test t =>
      [("name", some (.str t.name)), ("passed", some (.bool t.passed)),
       ("message", t.message.map .str), ("type", some r.kind.encode)]

variable {r r' : Report} {name : String}

theorem names_slots (r : Report) : r.slots.map Prod.fst = r.kind.fields := by
  cases r <;> rfl

theorem nodup_slots (r : Report) : (r.slots.map Prod.fst).Nodup := by
  rw [r.names_slots]
  exact r.kind.nodup_fields

theorem encode_eq_filled (r : Report) : r.encode = .object (filled r.slots) := by
  cases r with
  | command c =>
      obtain ⟨command, params, result, passed, message, screenshot⟩ := c
      cases message <;> cases screenshot <;> rfl
  | step s =>
      obtain ⟨guid, description, message, passed, screenshot, element, inputs, outputs⟩ := s
      cases screenshot <;> cases element <;> cases inputs <;> cases outputs <;> rfl
  | test t =>
      obtain ⟨name, passed, message⟩ := t
      cases message <;> rfl

theorem get?_encode (r : Report) (name : String) :
    r.encode.get? name = (filled r.slots).get? name := by
  rw [r.encode_eq_filled]
  exact Object.get?_ofList (r.nodup_slots.sublist (keys_filled_sublist _)) name

theorem get?_encode_of_mem {v : Option Json} (h : (name, v) ∈ r.slots) :
    r.encode.get? name = v :=
  (r.get?_encode name).trans (get?_filled_of_mem r.nodup_slots h)

theorem get?_encode_of_notMem (h : name ∉ r.kind.fields) : r.encode.get? name = none := by
  rw [← r.names_slots] at h
  exact (r.get?_encode name).trans (get?_filled_of_notMem h)

theorem kind_eq_of_encode_eq (h : r.encode = r'.encode) : r.kind = r'.kind := by
  have hkind := Endpoint.kindOf?_encode r
  rw [h, Endpoint.kindOf?_encode r'] at hkind
  exact (Option.some.inj hkind).symm

theorem slots_eq_of_encode_eq (h : r.encode = r'.encode) : r.slots = r'.slots := by
  refine Object.eq_of_keys_eq ?_ fun name v w hv hw => ?_
  · rw [r.names_slots, r'.names_slots, kind_eq_of_encode_eq h]
  · rw [← get?_encode_of_mem hv, ← get?_encode_of_mem hw, h]

/-- The same report, but for commands that have the same name. -/
inductive Same : Report → Report → Prop
  | command (r : CommandReport) (c : Command) (h : c.name = r.command.name) :
      Same (.command r) (.command { r with command := c })
  | step (r : StepReport) : Same (.step r) (.step r)
  | test (r : TestReport) : Same (.test r) (.test r)

theorem Same.encode_eq (h : Same r r') : r.encode = r'.encode := by
  cases h with
  | command r c h => simp only [encode, CommandReport.encode, h]
  | step r => rfl
  | test r => rfl

theorem same_of_encode_eq (h : r.encode = r'.encode) : Same r r' := by
  have hkind := kind_eq_of_encode_eq h
  have hslots := slots_eq_of_encode_eq h
  have htext : Function.Injective (Option.map Json.str) :=
    Option.map_injective fun _ _ => Json.str.inj
  have hmap : Function.Injective (Option.map Json.obj) :=
    Option.map_injective fun _ _ => Json.obj.inj
  have helement : Function.Injective (Option.map SearchCriteria.encode) :=
    Option.map_injective SearchCriteria.owes.injective
  cases r with
  | command c =>
      cases r' with
      | command c' =>
          obtain ⟨command, params, result, passed, message, screenshot⟩ := c
          simp only [slots, List.cons.injEq, Prod.mk.injEq, Option.some.injEq, Json.str.injEq,
            Json.bool.injEq, htext.eq_iff, true_and] at hslots
          obtain ⟨hname, rfl, rfl, rfl, rfl, rfl, -⟩ := hslots
          exact Same.command _ c'.command hname.symm
      | step s => cases hkind
      | test t => cases hkind
  | step s =>
      cases r' with
      | step s' =>
          obtain ⟨guid, description, message, passed, screenshot, element, inputs, outputs⟩ := s
          simp only [slots, List.cons.injEq, Prod.mk.injEq, Option.some.injEq, Json.str.injEq,
            Json.bool.injEq, htext.eq_iff, hmap.eq_iff, helement.eq_iff, true_and] at hslots
          obtain ⟨rfl, rfl, rfl, rfl, rfl, rfl, rfl, rfl, -⟩ := hslots
          exact Same.step s'
      | command c => cases hkind
      | test t => cases hkind
  | test t =>
      cases r' with
      | test t' =>
          obtain ⟨name, passed, message⟩ := t
          simp only [slots, List.cons.injEq, Prod.mk.injEq, Option.some.injEq, Json.str.injEq,
            Json.bool.injEq, htext.eq_iff, true_and] at hslots
          obtain ⟨rfl, rfl, rfl, -⟩ := hslots
          exact Same.test t'
      | command c => cases hkind
      | step s => cases hkind

theorem encode_eq_iff : r.encode = r'.encode ↔ Same r r' :=
  ⟨same_of_encode_eq, Same.encode_eq⟩

/-- The array of a batch tells its reports in their order. -/
theorem map_encode_eq_iff (rs rs' : List Report) :
    rs.map encode = rs'.map encode ↔ List.Forall₂ Same rs rs' := by
  rw [← List.forall₂_eq_eq_eq, List.forall₂_map_left_iff, List.forall₂_map_right_iff]
  simp only [encode_eq_iff]

/-! ## Nulls -/

theorem mem_slots_of_get?_encode {v : Json} (h : r.encode.get? name = some v) :
    (name, some v) ∈ r.slots := by
  have hname : name ∈ r.slots.map Prod.fst := by
    refine Decidable.byContradiction fun hn => ?_
    rw [r.names_slots] at hn
    rw [get?_encode_of_notMem hn] at h
    cases h
  obtain ⟨slot, hslot, rfl⟩ := List.mem_map.1 hname
  have hv : slot.2 = some v := (get?_encode_of_mem hslot).symm.trans h
  rw [← hv]
  exact hslot

/-- Only the parameters and the result of a command are written as null. -/
theorem get?_encode_eq_null_iff :
    r.encode.get? name = some .null ↔
      ∃ c, r = .command c ∧
        (name = "commandParameters" ∧ c.params = .null ∨ name = "result" ∧ c.result = .null) := by
  constructor
  · intro h
    have hslot := mem_slots_of_get?_encode h
    cases r with
    | command c =>
        simpa [slots, ReportKind.encode, eq_comm] using hslot
    | step s =>
        simp [slots, ReportKind.encode, SearchCriteria.encode, Json.object] at hslot
    | test t =>
        simp [slots, ReportKind.encode] at hslot
  · rintro ⟨c, rfl, ⟨rfl, hnull⟩ | ⟨rfl, hnull⟩⟩
    · exact get?_encode_of_mem (by simp [slots, hnull])
    · exact get?_encode_of_mem (by simp [slots, hnull])

/-- The written form tells a report, and an absent field from every value it can have. -/
structure Unambiguous : Prop where
  same : ∀ r r' : Report, r.encode = r'.encode ↔ Same r r'
  batch : ∀ rs rs' : List Report, rs.map encode = rs'.map encode ↔ List.Forall₂ Same rs rs'
  found : ∀ (r : Report) name v, (name, v) ∈ r.slots → r.encode.get? name = v
  others : ∀ (r : Report) name, name ∉ r.kind.fields → r.encode.get? name = none
  null : ∀ (r : Report) name, r.encode.get? name = some .null ↔
    ∃ c, r = .command c ∧
      (name = "commandParameters" ∧ c.params = .null ∨ name = "result" ∧ c.result = .null)

theorem unambiguous : Unambiguous where
  same _ _ := encode_eq_iff
  batch := map_encode_eq_iff
  found _ _ _ := get?_encode_of_mem
  others _ _ := get?_encode_of_notMem
  null _ _ := get?_encode_eq_null_iff

end Report

end Courier
