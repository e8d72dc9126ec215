import Courier.Json.Sorted
import Mathlib

/-!
# What a look-up finds

An object is a list of members, and the same members in another order are not the same list.
What they have in common is what a look-up finds in them, as long as no key stands there
twice. So an object is known by the members it was built from, whatever their order.
-/

namespace Courier.Object

variable {o members : Object} {key : String} {value : Json}

theorem get?_cons (k : String) (v : Json) (o : Object) (key : String) :
    get? ((k, v) :: o) key = if k = key then some v else o.get? key := rfl

theorem mem_of_get? (h : o.get? key = some value) : (key, value) ∈ o := by
  induction o with
  | nil => cases h
  | cons m o ih =>
      obtain ⟨k, v⟩ := m
      rw [get?_cons] at h
      split at h
      · next hk =>
          cases h
          exact hk ▸ List.mem_cons_self
      · exact List.mem_cons_of_mem _ (ih h)

theorem get?_eq_none_iff : o.get? key = none ↔ key ∉ o.keys := by
  induction o with
  | nil => exact iff_of_true rfl List.not_mem_nil
  | cons m o ih =>
      obtain ⟨k, v⟩ := m
      rw [get?_cons, keys, List.map_cons, List.mem_cons, not_or]
      split
      · next hk => exact iff_of_false (Option.some_ne_none v) fun h => h.1 hk.symm
      · next hk => exact ih.trans (and_iff_right (Ne.symm hk)).symm

theorem get?_of_mem (hn : o.keys.Nodup) (h : (key, value) ∈ o) : o.get? key = some value := by
  cases hg : o.get? key with
  | none => exact absurd (List.mem_map_of_mem h) (get?_eq_none_iff.1 hg)
  | some v =>
      have hv := List.inj_on_of_nodup_map hn (mem_of_get? hg) h rfl
      exact congrArg some (Prod.ext_iff.1 hv).2

theorem Sorted.nodup_keys (h : o.Sorted) : o.keys.Nodup :=
  List.pairwise_map.2 (h.imp fun {_ _} hlt => String.ne_of_lt hlt)

theorem sorted_ofList (members : Object) : (ofList members).Sorted := by
  suffices h : ∀ o : Object, o.Sorted → Sorted (members.foldl (fun o m => o.insert m.1 m.2) o) from
    h [] List.Pairwise.nil
  induction members with
  | nil => exact fun o ho => ho
  | cons m members ih => exact fun o ho => ih _ (ho.insert m.1 m.2)

/-- Members with keys of their own are all found, and nothing else is. -/
theorem get?_ofList (hn : members.keys.Nodup) (key : String) :
    (ofList members).get? key = members.get? key := by
  suffices h : ∀ o : Object, get? (members.foldl (fun o m => o.insert m.1 m.2) o) key =
      (members.get? key).or (o.get? key) from (h []).trans Option.or_none
  induction members with
  | nil => exact fun o => Option.none_or.symm
  | cons m members ih =>
      intro o
      obtain ⟨k, v⟩ := m
      obtain ⟨hk, hn⟩ := List.nodup_cons.1 hn
      rw [List.foldl_cons, ih hn, get?_cons]
      by_cases he : k = key
      · subst he
        rw [if_pos rfl, get?_eq_none_iff.2 hk, get?_insert_self]
        rfl
      · rw [if_neg he, get?_insert_of_ne he]

/-- Lists that have the same keys are equal where they have the same values for them. -/
theorem eq_of_keys_eq {β : Type} {l l' : List (String × β)}
    (hk : l.map Prod.fst = l'.map Prod.fst)
    (h : ∀ key a b, (key, a) ∈ l → (key, b) ∈ l' → a = b) : l = l' := by
  induction l generalizing l' with
  | nil => exact (List.map_eq_nil_iff.1 hk.symm).symm
  | cons m l ih =>
      cases l' with
      | nil => cases hk
      | cons m' l' =>
          obtain ⟨hm, hl⟩ := List.cons.inj hk
          have hv : m.2 = m'.2 := h m.1 m.2 m'.2 List.mem_cons_self (hm ▸ List.mem_cons_self)
          rw [Prod.ext hm hv, ih hl fun key a b ha hb =>
            h key a b (List.mem_cons_of_mem _ ha) (List.mem_cons_of_mem _ hb)]

/-- Which members an object was built from can be told from it if their keys are known. -/
theorem ofList_inj {members' : Object} (hk : members.keys = members'.keys)
    (hn : members.keys.Nodup) (h : ofList members = ofList members') : members = members' := by
  refine eq_of_keys_eq hk fun key v w hv hw => ?_
  have hv' : (ofList members).get? key = some v :=
    (get?_ofList hn key).trans (get?_of_mem hn hv)
  have hn' : members'.keys.Nodup := hk ▸ hn
  rw [h, get?_ofList hn', get?_of_mem hn' hw] at hv'
  exact (Option.some.inj hv').symm

end Courier.Object
