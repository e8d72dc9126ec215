import Courier.Json.Basic

/-!
# Objects in order

An object whose keys stand in their order is determined by what its keys have for
values. Setting the value of a key keeps the order.
-/

namespace Courier

namespace Object

/-- The keys stand in their order, each once. -/
def Sorted (o : Object) : Prop := o.Pairwise fun a b => a.1 < b.1

instance (o : Object) : Decidable o.Sorted :=
  inferInstanceAs (Decidable (List.Pairwise (fun a b => a.1 < b.1) o))

variable {o o₁ o₂ : Object} {key : String} {value : Json}

theorem get?_eq_none (h : ∀ m ∈ o, key < m.1) : o.get? key = none := by
  induction o with
  | nil => rfl
  | cons m o ih =>
      obtain ⟨hm, ho⟩ := List.forall_mem_cons.1 h
      have hne : m.1 ≠ key := fun he => String.lt_irrefl key (he ▸ hm)
      exact (if_neg hne).trans (ih ho)

/-- Objects with the same members are the same. -/
theorem Sorted.ext (h₁ : o₁.Sorted) (h₂ : o₂.Sorted) (h : ∀ key, o₁.get? key = o₂.get? key) :
    o₁ = o₂ := by
  induction o₁ generalizing o₂ with
  | nil =>
      cases o₂ with
      | nil => rfl
      | cons m o₂ => cases (h m.1).trans (if_pos rfl)
  | cons m₁ o₁ ih =>
      cases o₂ with
      | nil => cases (h m₁.1).symm.trans (if_pos rfl)
      | cons m₂ o₂ =>
          obtain ⟨k₁, v₁⟩ := m₁
          obtain ⟨k₂, v₂⟩ := m₂
          obtain ⟨hm₁, ho₁⟩ := List.pairwise_cons.1 h₁
          obtain ⟨hm₂, ho₂⟩ := List.pairwise_cons.1 h₂
          -- The least key of one is a key of the other.
          have hle : ∀ {k k' : String} {v v' : Json} {o o' : Object}, (∀ m ∈ o', k' < m.1) →
              get? ((k, v) :: o) k = get? ((k', v') :: o') k → ¬ k < k' := by
            intro k k' v v' o o' hm' hg hlt
            rw [get?_eq_none (o := (k', v') :: o') (List.forall_mem_cons.2
              ⟨hlt, fun m hm => String.lt_trans hlt (hm' m hm)⟩)] at hg
            cases (if_pos rfl).symm.trans hg
          have hk : k₁ = k₂ := String.le_antisymm
            (String.not_lt.1 (hle hm₁ (h k₂).symm)) (String.not_lt.1 (hle hm₂ (h k₁)))
          subst hk
          have hv : some v₁ = some v₂ :=
            (if_pos rfl).symm.trans ((h k₁).trans (if_pos rfl))
          cases hv
          congr 1
          refine ih ho₁ ho₂ fun key => ?_
          by_cases hkey : k₁ = key
          · subst hkey
            rw [get?_eq_none hm₁, get?_eq_none hm₂]
          · exact (if_neg hkey).symm.trans ((h key).trans (if_neg hkey))

theorem mem_insert {m : String × Json} (h : m ∈ o.insert key value) :
    m = (key, value) ∨ m ∈ o := by
  induction o with
  | nil => exact .inl (List.mem_singleton.1 h)
  | cons m' o ih =>
      obtain ⟨k, v⟩ := m'
      unfold insert at h
      split at h
      · exact (List.mem_cons.1 h).imp id (List.mem_cons_of_mem _)
      · split at h
        · exact List.mem_cons.1 h
        · rcases List.mem_cons.1 h with rfl | h
          · exact .inr List.mem_cons_self
          · exact (ih h).imp id (List.mem_cons_of_mem _)

theorem Sorted.insert (h : o.Sorted) (key : String) (value : Json) :
    (o.insert key value).Sorted := by
  induction o with
  | nil => exact List.pairwise_singleton _ _
  | cons m o ih =>
      obtain ⟨k, v⟩ := m
      obtain ⟨hm, ho⟩ := List.pairwise_cons.1 h
      unfold Object.insert
      split
      · rename_i hk
        subst hk
        exact List.pairwise_cons.2 ⟨hm, ho⟩
      · rename_i hne
        split
        · rename_i hlt
          refine List.pairwise_cons.2 ⟨List.forall_mem_cons.2 ⟨hlt, fun m hm' => ?_⟩, h⟩
          exact String.lt_trans hlt (hm m hm')
        · rename_i hnlt
          have hlt : k < key := by
            refine Decidable.byContradiction fun hn => hne ?_
            exact String.le_antisymm (String.not_lt.1 hnlt) (String.not_lt.1 hn)
          refine List.pairwise_cons.2 ⟨fun m hm' => ?_, ih ho⟩
          rcases mem_insert hm' with rfl | hm'
          · exact hlt
          · exact hm m hm'

end Object

end Courier
