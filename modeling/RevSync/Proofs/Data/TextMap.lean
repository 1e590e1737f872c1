import RevSync.Data.TextMap
import Mathlib.Data.String.Basic

/-! # Ordered text maps

The operations of `TextMap` keep its entries in strictly increasing key order. In a map kept so,
each key stands once, and the entries are exactly the pairs `get?` finds. -/

namespace RevSync.TextMap

variable {α : Type}

@[simp] theorem sorted_nil : Sorted ([] : TextMap α) := List.Pairwise.nil

@[simp] theorem get?_nil (k : String) : get? ([] : TextMap α) k = none := rfl

theorem get?_cons (k k' : String) (v : α) (m : TextMap α) :
    get? ((k', v) :: m) k = if k = k' then some v else get? m k := by
  simp only [get?, List.lookup_cons]
  split <;> simp_all

theorem mem_insert {m : TextMap α} {k : String} {v : α} {p : String × α}
    (hp : p ∈ m.insert k v) : p = (k, v) ∨ p ∈ m := by
  induction m with
  | nil => simpa [insert] using hp
  | cons e m ih =>
      obtain ⟨k', v'⟩ := e
      simp only [insert] at hp
      split_ifs at hp with hlt heq
      · simpa using hp
      · subst heq
        rcases List.mem_cons.mp hp with rfl | hp
        · exact .inl rfl
        · exact .inr (List.mem_cons_of_mem _ hp)
      · rcases List.mem_cons.mp hp with rfl | hp
        · exact .inr List.mem_cons_self
        · rcases ih hp with rfl | hp
          · exact .inl rfl
          · exact .inr (List.mem_cons_of_mem _ hp)

/-- Inserting sets the key's value and leaves every other key alone, whatever the order. -/
@[simp] theorem get?_insert (m : TextMap α) (k k' : String) (v : α) :
    (m.insert k v).get? k' = if k' = k then some v else m.get? k' := by
  induction m with
  | nil => simp [insert, get?_cons]
  | cons e m ih =>
      obtain ⟨k₀, v₀⟩ := e
      simp only [insert]
      split_ifs with hlt heq <;> simp_all [get?_cons]

@[simp] theorem get?_erase (m : TextMap α) (k k' : String) :
    (m.erase k).get? k' = if k' = k then none else m.get? k' := by
  induction m with
  | nil => simp [erase]
  | cons e m ih =>
      obtain ⟨k₀, v₀⟩ := e
      by_cases h : k₀ = k
      · subst h
        have hskip : erase ((k₀, v₀) :: m) k₀ = erase m k₀ := by simp [erase]
        rw [hskip, ih, get?_cons]
        split_ifs <;> simp_all
      · have hkeep : erase ((k₀, v₀) :: m) k = (k₀, v₀) :: erase m k := by simp [erase, h]
        rw [hkeep, get?_cons, get?_cons, ih]
        split_ifs <;> simp_all

@[simp] theorem get?_mapValues {β : Type} (f : α → β) (m : TextMap α) (k : String) :
    (mapValues f m).get? k = (get? m k).map f := by
  induction m with
  | nil => rfl
  | cons e m ih =>
      obtain ⟨k₀, v₀⟩ := e
      change get? ((k₀, f v₀) :: mapValues f m) k = _
      rw [get?_cons, get?_cons, ih]
      split_ifs <;> rfl

theorem contains_iff (m : TextMap α) (k : String) : contains m k = true ↔ get? m k ≠ none := by
  simp [contains, Option.isSome_iff_ne_none]

theorem sorted_insert {m : TextMap α} (hm : Sorted m) (k : String) (v : α) :
    Sorted (m.insert k v) := by
  induction m with
  | nil => simp [insert, Sorted]
  | cons e m ih =>
      obtain ⟨k₀, v₀⟩ := e
      obtain ⟨hhead, htail⟩ := List.pairwise_cons.mp hm
      simp only [insert]
      split_ifs with hlt heq
      · refine List.Pairwise.cons ?_ hm
        intro p hp
        rcases List.mem_cons.mp hp with rfl | hp
        · exact hlt
        · exact lt_trans hlt (hhead p hp)
      · subst heq
        exact List.Pairwise.cons hhead htail
      · have hgt : k₀ < k := lt_of_le_of_ne (not_lt.mp hlt) (Ne.symm heq)
        refine List.Pairwise.cons ?_ (ih htail)
        intro p hp
        rcases mem_insert hp with rfl | hp
        · exact hgt
        · exact hhead p hp

theorem sorted_erase {m : TextMap α} (hm : Sorted m) (k : String) : Sorted (m.erase k) :=
  hm.sublist List.filter_sublist

/-- In an ordered map the entries are exactly the pairs `get?` finds. -/
theorem mem_iff_get? {m : TextMap α} (hm : Sorted m) (k : String) (v : α) :
    (k, v) ∈ m ↔ get? m k = some v := by
  induction m generalizing v with
  | nil => simp
  | cons e m ih =>
      obtain ⟨k₀, v₀⟩ := e
      obtain ⟨hhead, htail⟩ := List.pairwise_cons.mp hm
      rw [get?_cons, List.mem_cons, ih htail v]
      by_cases hk : k = k₀
      · subst hk
        have hnone : get? m k = none := by
          rw [← Option.not_isSome_iff_eq_none]
          intro hsome
          obtain ⟨w, hw⟩ := Option.isSome_iff_exists.mp hsome
          exact lt_irrefl k (hhead (k, w) ((ih htail w).mpr hw))
        simp [hnone, eq_comm]
      · simp [hk]

theorem mem_values_iff {m : TextMap α} (hm : Sorted m) (v : α) :
    v ∈ values m ↔ ∃ k, get? m k = some v := by
  simp only [values, List.mem_map]
  constructor
  · rintro ⟨⟨k, v'⟩, hmem, rfl⟩
    exact ⟨k, (mem_iff_get? hm k v').mp hmem⟩
  · rintro ⟨k, hk⟩
    exact ⟨(k, v), (mem_iff_get? hm k v).mpr hk, rfl⟩

/-- Inserting a key above every key of the map appends its entry. -/
theorem insert_of_lt {m : TextMap α} {k : String} (hk : ∀ p ∈ m, p.1 < k) (v : α) :
    m.insert k v = m ++ [(k, v)] := by
  induction m with
  | nil => rfl
  | cons e m ih =>
      obtain ⟨k₀, v₀⟩ := e
      have h0 : k₀ < k := hk _ List.mem_cons_self
      simp only [insert, List.cons_append]
      rw [if_neg (not_lt.mpr h0.le), if_neg (ne_of_gt h0),
        ih (fun p hp => hk p (List.mem_cons_of_mem _ hp))]

theorem foldl_insert_of_sorted (m acc : TextMap α) (hs : Sorted (acc ++ m)) :
    m.foldl (fun acc (p : String × α) => insert acc p.1 p.2) acc = acc ++ m := by
  induction m generalizing acc with
  | nil => simp
  | cons e m ih =>
      have hlt : ∀ p ∈ acc, p.1 < e.1 :=
        fun p hp => (List.pairwise_append.mp hs).2.2 p hp e List.mem_cons_self
      rw [List.foldl_cons, insert_of_lt hlt, ih]
      · simp
      · simpa using hs

/-- Building a map from the entries of an ordered map gives the map back. -/
theorem ofList_of_sorted {m : TextMap α} (hm : Sorted m) : ofList m = m := by
  simpa [ofList] using foldl_insert_of_sorted m [] (by simpa using hm)

end RevSync.TextMap
