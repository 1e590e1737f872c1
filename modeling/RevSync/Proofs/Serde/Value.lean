import RevSync.Serde.Value
import RevSync.Proofs.Data.TextMap

/-! Fitting a shape element by element, and JSON values in serde's data model: a well-formed
value fits the self-describing shape and reads back as itself. -/

namespace RevSync

theorem mapM_eq_some_self {α : Type} {l : List α} {g : α → Option α} (h : ∀ x ∈ l, g x = some x) :
    l.mapM g = some l := by
  induction l with
  | nil => rfl
  | cons x rest ih =>
    simp [List.mapM_cons, h x List.mem_cons_self, ih fun y hy => h y (List.mem_cons_of_mem x hy)]

namespace Serde.Value

theorem itemsFit_iff (items : List Value) (s : Shape) :
    ItemsFit items s ↔ ∀ v ∈ items, v.Fits s := by
  induction items with
  | nil => simp [ItemsFit]
  | cons v rest ih => simp [ItemsFit, ih]

theorem entriesFit_iff (es : List (String × Value)) (s : Shape) :
    EntriesFit es s ↔ ∀ e ∈ es, e.2.Fits s := by
  induction es with
  | nil => simp [EntriesFit]
  | cons e rest ih => obtain ⟨k, v⟩ := e; simp [EntriesFit, ih]

theorem FieldsFit.names : ∀ {fs : List (String × Value)} {shapes : List (String × Shape)},
    FieldsFit fs shapes → fs.map Prod.fst = shapes.map Prod.fst
  | [], [], _ => rfl
  | (_, _) :: _, (_, _) :: _, h => by
    obtain ⟨rfl, -, hrest⟩ := (by simpa only [FieldsFit] using h)
    simp [FieldsFit.names hrest]
  | [], _ :: _, h | _ :: _, [], h => by simp [FieldsFit] at h

end Serde.Value

namespace Json

open Serde

theorem itemsWellFormed_iff (items : List Json) :
    ItemsWellFormed items ↔ ∀ v ∈ items, WellFormed v := by
  induction items with
  | nil => simp [ItemsWellFormed]
  | cons v rest ih => simp [ItemsWellFormed, ih]

theorem fieldsWellFormed_iff (fields : List (String × Json)) :
    FieldsWellFormed fields ↔ ∀ p ∈ fields, WellFormed p.2 := by
  induction fields with
  | nil => simp [FieldsWellFormed]
  | cons p rest ih => obtain ⟨k, v⟩ := p; simp [FieldsWellFormed, ih]

theorem itemsToValue_eq_map (items : List Json) : itemsToValue items = items.map toValue := by
  induction items with
  | nil => simp [itemsToValue]
  | cons v rest ih => rw [itemsToValue, ih, List.map_cons]

theorem fieldsToValue_eq_map (fs : List (String × Json)) :
    fieldsToValue fs = fs.map fun e => (e.1, e.2.toValue) := by
  induction fs with
  | nil => simp [fieldsToValue]
  | cons e rest ih => obtain ⟨k, v⟩ := e; rw [fieldsToValue, ih, List.map_cons]

theorem length_itemsToValue (items : List Json) : (itemsToValue items).length = items.length := by
  rw [itemsToValue_eq_map, List.length_map]

theorem length_fieldsToValue (fs : List (String × Json)) :
    (fieldsToValue fs).length = fs.length := by
  rw [fieldsToValue_eq_map, List.length_map]

theorem sorted_fieldsToValue {fs : List (String × Json)} :
    TextMap.Sorted (fieldsToValue fs) ↔ TextMap.Sorted fs := by
  simp [TextMap.Sorted, fieldsToValue_eq_map, List.pairwise_map]

mutual
theorem toValue_fits : ∀ {v : Json}, v.WellFormed → v.toValue.Fits .any
  | .null, _ | .bool _, _ | .str _, _ => by simp [toValue, Value.Fits]
  | .num (.nat _), h | .num (.negInt _), h | .num (.float _), h => by
    simpa [WellFormed, toValue, Value.Fits] using h
  | .arr items, h => by
    simp only [WellFormed, toValue, Value.Fits] at h ⊢
    exact itemsToValue_fits h
  | .obj fs, h => by
    simp only [WellFormed, toValue, Value.Fits] at h ⊢
    exact ⟨sorted_fieldsToValue.mpr h.1, fieldsToValue_fits h.2⟩

theorem itemsToValue_fits : ∀ {items : List Json}, ItemsWellFormed items →
    Value.ItemsFit (itemsToValue items) .any
  | [], _ => by simp [itemsToValue, Value.ItemsFit]
  | _ :: _, h => by
    simp only [ItemsWellFormed, itemsToValue, Value.ItemsFit] at h ⊢
    exact ⟨toValue_fits h.1, itemsToValue_fits h.2⟩

theorem fieldsToValue_fits : ∀ {fs : List (String × Json)}, FieldsWellFormed fs →
    Value.EntriesFit (fieldsToValue fs) .any
  | [], _ => by simp [fieldsToValue, Value.EntriesFit]
  | (_, _) :: _, h => by
    simp only [FieldsWellFormed, fieldsToValue, Value.EntriesFit] at h ⊢
    exact ⟨toValue_fits h.1, fieldsToValue_fits h.2⟩
end

mutual
theorem asJson_toValue : ∀ {v : Json}, v.WellFormed → v.toValue.asJson = some v
  | .null, _ | .bool _, _ | .str _, _ | .num (.nat _), _ | .num (.negInt _), _ => by
    simp [toValue, Value.asJson]
  | .num (.float x), h => by
    simp only [WellFormed, Number.InRange] at h
    simp [toValue, Value.asJson, h]
  | .arr items, h => by
    simp only [WellFormed] at h
    simp [toValue, Value.asJson, asJsonItems_itemsToValue h]
  | .obj fs, h => by
    simp only [WellFormed] at h
    simp [toValue, Value.asJson, asJsonFields_fieldsToValue h.2, TextMap.ofList_of_sorted h.1]

theorem asJsonItems_itemsToValue : ∀ {items : List Json}, ItemsWellFormed items →
    Value.asJsonItems (itemsToValue items) = some items
  | [], _ => by simp [itemsToValue, Value.asJsonItems]
  | _ :: _, h => by
    simp only [ItemsWellFormed] at h
    simp [itemsToValue, Value.asJsonItems, asJson_toValue h.1, asJsonItems_itemsToValue h.2]

theorem asJsonFields_fieldsToValue : ∀ {fs : List (String × Json)}, FieldsWellFormed fs →
    Value.asJsonFields (fieldsToValue fs) = some fs
  | [], _ => by simp [fieldsToValue, Value.asJsonFields]
  | (_, _) :: _, h => by
    simp only [FieldsWellFormed] at h
    simp [fieldsToValue, Value.asJsonFields, asJson_toValue h.1, asJsonFields_fieldsToValue h.2]
end

/-- An object's members read back as a sorted map. -/
theorem asTextMap_toValue {fs : List (String × Json)} (h : (Json.obj fs).WellFormed) :
    (Value.textMap (fieldsToValue fs)).asTextMap Value.asJson = some fs := by
  simp only [WellFormed] at h
  have hread : ∀ e ∈ fs, (fun (e : String × Json) => (e.1, e.2.toValue)) e |>.2.asJson.map
      (e.1, ·) = some e := fun e he => by
    simp [asJson_toValue ((fieldsWellFormed_iff fs).mp h.2 e he)]
  simp only [Value.asTextMap, fieldsToValue_eq_map, List.mapM_map]
  rw [mapM_eq_some_self (by simpa using hread)]
  simp [TextMap.ofList_of_sorted h.1]

end Json

namespace Serde.Value

mutual
/-- Every value of the self-describing shape is a well-formed JSON value's. -/
theorem exists_json_of_fits : ∀ {v : Value}, v.Fits .any → ∃ j : Json, j.WellFormed ∧ j.toValue = v
  | .nat n, h => ⟨.num (.nat n), by simpa [Json.WellFormed, Fits] using h, by simp [Json.toValue]⟩
  | .negInt n, h =>
    ⟨.num (.negInt n), by simpa [Json.WellFormed, Fits] using h, by simp [Json.toValue]⟩
  | .float x, h =>
    ⟨.num (.float x), by simpa [Json.WellFormed, Fits] using h, by simp [Json.toValue]⟩
  | .bool b, _ => ⟨.bool b, by simp [Json.WellFormed], by simp [Json.toValue]⟩
  | .text s, _ => ⟨.str s, by simp [Json.WellFormed], by simp [Json.toValue]⟩
  | .unit, _ => ⟨.null, by simp [Json.WellFormed], by simp [Json.toValue]⟩
  | .seq items, h => by
    simp only [Fits] at h
    obtain ⟨js, hjs, rfl⟩ := exists_items_of_fit h
    exact ⟨.arr js, by simpa [Json.WellFormed] using hjs, by simp [Json.toValue]⟩
  | .textMap es, h => by
    simp only [Fits] at h
    obtain ⟨fs, hfs, rfl⟩ := exists_fields_of_fit h.2
    exact ⟨.obj fs, by simpa [Json.WellFormed, Json.sorted_fieldsToValue.mp h.1] using hfs,
      by simp [Json.toValue]⟩
  | .uuid _, h | .none, h | .some _, h | .pair _ _, h | .struct _, h | .variant _ _, h => by
    simp [Fits] at h

theorem exists_items_of_fit : ∀ {items : List Value}, ItemsFit items .any →
    ∃ js : List Json, Json.ItemsWellFormed js ∧ Json.itemsToValue js = items
  | [], _ => ⟨[], by simp [Json.ItemsWellFormed], by simp [Json.itemsToValue]⟩
  | _ :: _, h => by
    simp only [ItemsFit] at h
    obtain ⟨j, hj, rfl⟩ := exists_json_of_fits h.1
    obtain ⟨js, hjs, rfl⟩ := exists_items_of_fit h.2
    exact ⟨j :: js, by simpa [Json.ItemsWellFormed] using ⟨hj, hjs⟩, by simp [Json.itemsToValue]⟩

theorem exists_fields_of_fit : ∀ {es : List (String × Value)}, EntriesFit es .any →
    ∃ fs : List (String × Json), Json.FieldsWellFormed fs ∧ Json.fieldsToValue fs = es
  | [], _ => ⟨[], by simp [Json.FieldsWellFormed], by simp [Json.fieldsToValue]⟩
  | (k, _) :: _, h => by
    simp only [EntriesFit] at h
    obtain ⟨j, hj, rfl⟩ := exists_json_of_fits h.1
    obtain ⟨fs, hfs, rfl⟩ := exists_fields_of_fit h.2
    exact ⟨(k, j) :: fs, by simpa [Json.FieldsWellFormed] using ⟨hj, hfs⟩,
      by simp [Json.fieldsToValue]⟩
end

end Serde.Value

end RevSync
