import RevSync.Cbor.Serde
import RevSync.Proofs.Cbor.Json
import RevSync.Proofs.Serde.Value

/-! The CBOR codec reads back every value it writes, by the shape the value fits, as long as its
identifier scratch and its depth are as large as the input: `Cbor.unbounded` round-trips. -/

namespace RevSync

namespace Cbor

open Serde

/-! ### The layout of a written value -/

theorem writeItems_eq (items : List Value) (out : ByteArray) :
    writeItems items out = out ++ (items.map write).foldl (· ++ ·) ByteArray.empty := by
  induction items generalizing out with
  | nil => simp [writeItems, ByteArray.append_empty]
  | cons v rest ih =>
    rw [writeItems, ih, List.map_cons, Read.foldl_append_cons, ByteArray.append_assoc]

theorem writeEntries_eq (es : List (String × Value)) (out : ByteArray) :
    writeEntries es out =
      out ++ (es.map fun e => text e.1 ++ write e.2).foldl (· ++ ·) ByteArray.empty := by
  induction es generalizing out with
  | nil => simp [writeEntries, ByteArray.append_empty]
  | cons e rest ih =>
    obtain ⟨k, v⟩ := e
    rw [writeEntries, ih, List.map_cons, Read.foldl_append_cons, ByteArray.append_assoc,
      ByteArray.append_assoc, ByteArray.append_assoc]

theorem write_seq (items : List Value) : write (.seq items) = Cbor.array (items.map write) := by
  rw [write, writeItems_eq, Read.array_eq, List.length_map]

theorem writeEntries_record (es : List (String × Value)) :
    writeEntries es (Head.map (some es.length)).write =
      Cbor.record (es.map fun e => (e.1, write e.2)) := by
  rw [writeEntries_eq, Read.record_eq, List.map_map, List.length_map]
  rfl

theorem write_textMap (es : List (String × Value)) :
    write (.textMap es) = Cbor.record (es.map fun e => (e.1, write e.2)) := by
  rw [write, writeEntries_record]

theorem write_struct (fs : List (String × Value)) :
    write (.struct fs) = Cbor.record (fs.map fun e => (e.1, write e.2)) := by
  rw [write, writeEntries_record]

mutual
theorem write_toValue : ∀ v : Json, write v.toValue = v.toCbor
  | .null | .bool _ | .num (.nat _) | .num (.negInt _) | .num (.float _) | .str _ => rfl
  | .arr items => by
    rw [Json.toValue, write, Json.toCbor, writeItems_itemsToValue, Json.length_itemsToValue]
  | .obj fs => by
    rw [Json.toValue, write, Json.toCbor, writeEntries_fieldsToValue, Json.length_fieldsToValue]

theorem writeItems_itemsToValue : ∀ (items : List Json) (out : ByteArray),
    writeItems (Json.itemsToValue items) out = Json.itemsToCbor items out
  | [], _ => rfl
  | v :: rest, out => by
    rw [Json.itemsToValue, writeItems, Json.itemsToCbor, write_toValue, writeItems_itemsToValue]

theorem writeEntries_fieldsToValue : ∀ (fs : List (String × Json)) (out : ByteArray),
    writeEntries (Json.fieldsToValue fs) out = Json.fieldsToCbor fs out
  | [], _ => rfl
  | (k, v) :: rest, out => by
    rw [Json.fieldsToValue, writeEntries, Json.fieldsToCbor, write_toValue,
      writeEntries_fieldsToValue]
end

theorem write_size_pos : ∀ v : Value, 0 < (write v).size
  | .some v => write_size_pos v
  | .seq items => by
    rw [write_seq, Read.array_eq, ByteArray.size_append]
    have := Read.size_encodeArgument_pos 4 (items.map write).length
    simp only [Head.write, Option.elim] at this ⊢
    omega
  | .textMap es => by
    rw [write_textMap, Read.record_eq, ByteArray.size_append]
    have := Read.size_encodeArgument_pos 5 (es.map fun e => (e.1, write e.2)).length
    simp only [Head.write, Option.elim] at this ⊢
    omega
  | .struct fs => by
    rw [write_struct, Read.record_eq, ByteArray.size_append]
    have := Read.size_encodeArgument_pos 5 (fs.map fun e => (e.1, write e.2)).length
    simp only [Head.write, Option.elim] at this ⊢
    omega
  | .negInt n => Json.toCbor_size_pos (.num (.negInt n))
  | .float x => Json.toCbor_size_pos (.num (.float x))
  | .text s | .variant s .none => Read.text_size_pos s
  | .pair _ _ | .variant _ (.some _) => by
    simp only [write, ByteArray.size_append, Head.write, Option.elim]
    have := Read.size_encodeArgument_pos 4 2
    have := Read.size_encodeArgument_pos 5 1
    omega
  | .nat n => Read.size_encodeArgument_pos 0 n
  | .bool _ | .unit | .none => Read.size_encodeArgument_pos 7 _
  | .uuid u => by
    simp only [write, Cbor.bytes, ByteArray.size_append, Head.write, Option.elim]
    have := Read.size_encodeArgument_pos 2 u.bytes.size
    omega

/-! ### Reading by shape -/

namespace Read

variable {b : ByteArray} {scratch : Nat} {d pos : Nat}

/-! The reader's equations, one shape at a time, stated once so that proofs rewrite with them
instead of unfolding the whole reader. -/

theorem shaped_nat_eq (max : Nat) :
    shaped b scratch (.nat max) d pos = (fun (n, q) => (.nat n, q)) <$> natUpTo b max pos := rfl

theorem shaped_bool_eq : shaped b scratch .bool d pos = (fun (v, q) => (.bool v, q)) <$> bool b pos :=
  rfl

theorem shaped_text_eq :
    shaped b scratch .text d pos = (fun (s, q) => (.text s, q)) <$> string b pos := rfl

theorem shaped_uuid_eq :
    shaped b scratch .uuid d pos = (fun (u, q) => (.uuid u, q)) <$> uuid b d pos scratch := rfl

theorem shaped_option_eq (s : Shape) :
    shaped b scratch (.option s) d pos =
      (fun (o, q) => (o.elim .none .some, q)) <$> optional b (shaped b scratch s d) pos := rfl

theorem shaped_seq_eq (s : Shape) :
    shaped b scratch (.seq s) d pos = (fun (vs, q) => (.seq vs, q)) <$> array b (shaped b scratch s) d pos :=
  rfl

theorem shaped_pair_eq (s t : Shape) :
    shaped b scratch (.pair s t) d pos = (do
      let (h, p) ← untagged b pos
      match h, d with
      | .array len, d + 1 => do
        let (some rest, p1) ← nextElement b len p | none
        let (x, p2) ← shaped b scratch s d p1
        let (some _, p3) ← nextElement b rest p2 | none
        let (y, p4) ← shaped b scratch t d p3
        pure (.pair x y, p4)
      | _, _ => none) := rfl

theorem shaped_textMap_eq (s : Shape) :
    shaped b scratch (.textMap s) d pos =
      (fun (m, q) => (.textMap m, q)) <$> textMap b (shaped b scratch s) d pos := rfl

theorem shaped_struct_eq (fs : List (String × Shape)) (inPlace : Bool) :
    shaped b scratch (.struct fs inPlace) d pos =
      (fun (found, q) => (.struct found.reverse, q)) <$>
        if inPlace then
          recordOrFields b (fs.map Prod.fst)
            (fun found i d p => (fun (e, q) => (e :: found, q)) <$> field b scratch fs i d p) [] d
            pos scratch
        else
          record b (fs.map Prod.fst)
            (fun found i d p => (fun (e, q) => (e :: found, q)) <$> field b scratch fs i d p) [] d
            pos scratch := rfl

theorem shaped_any_eq :
    shaped b scratch .any d pos = (fun (v, q) => (v.toValue, q)) <$> json b d pos scratch := rfl

theorem shaped_enum_eq (vs : List (String × Option Shape)) :
    shaped b scratch (.enum vs) d pos = (do
      let start ← skipTags b pos
      let (h, p) ← Head.read b start
      let nameAt ← match h with
        | .map (some 1) => some p
        | .text _ => some start
        | _ => none
      let (kind, q) ← identifier b nameAt scratch
      variant b scratch vs kind (d - 1) q) := rfl

theorem field_zero_eq (name : String) (s : Shape) (rest : List (String × Shape)) :
    field b scratch ((name, s) :: rest) 0 d pos =
      (fun (v, q) => ((name, v), q)) <$> shaped b scratch s d pos := rfl

theorem field_succ_eq (e : String × Shape) (rest : List (String × Shape)) (i : Nat) :
    field b scratch (e :: rest) (i + 1) d pos = field b scratch rest i d pos := rfl

theorem variant_unit_eq (name kind : String) (rest : List (String × Option Shape)) :
    variant b scratch ((name, .none) :: rest) kind d pos =
      if kind = name then some (.variant name .none, pos) else variant b scratch rest kind d pos :=
  rfl

theorem variant_content_eq (name kind : String) (s : Shape) (rest : List (String × Option Shape)) :
    variant b scratch ((name, .some s) :: rest) kind d pos =
      if kind = name then (fun (v, r) => (.variant name (.some v), r)) <$> shaped b scratch s d pos
      else variant b scratch rest kind d pos := rfl

theorem skipTags_eq {pos q : Nat} {h : Head} (hread : Head.read b pos = some (h, q))
    (hnt : ∀ t, h ≠ .tag t) : skipTags b pos = some pos := by
  unfold skipTags skipTags.go
  simp only [hread, Option.bind_eq_bind, Option.bind_some]

/-- A shape never written as `null` reads nothing where the next head is missing or is `null` or
`undefined`. -/
theorem shaped_eq_none {s : Shape} {d pos : Nat} (hs : s.nullable = false)
    (hnull : ∀ h p, Head.read b pos = some (h, p) → h = .simple 22 ∨ h = .simple 23) :
    shaped b scratch s d pos = none := by
  rcases hread : Head.read b pos with _ | ⟨h, p⟩
  · have hu : untagged b pos = none := by simp [untagged, untagged.go, hread]
    cases s <;> simp [shaped_nat_eq, shaped_bool_eq, shaped_text_eq, shaped_uuid_eq, shaped_seq_eq,
      shaped_pair_eq, shaped_textMap_eq, shaped_struct_eq, shaped_enum_eq, hu,
      hread, natUpTo, integer, integer.go, bool, string, uuid, array, textMap, record,
      recordOrFields, skipTags, skipTags.go, Shape.nullable] at hs ⊢
  · obtain rfl | rfl := hnull h p hread <;>
    · have hu := untagged_eq hread (by simp)
      cases s <;> simp [shaped_nat_eq, shaped_bool_eq, shaped_text_eq, shaped_uuid_eq,
        shaped_seq_eq, shaped_pair_eq, shaped_textMap_eq, shaped_struct_eq, shaped_enum_eq, hu,
        hread, natUpTo, integer, integer.go, bool, string, uuid, array, textMap, record,
        recordOrFields, skipTags, skipTags.go, Shape.nullable] at hs ⊢

theorem variant_unit {n : String} {d q : Nat} :
    ∀ {vs : List (String × Option Shape)}, Value.VariantFits n .none vs →
      variant b scratch vs n d q = some (.variant n .none, q)
  | [], h => by simp [Value.VariantFits] at h
  | (m, .none) :: rest, h => by
    by_cases hm : n = m
    · simp [variant_unit_eq, hm]
    · simp only [Value.VariantFits, hm, if_false] at h
      simp [variant_unit_eq, hm, variant_unit h]
  | (m, .some _) :: rest, h => by
    by_cases hm : n = m
    · simp [Value.VariantFits, hm] at h
    · simp only [Value.VariantFits, hm, if_false] at h
      simp [variant_content_eq, hm, variant_unit h]

theorem variant_content {n : String} {v : Value} {d q r : Nat}
    (hv : ∀ s, v.Fits s → shaped b scratch s d q = some (v, r)) :
    ∀ {vs : List (String × Option Shape)}, Value.VariantFits n (.some v) vs →
      variant b scratch vs n d q = some (.variant n (.some v), r)
  | [], h => by simp [Value.VariantFits] at h
  | (m, .none) :: rest, h => by
    by_cases hm : n = m
    · simp [Value.VariantFits, hm] at h
    · simp only [Value.VariantFits, hm, if_false] at h
      simp [variant_unit_eq, hm, variant_content hv h]
  | (m, .some s) :: rest, h => by
    by_cases hm : n = m
    · simp only [Value.VariantFits, hm, if_true] at h
      simp [variant_content_eq, hm, hv s h]
    · simp only [Value.VariantFits, hm, if_false] at h
      simp [variant_content_eq, hm, variant_content hv h]

/-- A struct's field `i` reads back, named, when each field's value reads back by any shape it
fits. -/
theorem field_eq {d : Nat} :
    ∀ {fs : List (String × Value)} {shapes : List (String × Shape)}, Value.FieldsFit fs shapes →
      (∀ e ∈ fs, ∀ s p, e.2.Fits s → Embeds b p (write e.2) →
        shaped b scratch s d p = some (e.2, p + (write e.2).size)) →
      ∀ i (hi : i < fs.length) p, Embeds b p (write fs[i].2) →
        field b scratch shapes i d p = some (fs[i], p + (write fs[i].2).size)
  | [], _, _, _, i, hi, _, _ => absurd hi (Nat.not_lt_zero i)
  | (n, v) :: rest, [], h, _, _, _, _, _ => by simp [Value.FieldsFit] at h
  | (n, v) :: rest, (m, s) :: shapes, h, ih, i, hi, p, hp => by
    obtain ⟨rfl, hv, hrest⟩ := (by simpa only [Value.FieldsFit] using h)
    cases i with
    | zero => simp [field_zero_eq, ih (n, v) (by simp) s p hv hp]
    | succ i =>
      simp only [List.length_cons, Nat.add_lt_add_iff_right] at hi
      simpa [field_succ_eq] using field_eq hrest (fun e he => ih e (by simp [he])) i hi p hp

/-- The entries found field after field, in the order read, are the fields. -/
theorem foldl_range_getElem? {α : Type} (l : List α) :
    ∀ n ≤ l.length, (List.range n).foldl (fun acc i => l[i]?.toList ++ acc) [] = (l.take n).reverse
  | 0, _ => rfl
  | n + 1, hn => by
    rw [List.range_succ, List.foldl_append, foldl_range_getElem? l n (by omega), List.foldl_cons,
      List.foldl_nil, List.take_add_one, List.reverse_append, List.getElem?_eq_getElem (by omega)]
    rfl

/-! ### One lemma per shape, from what its parts read back -/

section Shapes

variable {d pos : Nat} (hb : b.size < Nat.pow 2 64)
include hb

theorem shaped_nat {n max : Nat} (hv : (Value.nat n).Fits (.nat max))
    (he : Embeds b pos (write (.nat n))) :
    shaped b scratch (.nat max) d pos = some (.nat n, pos + (write (.nat n)).size) := by
  simp only [Value.Fits] at hv
  simp only [write] at he ⊢
  simp [shaped_nat_eq, natUpTo_unsigned hv.1 hv.2 b pos hb he]

theorem shaped_bool {x : Bool} (he : Embeds b pos (write (.bool x))) :
    shaped b scratch .bool d pos = some (.bool x, pos + (write (.bool x)).size) := by
  simp only [write] at he ⊢
  simp [shaped_bool_eq, bool_bool x b pos hb he]

theorem shaped_text {t : String} (he : Embeds b pos (write (.text t))) :
    shaped b scratch .text d pos = some (.text t, pos + (write (.text t)).size) := by
  simp only [write] at he ⊢
  simp [shaped_text_eq, string_text t b pos hb he]

theorem shaped_uuid {u : Uuid} (hsc : b.size ≤ scratch) (hv : u.bytes.size = 16)
    (he : Embeds b pos (write (.uuid u))) :
    shaped b scratch .uuid d pos = some (.uuid u, pos + (write (.uuid u)).size) := by
  have hle := he.le_size
  simp only [write] at he hle ⊢
  have h16 : 16 ≤ scratch := by
    simp only [Cbor.bytes, ByteArray.size_append, hv] at hle
    omega
  simp [shaped_uuid_eq, uuid_bytes hv h16 b pos hb he]

theorem shaped_none {s : Shape} (he : Embeds b pos (write .none)) :
    shaped b scratch (.option s) d pos = some (.none, pos + (write .none).size) := by
  simp only [write] at he ⊢
  simp [shaped_option_eq, optional_null (fun b => shaped b scratch s d) b pos hb he]

omit hb in
/-- A present option reads as what its value reads as, since the value's own reader refuses a
`null` head. -/
theorem shaped_some {s : Shape} {v : Value} {r : Nat} (hnull : s.nullable = false)
    (hv : shaped b scratch s d pos = some (v, r)) :
    shaped b scratch (.option s) d pos = some (.some v, r) := by
  obtain ⟨h, p, hread, h22, h23⟩ :
      ∃ h p, Head.read b pos = some (h, p) ∧ h ≠ .simple 22 ∧ h ≠ .simple 23 := by
    by_contra hno
    simp only [not_exists, not_and] at hno
    rw [shaped_eq_none hnull fun h p hr =>
      or_iff_not_imp_left.2 fun h22 => not_not.1 (hno h p hr h22)] at hv
    cases hv
  simp [shaped_option_eq, optional, hread, hv]

theorem shaped_seq {s : Shape} {items : List Value}
    (hitems : ∀ x ∈ items, ∀ p, Embeds b p (write x) →
      shaped b scratch s d p = some (x, p + (write x).size))
    (he : Embeds b pos (write (.seq items))) :
    shaped b scratch (.seq s) (d + 1) pos = some (.seq items, pos + (write (.seq items)).size) := by
  rw [write_seq] at he ⊢
  rw [shaped_seq_eq]
  rw [array_items_at hb hitems (fun x _ => write_size_pos x) he]
  rfl

omit hb in
theorem shaped_pair {s t : Shape} {x y : Value}
    (hx : ∀ p, Embeds b p (write x) → shaped b scratch s d p = some (x, p + (write x).size))
    (hy : ∀ p, Embeds b p (write y) → shaped b scratch t d p = some (y, p + (write y).size))
    (he : Embeds b pos (write (.pair x y))) :
    shaped b scratch (.pair s t) (d + 1) pos = some (.pair x y, pos + (write (.pair x y)).size) := by
  simp only [write] at he ⊢
  have hhead := Head.read_write (.array (some 2)) (by simp [Head.Writable])
    he.append_left.append_left
  have hx' := hx _ he.append_left.append_right
  have hy' := hy _ he.append_right
  simp only [ByteArray.size_append] at hy'
  simp [shaped_pair_eq, untagged_eq hhead (by simp), nextElement, hx', hy', ByteArray.size_append,
    Nat.add_assoc]

theorem shaped_textMap {s : Shape} {es : List (String × Value)} (hsorted : TextMap.Sorted es)
    (hes : ∀ e ∈ es, ∀ p, Embeds b p (write e.2) →
      shaped b scratch s d p = some (e.2, p + (write e.2).size))
    (he : Embeds b pos (write (.textMap es))) :
    shaped b scratch (.textMap s) (d + 1) pos =
      some (.textMap es, pos + (write (.textMap es)).size) := by
  rw [write_textMap] at he ⊢
  rw [shaped_textMap_eq]
  rw [textMap_record_at hb hsorted hes he]
  rfl

/-- A struct reads back field by field, in the order of its shape, as a map or, named in place,
also as a map. -/
theorem shaped_struct {shapes : List (String × Shape)} {inPlace : Bool}
    {fs : List (String × Value)} (hsc : b.size ≤ scratch) (hnodup : (shapes.map Prod.fst).Nodup)
    (hfit : Value.FieldsFit fs shapes)
    (hfs : ∀ e ∈ fs, ∀ s p, e.2.Fits s → Embeds b p (write e.2) →
      shaped b scratch s d p = some (e.2, p + (write e.2).size))
    (he : Embeds b pos (write (.struct fs))) :
    shaped b scratch (.struct shapes inPlace) (d + 1) pos =
      some (.struct fs, pos + (write (.struct fs)).size) := by
  have hle := he.le_size
  rw [write_struct] at he hle ⊢
  have hnames : (fs.map fun e => (e.1, write e.2)).map Prod.fst = shapes.map Prod.fst := by
    rw [← hfit.names, List.map_map]
    rfl
  have hshort : ∀ k ∈ shapes.map Prod.fst, k.utf8ByteSize ≤ scratch := by
    intro k hk
    rw [← hfit.names] at hk
    obtain ⟨e, hmem, rfl⟩ := List.mem_map.mp hk
    have := size_lt_record (List.mem_map_of_mem (f := fun e => (e.1, write e.2)) hmem)
    have := utf8ByteSize_le_size_text e.1
    dsimp only at *
    omega
  have hfield := @field_eq b scratch d fs shapes hfit hfs
  have hrec : record b (shapes.map Prod.fst)
      (fun found i d p => Option.map (fun x => (x.1 :: found, x.2)) (field b scratch shapes i d p))
      [] (d + 1) pos scratch =
      some ((List.range fs.length).foldl (fun acc i => fs[i]?.toList ++ acc) [],
        pos + (Cbor.record (fs.map fun e => (e.1, write e.2))).size) := by
    rw [record_fields (σ := List (String × Value)) (d := d)
      (fun i acc => fs[i]?.toList ++ acc) hnames hnodup hshort hb ?_ [] he, List.length_map]
    intro i hi acc p hp
    simp only [List.length_map] at hi
    simp only [List.getElem_map] at hp ⊢
    simp [hfield i hi p hp, List.getElem?_eq_getElem hi]
  rw [foldl_range_getElem? fs _ le_rfl, List.take_length] at hrec
  rw [shaped_struct_eq]
  cases inPlace
  · simp [hrec]
  · simp [recordOrFields_map (read_record hb he), hrec]

theorem shaped_any {v : Value} (hsc : b.size ≤ scratch) (hv : v.Fits .any)
    (hd : (write v).size ≤ d) (he : Embeds b pos (write v)) :
    shaped b scratch .any d pos = some (v, pos + (write v).size) := by
  obtain ⟨j, hj, rfl⟩ := Value.exists_json_of_fits hv
  rw [write_toValue] at hd he ⊢
  have hle := he.le_size
  have hread := json_toCbor (Json.readable_of_size hj (by omega : j.toCbor.size ≤ scratch) hd)
    b pos hb he
  dsimp only at hread
  simp [shaped_any_eq, hread]

theorem shaped_unitVariant {vs : List (String × Option Shape)} {n : String}
    (hsc : b.size ≤ scratch) (hv : Value.VariantFits n .none vs)
    (he : Embeds b pos (write (.variant n .none))) :
    shaped b scratch (.enum vs) d pos =
      some (.variant n .none, pos + (write (.variant n .none)).size) := by
  have hle := he.le_size
  simp only [write] at he hle ⊢
  have hread := read_text hb he
  have hid := identifier_text
    (by have := utf8ByteSize_le_size_text n; omega : n.utf8ByteSize ≤ scratch) b pos hb he
  simp [shaped_enum_eq, skipTags_eq hread (by simp), hread, hid, variant_unit hv]

theorem shaped_variant {vs : List (String × Option Shape)} {n : String} {v : Value}
    (hsc : b.size ≤ scratch) (hv : Value.VariantFits n (.some v) vs)
    (hcontent : ∀ s, v.Fits s → ∀ p, Embeds b p (write v) →
      shaped b scratch s (d - 1) p = some (v, p + (write v).size))
    (he : Embeds b pos (write (.variant n (.some v)))) :
    shaped b scratch (.enum vs) d pos =
      some (.variant n (.some v), pos + (write (.variant n (.some v))).size) := by
  have hle := he.le_size
  simp only [write, ByteArray.size_append] at he hle ⊢
  have hhead := Head.read_write (.map (some 1)) (by simp [Head.Writable])
    he.append_left.append_left
  have hid := identifier_text
    (by have := utf8ByteSize_le_size_text n; omega : n.utf8ByteSize ≤ scratch) b _ hb
    he.append_left.append_right
  have hc := fun s hs => hcontent s hs _ he.append_right
  simp only [ByteArray.size_append, Nat.add_assoc] at hid hc
  simp [shaped_enum_eq, skipTags_eq hhead (by simp), hhead, hid, variant_content hc hv, Nat.add_assoc]

end Shapes

theorem sizeOf_snd_lt {α β : Type} [SizeOf α] [SizeOf β] (e : α × β) : sizeOf e.2 < sizeOf e := by
  cases e
  simp

/-- Every value reads back by any shape it fits from where its encoding stands, in a buffer no
larger than the scratch and with a depth at least the encoding's size. The induction is on the
value, through the items, entries, fields and content of its containers. -/
theorem shaped_write (hb : b.size < Nat.pow 2 64) (hsc : b.size ≤ scratch) (v : Value) (s : Shape)
    (d pos : Nat) (hv : v.Fits s) (hd : (write v).size ≤ d) (he : Embeds b pos (write v)) :
    shaped b scratch s d pos = some (v, pos + (write v).size) := by
  have hpos := write_size_pos v
  obtain ⟨d', rfl⟩ : ∃ d', d = d' + 1 := ⟨d - 1, by omega⟩
  by_cases hany : s = .any
  · subst hany
    exact shaped_any hb hsc hv hd he
  -- the recursion is on the value; keep its name for the termination measure
  generalize hcase : v = w at *
  cases w with
  | negInt _ | float _ | unit => cases s <;> simp [Value.Fits] at hv hany
  | nat n =>
    cases s
    case nat max => exact shaped_nat hb hv he
    all_goals simp [Value.Fits] at hv hany
  | bool x =>
    cases s
    case bool => exact shaped_bool hb he
    all_goals simp [Value.Fits] at hv hany
  | text t =>
    cases s
    case text => exact shaped_text hb he
    all_goals simp [Value.Fits] at hv hany
  | uuid u =>
    cases s
    case uuid => exact shaped_uuid hb hsc (by simpa only [Value.Fits] using hv) he
    all_goals simp [Value.Fits] at hv hany
  | none =>
    cases s
    case option s => exact shaped_none hb he
    all_goals simp [Value.Fits] at hv hany
  | some v =>
    cases s
    case option s =>
      obtain ⟨hnull, hv⟩ := (by simpa only [Value.Fits] using hv)
      exact shaped_some hnull (shaped_write hb hsc v s (d' + 1) pos hv hd he)
    all_goals simp [Value.Fits] at hv hany
  | seq items =>
    cases s
    case seq s =>
      have hfit := (Value.itemsFit_iff items s).mp (by simpa only [Value.Fits] using hv)
      have hlt : ∀ x ∈ items, (write x).size < (write (.seq items)).size := fun x hx => by
        rw [write_seq]
        exact size_lt_array (List.mem_map_of_mem (f := write) hx)
      exact shaped_seq hb (fun x hx p hp =>
        shaped_write hb hsc x s d' p (hfit x hx) (by have := hlt x hx; omega) hp) he
    all_goals simp [Value.Fits] at hv hany
  | pair x y =>
    cases s
    case pair s t =>
      obtain ⟨hx, hy⟩ := (by simpa only [Value.Fits] using hv)
      have hsize := size_encodeArgument_pos 4 2
      simp only [write, ByteArray.size_append, Head.write, Option.elim] at hd hsize
      exact shaped_pair (fun p hp => shaped_write hb hsc x s d' p hx (by omega) hp)
        (fun p hp => shaped_write hb hsc y t d' p hy (by omega) hp) he
    all_goals simp [Value.Fits] at hv hany
  | textMap es =>
    cases s
    case textMap s =>
      obtain ⟨hsorted, hfit⟩ := (by simpa only [Value.Fits] using hv)
      rw [Value.entriesFit_iff] at hfit
      have hlt : ∀ e ∈ es, (write e.2).size < (write (.textMap es)).size := fun e hmem => by
        have := size_lt_record (List.mem_map_of_mem (f := fun e => (e.1, write e.2)) hmem)
        rw [write_textMap]
        dsimp only at this
        omega
      exact shaped_textMap hb hsorted (fun e hmem p hp =>
        shaped_write hb hsc e.2 s d' p (hfit e hmem) (by have := hlt e hmem; omega) hp) he
    all_goals simp [Value.Fits] at hv hany
  | struct fs =>
    cases s
    case struct shapes inPlace =>
      obtain ⟨hnodup, hfit⟩ := (by simpa only [Value.Fits] using hv)
      have hlt : ∀ e ∈ fs, (write e.2).size < (write (.struct fs)).size := fun e hmem => by
        have := size_lt_record (List.mem_map_of_mem (f := fun e => (e.1, write e.2)) hmem)
        rw [write_struct]
        dsimp only at this
        omega
      exact shaped_struct hb hsc hnodup hfit (fun e hmem s p hs hp =>
        shaped_write hb hsc e.2 s d' p hs (by have := hlt e hmem; omega) hp) he
    all_goals simp [Value.Fits] at hv hany
  | variant n c =>
    cases s
    case enum vs =>
      simp only [Value.Fits] at hv
      cases c with
      | none => exact shaped_unitVariant hb hsc hv he
      | some v =>
        have hsize := size_encodeArgument_pos 5 1
        simp only [write, ByteArray.size_append, Head.write, Option.elim] at hd hsize
        exact shaped_variant hb hsc hv (fun s hs p hp =>
          shaped_write hb hsc v s d' p hs (by omega) hp) he
    all_goals simp [Value.Fits] at hv hany
termination_by sizeOf v
decreasing_by
  all_goals subst hcase
  · simp
  · have := List.sizeOf_lt_of_mem hx; simp; omega
  · simp; omega
  · simp
  · have := List.sizeOf_lt_of_mem hmem; have := sizeOf_snd_lt e; simp; omega
  · have := List.sizeOf_lt_of_mem hmem; have := sizeOf_snd_lt e; simp; omega
  · simp; omega

end Read

theorem unbounded_roundTrips : unbounded.RoundTrips := by
  intro s v hv hb
  have hread := Read.shaped_write hb le_rfl v s ((write v).size + 1) 0 hv (Nat.le_succ _)
    (Embeds.refl _)
  simp [unbounded, codec] at hread ⊢
  exact ⟨_, hread⟩

end Cbor

end RevSync
