import RevSync.Proofs.Cbor.Read
import RevSync.Proofs.Serde.Value

/-! # JSON values read back from their CBOR form -/

namespace RevSync

namespace Json

mutual
/-- Every object in the value has a first key of at most `scratch` bytes. -/
def FirstKeysWithin (scratch : Nat) : Json → Prop
  | .arr items => ItemsFirstKeysWithin scratch items
  | .obj fields => (∀ p ∈ fields.head?, p.1.utf8ByteSize ≤ scratch) ∧
      FieldsFirstKeysWithin scratch fields
  | _ => True

def ItemsFirstKeysWithin (scratch : Nat) : List Json → Prop
  | [] => True
  | v :: rest => FirstKeysWithin scratch v ∧ ItemsFirstKeysWithin scratch rest

def FieldsFirstKeysWithin (scratch : Nat) : List (String × Json) → Prop
  | [] => True
  | (_, v) :: rest => FirstKeysWithin scratch v ∧ FieldsFirstKeysWithin scratch rest
end

mutual
/-- How many arrays and objects stand inside one another in a value. -/
def nesting : Json → Nat
  | .arr items => itemsNesting items + 1
  | .obj fields => fieldsNesting fields + 1
  | _ => 0

def itemsNesting : List Json → Nat
  | [] => 0
  | v :: rest => max (nesting v) (itemsNesting rest)

def fieldsNesting : List (String × Json) → Nat
  | [] => 0
  | (_, v) :: rest => max (nesting v) (fieldsNesting rest)
end

theorem itemsFirstKeysWithin_iff (scratch : Nat) (items : List Json) :
    ItemsFirstKeysWithin scratch items ↔ ∀ v ∈ items, FirstKeysWithin scratch v := by
  induction items with
  | nil => simp [ItemsFirstKeysWithin]
  | cons v rest ih => simp [ItemsFirstKeysWithin, ih]

theorem fieldsFirstKeysWithin_iff (scratch : Nat) (fields : List (String × Json)) :
    FieldsFirstKeysWithin scratch fields ↔ ∀ p ∈ fields, FirstKeysWithin scratch p.2 := by
  induction fields with
  | nil => simp [FieldsFirstKeysWithin]
  | cons p rest ih => obtain ⟨k, v⟩ := p; simp [FieldsFirstKeysWithin, ih]

theorem itemsNesting_le (items : List Json) (d : Nat) :
    itemsNesting items ≤ d ↔ ∀ v ∈ items, nesting v ≤ d := by
  induction items with
  | nil => simp [itemsNesting]
  | cons v rest ih => simp [itemsNesting, ih]

theorem fieldsNesting_le (fields : List (String × Json)) (d : Nat) :
    fieldsNesting fields ≤ d ↔ ∀ p ∈ fields, nesting p.2 ≤ d := by
  induction fields with
  | nil => simp [fieldsNesting]
  | cons p rest ih => obtain ⟨k, v⟩ := p; simp [fieldsNesting, ih]

/-! ### The layout of a written value -/

theorem itemsToCbor_eq (items : List Json) (out : ByteArray) :
    itemsToCbor items out = out ++ (items.map toCbor).foldl (· ++ ·) ByteArray.empty := by
  induction items generalizing out with
  | nil => simp [itemsToCbor, ByteArray.append_empty]
  | cons v rest ih =>
    rw [itemsToCbor, ih, List.map_cons, Cbor.Read.foldl_append_cons, ByteArray.append_assoc]

theorem fieldsToCbor_eq (fields : List (String × Json)) (out : ByteArray) :
    fieldsToCbor fields out =
      out ++ (fields.map fun p => Cbor.text p.1 ++ toCbor p.2).foldl (· ++ ·) ByteArray.empty := by
  induction fields generalizing out with
  | nil => simp [fieldsToCbor, ByteArray.append_empty]
  | cons p rest ih =>
    obtain ⟨k, v⟩ := p
    rw [fieldsToCbor, ih, List.map_cons, Cbor.Read.foldl_append_cons, ByteArray.append_assoc,
      ByteArray.append_assoc, ByteArray.append_assoc]

theorem itemsToCbor_cons (v : Json) (rest : List Json) :
    itemsToCbor (v :: rest) .empty = v.toCbor ++ itemsToCbor rest .empty := by
  rw [itemsToCbor_eq, itemsToCbor_eq, List.map_cons, Cbor.Read.foldl_append_cons,
    ByteArray.empty_append, ByteArray.empty_append]

theorem fieldsToCbor_cons (k : String) (v : Json) (rest : List (String × Json)) :
    fieldsToCbor ((k, v) :: rest) .empty = Cbor.text k ++ v.toCbor ++ fieldsToCbor rest .empty := by
  rw [fieldsToCbor_eq, fieldsToCbor_eq, List.map_cons, Cbor.Read.foldl_append_cons,
    ByteArray.empty_append, ByteArray.empty_append]

theorem toCbor_arr (items : List Json) :
    (Json.arr items).toCbor = (Head.array (some items.length)).write ++ itemsToCbor items .empty := by
  rw [toCbor, itemsToCbor_eq, itemsToCbor_eq, ByteArray.empty_append]

theorem toCbor_obj (fields : List (String × Json)) :
    (Json.obj fields).toCbor = (Head.map (some fields.length)).write ++ fieldsToCbor fields .empty := by
  rw [toCbor, fieldsToCbor_eq, fieldsToCbor_eq, ByteArray.empty_append]

theorem toCbor_size_pos (v : Json) : 0 < v.toCbor.size := by
  cases v with
  | arr items =>
    rw [toCbor, itemsToCbor_eq, ByteArray.size_append]
    have := Cbor.Read.size_encodeArgument_pos 4 items.length
    simp only [Head.write, Option.elim] at this ⊢
    omega
  | obj fields =>
    rw [toCbor, fieldsToCbor_eq, ByteArray.size_append]
    have := Cbor.Read.size_encodeArgument_pos 5 fields.length
    simp only [Head.write, Option.elim] at this ⊢
    omega
  | str s => exact Cbor.Read.text_size_pos s
  | num n =>
    cases n with
    | float x =>
      simp only [toCbor, Head.write, Head.encodeFloat]
      split
      · simp [size_mk_toArray]
      · split <;> simp [size_mk_toArray]
    | _ => simp only [toCbor, Head.write]; exact Cbor.Read.size_encodeArgument_pos _ _
  | _ => simp only [toCbor, Cbor.null, Cbor.bool, Head.write]; exact Cbor.Read.size_encodeArgument_pos _ _

theorem length_le_size_itemsToCbor (items : List Json) :
    items.length ≤ (itemsToCbor items .empty).size := by
  induction items with
  | nil => simp
  | cons v rest ih =>
    rw [itemsToCbor_cons, ByteArray.size_append, List.length_cons]
    have := toCbor_size_pos v
    omega

theorem length_le_size_fieldsToCbor (fields : List (String × Json)) :
    fields.length ≤ (fieldsToCbor fields .empty).size := by
  induction fields with
  | nil => simp
  | cons p rest ih =>
    obtain ⟨k, v⟩ := p
    rw [fieldsToCbor_cons, ByteArray.size_append, ByteArray.size_append, List.length_cons]
    have := toCbor_size_pos v
    omega

/-- What the reader asks of a value: well formed, the first key of each object within `scratch`
bytes, and at most `d` levels deep. -/
structure Readable (scratch d : Nat) (v : Json) : Prop where
  wellFormed : v.WellFormed
  firstKeys : v.FirstKeysWithin scratch
  nesting : v.nesting ≤ d

mutual
/-- No first key of an object in a value is longer than the value's encoding. -/
theorem firstKeysWithin_of_size {s : Nat} : ∀ (v : Json), v.toCbor.size ≤ s → v.FirstKeysWithin s
  | .arr items, h => by
    rw [toCbor_arr, ByteArray.size_append] at h
    exact itemsFirstKeysWithin_of_size items (by omega)
  | .obj [], _ => ⟨by simp, trivial⟩
  | .obj ((k, v) :: rest), h => by
    rw [toCbor_obj, fieldsToCbor_cons, ByteArray.size_append] at h
    have hk := Cbor.Read.utf8ByteSize_le_size_text k
    simp only [ByteArray.size_append] at h
    refine ⟨fun p hp => ?_, firstKeysWithin_of_size v (by omega),
      fieldsFirstKeysWithin_of_size rest (by omega)⟩
    obtain rfl : (k, v) = p := by simpa using hp
    dsimp only
    omega
  | .null, _ | .bool _, _ | .num _, _ | .str _, _ => trivial

theorem itemsFirstKeysWithin_of_size {s : Nat} :
    ∀ (items : List Json), (itemsToCbor items .empty).size ≤ s → ItemsFirstKeysWithin s items
  | [], _ => trivial
  | v :: rest, h => by
    rw [itemsToCbor_cons, ByteArray.size_append] at h
    exact ⟨firstKeysWithin_of_size v (by omega), itemsFirstKeysWithin_of_size rest (by omega)⟩

theorem fieldsFirstKeysWithin_of_size {s : Nat} : ∀ (fields : List (String × Json)),
    (fieldsToCbor fields .empty).size ≤ s → FieldsFirstKeysWithin s fields
  | [], _ => trivial
  | (k, v) :: rest, h => by
    rw [fieldsToCbor_cons, ByteArray.size_append, ByteArray.size_append] at h
    exact ⟨firstKeysWithin_of_size v (by omega), fieldsFirstKeysWithin_of_size rest (by omega)⟩
end

mutual
/-- Each level of a value takes at least one byte of its encoding. -/
theorem nesting_le_size : ∀ (v : Json), v.nesting ≤ v.toCbor.size
  | .arr items => by
    have hhead := Cbor.Read.size_encodeArgument_pos 4 items.length
    have hitems := itemsNesting_le_size items
    rw [toCbor_arr, ByteArray.size_append]
    simp only [nesting, Head.write, Option.elim] at hhead ⊢
    omega
  | .obj fields => by
    have hhead := Cbor.Read.size_encodeArgument_pos 5 fields.length
    have hfields := fieldsNesting_le_size fields
    rw [toCbor_obj, ByteArray.size_append]
    simp only [nesting, Head.write, Option.elim] at hhead ⊢
    omega
  | .null | .bool _ | .num _ | .str _ => Nat.zero_le _

theorem itemsNesting_le_size : ∀ (items : List Json),
    itemsNesting items ≤ (itemsToCbor items .empty).size
  | [] => Nat.zero_le _
  | v :: rest => by
    have hv := nesting_le_size v
    have hrest := itemsNesting_le_size rest
    rw [itemsToCbor_cons, ByteArray.size_append]
    simp only [itemsNesting]
    omega

theorem fieldsNesting_le_size : ∀ (fields : List (String × Json)),
    fieldsNesting fields ≤ (fieldsToCbor fields .empty).size
  | [] => Nat.zero_le _
  | (k, v) :: rest => by
    have hv := nesting_le_size v
    have hrest := fieldsNesting_le_size rest
    rw [fieldsToCbor_cons, ByteArray.size_append, ByteArray.size_append]
    simp only [fieldsNesting]
    omega
end

/-- A well-formed value is readable with a scratch and a depth at least the size of its encoding. -/
theorem readable_of_size {v : Json} {scratch d : Nat} (hv : v.WellFormed)
    (hs : v.toCbor.size ≤ scratch) (hd : v.toCbor.size ≤ d) : v.Readable scratch d :=
  ⟨hv, firstKeysWithin_of_size v hs, (nesting_le_size v).trans hd⟩

end Json

namespace Cbor.Read

open Json

/-! ### Reading values back, one step of fuel at a time -/

/-- With `fuel` steps, `jsonValue` reads back every readable value whose bytes take at most half
the fuel. -/
def ValueReadsWith (fuel : Nat) : Prop :=
  ∀ (v : Json) (scratch d : Nat) (b : ByteArray) (pos : Nat), v.Readable scratch d →
    2 * v.toCbor.size ≤ fuel → b.size < Nat.pow 2 64 → Embeds b pos v.toCbor →
    jsonValue b scratch fuel d pos = some (v, pos + v.toCbor.size)

/-- With `fuel` steps, `jsonItems` reads back the rest of an array. -/
def ItemsReadWith (fuel : Nat) : Prop :=
  ∀ (items acc : List Json) (scratch d : Nat) (b : ByteArray) (pos : Nat),
    (∀ v ∈ items, v.Readable scratch d) →
    2 * (itemsToCbor items .empty).size + 1 ≤ fuel → b.size < Nat.pow 2 64 →
    Embeds b pos (itemsToCbor items .empty) →
    jsonItems b scratch fuel d (some items.length) pos acc =
      some (.arr (acc.reverse ++ items), pos + (itemsToCbor items .empty).size)

/-- With `fuel` steps, `jsonMembers` reads back the rest of an object in key order. -/
def MembersReadWith (fuel : Nat) : Prop :=
  ∀ (fields acc : List (String × Json)) (scratch d : Nat) (b : ByteArray) (pos : Nat),
    TextMap.Sorted (acc ++ fields) → (∀ p ∈ fields, p.2.Readable scratch d) →
    2 * (fieldsToCbor fields .empty).size + 1 ≤ fuel → b.size < Nat.pow 2 64 →
    Embeds b pos (fieldsToCbor fields .empty) →
    jsonMembers b scratch fuel d (some fields.length) pos acc =
      some (acc ++ fields, pos + (fieldsToCbor fields .empty).size)

theorem itemsRead_succ {f : Nat} (hv : ValueReadsWith f) (hi : ItemsReadWith f) :
    ItemsReadWith (f + 1) := by
  intro items acc scratch d b pos hok hfuel hb he
  cases items with
  | nil => simp [jsonItems, nextElement, itemsToCbor, ByteArray.size_empty]
  | cons v rest =>
    rw [itemsToCbor_cons] at he hfuel ⊢
    simp only [ByteArray.size_append] at hfuel
    have hpos := toCbor_size_pos v
    have hval := hv v scratch d b pos (hok v (by simp)) (by omega) hb he.append_left
    have hrest := hi rest (v :: acc) scratch d b _ (fun w hw => hok w (by simp [hw])) (by omega)
      hb he.append_right
    simp only [jsonItems, nextElement, List.length_cons, Option.bind_eq_bind, Option.bind_some, hval,
      hrest, List.reverse_cons, List.append_assoc, List.singleton_append, ByteArray.size_append,
      Nat.add_assoc]

theorem membersRead_succ {f : Nat} (hv : ValueReadsWith f) (hm : MembersReadWith f) :
    MembersReadWith (f + 1) := by
  intro fields acc scratch d b pos hsorted hok hfuel hb he
  cases fields with
  | nil => simp [jsonMembers, nextElement, fieldsToCbor, ByteArray.size_empty]
  | cons p rest =>
    obtain ⟨k, v⟩ := p
    rw [fieldsToCbor_cons] at he hfuel ⊢
    simp only [ByteArray.size_append] at hfuel
    have hpos := toCbor_size_pos v
    have hkey := string_text k b pos hb he.append_left.append_left
    have hval := hv v scratch d b _ (hok (k, v) (by simp)) (by omega) hb he.append_left.append_right
    have hins : TextMap.insert acc k v = acc ++ [(k, v)] :=
      TextMap.insert_of_lt (fun q hq => (List.pairwise_append.mp hsorted).2.2 q hq (k, v) (by simp)) v
    have hrest := hm rest (acc ++ [(k, v)]) scratch d b _ (by simpa using hsorted)
      (fun q hq => hok q (by simp [hq])) (by omega) hb he.append_right
    simp only [ByteArray.size_append, Nat.add_assoc, List.append_assoc, List.singleton_append]
      at hrest
    simp only [jsonMembers, nextElement, List.length_cons, Option.bind_eq_bind, Option.bind_some,
      hkey, hval, hins, hrest, ByteArray.size_append, Nat.add_assoc]

theorem valueRead_succ {f : Nat} (hv : ValueReadsWith f) (hi : ItemsReadWith f)
    (hm : MembersReadWith f) : ValueReadsWith (f + 1) := by
  intro v scratch d b pos hok hfuel hb he
  obtain ⟨hwf, hkeys, hnest⟩ := hok
  cases v with
  | null =>
    have hread := Head.read_write (.simple Head.nullValue) (by simp [Head.Writable, Head.nullValue]) he
    simp only [jsonValue, hread, Option.bind_eq_bind, Option.bind_some, Head.nullValue]
    rfl
  | bool v =>
    have hread := Head.read_write (.simple (if v then Head.trueValue else Head.falseValue))
      (by cases v <;> simp [Head.Writable, Head.trueValue, Head.falseValue]) he
    simp only [jsonValue, hread, Option.bind_eq_bind, Option.bind_some]
    cases v <;> rfl
  | num n =>
    cases n with
    | nat n =>
      have hread := Head.read_write (.unsigned n) hwf he
      simp only [jsonValue, hread, Option.bind_eq_bind, Option.bind_some]
      rfl
    | negInt n =>
      simp only [Json.WellFormed, Number.InRange, Nat.pow_eq] at hwf
      have hread := Head.read_write (.negative (-1 - n).toNat)
        (by simp only [Head.Writable, Nat.pow_eq]; omega) he
      simp only [jsonValue, hread, Option.bind_eq_bind, Option.bind_some]
      rw [if_pos (by simp only [Nat.pow_eq]; omega), show -1 - (((-1 - n).toNat : Nat) : Int) = n by omega]
      rfl
    | float x =>
      simp only [Json.WellFormed, Number.InRange] at hwf
      have hread := Head.read_write (.float x) hwf he
      simp only [jsonValue, hread, Option.bind_eq_bind, Option.bind_some]
      rw [if_pos hwf]
      rfl
  | str s =>
    simp only [jsonValue, read_text hb he, Option.bind_eq_bind, Option.bind_some]
    split
    · dsimp only
      rw [show identifier b pos scratch = _ from identifier_text ‹_› b pos hb he]
      rfl
    · rw [show string b pos = _ from string_text s b pos hb he]
      rfl
  | arr items =>
    obtain ⟨d', rfl⟩ : ∃ d', d = d' + 1 := ⟨d - 1, by simp only [Json.nesting] at hnest; omega⟩
    have hok : ∀ w ∈ items, w.Readable scratch d' := fun w hw =>
      ⟨(itemsWellFormed_iff items).mp hwf w hw, (itemsFirstKeysWithin_iff scratch items).mp hkeys w hw,
        (itemsNesting_le items d').mp (by simp only [Json.nesting] at hnest; omega) w hw⟩
    rw [toCbor_arr] at he hfuel ⊢
    have hH := size_encodeArgument_pos 4 items.length
    have hlen := length_le_size_itemsToCbor items
    have hle := he.le_size
    simp only [ByteArray.size_append, Head.write, Option.elim] at hfuel hle hH
    have hread := Head.read_write (.array (some items.length))
      (by simp only [Head.Writable, Option.mem_def, Option.some.injEq, forall_eq', Nat.pow_eq] at hb ⊢
          omega) he.append_left
    have hrest := hi items [] scratch d' b _ hok (by omega) hb he.append_right
    simp only [jsonValue, hread, Option.bind_eq_bind, Option.bind_some, hrest, List.reverse_nil,
      List.nil_append, ByteArray.size_append, Nat.add_assoc]
  | obj fields =>
    obtain ⟨d', rfl⟩ : ∃ d', d = d' + 1 := ⟨d - 1, by simp only [Json.nesting] at hnest; omega⟩
    obtain ⟨hsorted, hvalues⟩ := hwf
    obtain ⟨hfirst, hfirsts⟩ := hkeys
    have hok : ∀ p ∈ fields, p.2.Readable scratch d' := fun p hp =>
      ⟨(fieldsWellFormed_iff fields).mp hvalues p hp,
        (fieldsFirstKeysWithin_iff scratch fields).mp hfirsts p hp,
        (fieldsNesting_le fields d').mp (by simp only [Json.nesting] at hnest; omega) p hp⟩
    rw [toCbor_obj] at he hfuel ⊢
    have hH := size_encodeArgument_pos 5 fields.length
    have hlen := length_le_size_fieldsToCbor fields
    have hle := he.le_size
    simp only [ByteArray.size_append, Head.write, Option.elim] at hfuel hle hH
    have hread := Head.read_write (.map (some fields.length))
      (by simp only [Head.Writable, Option.mem_def, Option.some.injEq, forall_eq', Nat.pow_eq] at hb ⊢
          omega) he.append_left
    have hbody := he.append_right
    cases fields with
    | nil => simp [jsonValue, hread, nextElement, fieldsToCbor]
    | cons p rest =>
      obtain ⟨k, v⟩ := p
      rw [fieldsToCbor_cons] at hbody hfuel ⊢
      simp only [ByteArray.size_append] at hfuel
      simp only [List.length_cons] at hread hbody ⊢
      have hpos := toCbor_size_pos v
      -- the first key is read as an identifier, the later ones as any text
      have hkey := identifier_text (hfirst (k, v) rfl) b _ hb hbody.append_left.append_left
      simp only at hkey
      have hval := hv v scratch d' b _ (hok (k, v) (by simp)) (by omega) hb
        hbody.append_left.append_right
      have hrest := hm rest [(k, v)] scratch d' b _ (by simpa using hsorted)
        (fun q hq => hok q (by simp [hq])) (by omega) hb hbody.append_right
      simp only [ByteArray.size_append, Nat.add_assoc, List.singleton_append] at hrest
      simp only [Nat.add_assoc] at hkey hval
      simp only [jsonValue, hread, nextElement, Option.bind_eq_bind, Option.bind_some, hkey, hval,
        TextMap.insert, hrest, ByteArray.size_append, Nat.add_assoc, Option.pure_def]

theorem readsWith_zero : ValueReadsWith 0 ∧ ItemsReadWith 0 ∧ MembersReadWith 0 := by
  refine ⟨fun v _ _ _ _ _ hfuel _ _ => ?_, fun _ _ _ _ _ _ _ hfuel _ _ => ?_,
    fun _ _ _ _ _ _ _ _ hfuel _ _ => ?_⟩
  · have := toCbor_size_pos v
    omega
  · omega
  · omega

/-- Every step count reads back what half of it covers. -/
theorem readsWith (fuel : Nat) : ValueReadsWith fuel ∧ ItemsReadWith fuel ∧ MembersReadWith fuel := by
  induction fuel with
  | zero => exact readsWith_zero
  | succ f ih =>
    obtain ⟨hv, hi, hm⟩ := ih
    exact ⟨valueRead_succ hv hi hm, itemsRead_succ hv hi, membersRead_succ hv hm⟩

/-! ### Values and bodies -/

/-- A readable value reads back as itself. -/
theorem json_toCbor {v : Json} {scratch d : Nat} (hv : v.Readable scratch d) :
    Reads (fun b p => json b d p scratch) v.toCbor v := by
  intro b pos hb he
  have := he.le_size
  exact (readsWith _).1 v scratch d b pos hv (by omega) hb he

theorem toCbor_obj_eq_record (body : List (String × Json)) :
    (Json.obj body).toCbor = Cbor.record (body.map fun p => (p.1, p.2.toCbor)) := by
  rw [toCbor_obj, fieldsToCbor_eq, ByteArray.empty_append, record_eq, List.map_map, List.length_map]
  rfl

/-- An object whose members are in key order, with readable values, reads back as its members.
Its own keys may be of any length; only the objects inside its values are bound by the identifier
limit on their first key. -/
theorem jsonObject_obj {body : Fields} {scratch d : Nat} (hsorted : TextMap.Sorted body)
    (hok : ∀ p ∈ body, p.2.Readable scratch d) :
    Reads (fun b p => jsonObject b (d + 1) p scratch) (Json.obj body).toCbor body := by
  rw [toCbor_obj_eq_record]
  exact textMap_record hsorted fun p hp => json_toCbor (hok p hp)

end Cbor.Read

end RevSync
