import RevSync.Cbor.Read
import RevSync.Proofs.Cbor.Head
import RevSync.Proofs.Data.TextMap

/-!
# The typed readers read back what the writers write

For each writer of `Cbor` and the reader that expects its type, `Reads read w a` says that the
reader gives `a` back from the written bytes `w`, wherever they stand in a buffer, and stops right
after them. The buffer is taken shorter than `2^64` bytes, the largest length a CBOR head holds,
so that every written length and count reads back.

Texts, identifiers, bounded naturals, booleans and optional values are read from their heads;
arrays by `elements_go`, one element after the other with a step of fuel each; text maps as their
ordered entries (`textMap_record`); records by `recordEntries_fields`, each key found at its own
index for the first time and its value read by the record's step.
-/

namespace RevSync

namespace Cbor

/-- The reader `read` reads `a` from the bytes `w` wherever they stand in a buffer of fewer than
`2^64` bytes, and stops right after them. -/
def Reads {α : Type} (read : ByteArray → Nat → Option (α × Nat)) (w : ByteArray) (a : α) : Prop :=
  ∀ b pos, b.size < Nat.pow 2 64 → Embeds b pos w → read b pos = some (a, pos + w.size)

/-- Valid text always decodes back to itself. -/
theorem fromUTF8?_toByteArray (s : String) : String.fromUTF8? s.toByteArray = some s := by
  simp only [String.fromUTF8?, dif_pos s.isValidUTF8]
  rfl

namespace Read

variable {b : ByteArray} {pos : Nat}

/-! ### Items read from their head -/

theorem untagged_eq {h : Head} {q : Nat} (hread : Head.read b pos = some (h, q))
    (hnt : ∀ t, h ≠ .tag t) : untagged b pos = some (h, q) := by
  unfold untagged untagged.go
  -- the non-tag hypothesis rules out the branch that skips a tag
  simp only [hread, Option.bind_eq_bind, Option.bind_some]

/-- The bytes of a definite text string read back as its text. -/
theorem pieces_text {s : String} (he : Embeds b pos s.toUTF8) :
    pieces b 3 (some s.utf8ByteSize) pos = some ([s.toUTF8], pos + s.toUTF8.size) := by
  have hsize : s.toUTF8.size = s.utf8ByteSize := by simp [String.size_toByteArray]
  have hle := he.le_size
  have hext := he.extract_eq
  rw [hsize] at hle hext ⊢
  simp [pieces, hle, hext]

theorem textOfPieces_single (s : String) : textOfPieces [s.toUTF8] = some s := by
  simp [textOfPieces, fromUTF8?_toByteArray]

/-- The head of a text string. -/
theorem read_text {s : String} (hb : b.size < Nat.pow 2 64) (he : Embeds b pos (Cbor.text s)) :
    Head.read b pos = some (.text (some s.utf8ByteSize),
      pos + (Head.text (some s.utf8ByteSize)).write.size) := by
  have hsize : s.toUTF8.size = s.utf8ByteSize := by simp [String.size_toByteArray]
  have hle := he.le_size
  simp only [Cbor.text, ByteArray.size_append] at hle
  have hw : (Head.text (some s.utf8ByteSize)).Writable := by
    simp only [Head.Writable, Option.mem_def, Option.some.injEq, forall_eq', Nat.pow_eq] at hb ⊢
    omega
  exact Head.read_write _ hw he.append_left

theorem untagged_text {s : String} (hb : b.size < Nat.pow 2 64) (he : Embeds b pos (Cbor.text s)) :
    untagged b pos = some (.text (some s.utf8ByteSize),
      pos + (Head.text (some s.utf8ByteSize)).write.size) :=
  untagged_eq (read_text hb he) (by simp)

/-- A text string reads back as its text. -/
theorem string_text (s : String) : Reads (fun b => string b) (Cbor.text s) s := by
  intro b pos hb he
  show string b pos = _
  unfold string
  simp only [untagged_text hb he, Option.bind_eq_bind, Option.bind_some,
    pieces_text he.append_right, textOfPieces_single, Option.pure_def, Cbor.text,
    ByteArray.size_append, Nat.add_assoc]

/-- A text string of at most `scratch` bytes reads back as an identifier. -/
theorem identifier_text {s : String} {scratch : Nat} (hs : s.utf8ByteSize ≤ scratch) :
    Reads (fun b p => identifier b p scratch) (Cbor.text s) s := by
  intro b pos hb he
  have hP := he.append_right
  have hsize : s.toUTF8.size = s.utf8ByteSize := by simp [String.size_toByteArray]
  have hle := hP.le_size
  have hext := hP.extract_eq
  rw [hsize] at hle hext
  show identifier b pos scratch = _
  unfold identifier
  simp only [untagged_text hb he, Option.bind_eq_bind, Option.bind_some]
  rw [if_pos ⟨hs, hle⟩, hext, String.toUTF8_eq_toByteArray, fromUTF8?_toByteArray]
  simp [Cbor.text, Nat.add_assoc]

/-- An unsigned integer within `max` reads back as a bounded natural. -/
theorem natUpTo_unsigned {n max : Nat} (hn : n ≤ max) (hmax : max < Nat.pow 2 64) :
    Reads (fun b => natUpTo b max) (Cbor.unsigned n) n := by
  intro b pos _ he
  have hread := Head.read_write (.unsigned n) (by simp only [Head.Writable]; omega) he
  show natUpTo b max pos = _
  simp only [natUpTo, integer, integer.go, hread, Option.bind_eq_bind, Option.bind_some,
    Bool.false_eq_true, false_or, Cbor.unsigned, Option.pure_def]
  rw [if_neg (by omega)]

/-- A boolean reads back as itself. -/
theorem bool_bool (v : Bool) : Reads (fun b => bool b) (Cbor.bool v) v := by
  intro b pos _ he
  have hread := Head.read_write (.simple (if v then Head.trueValue else Head.falseValue))
    (by cases v <;> simp [Head.Writable, Head.trueValue, Head.falseValue]) he
  show bool b pos = _
  simp only [bool, untagged_eq hread (by simp), Option.bind_eq_bind, Option.bind_some, Cbor.bool]
  cases v <;> rfl

/-- `null` reads as an absent optional value. -/
theorem optional_null {α : Type} (inner : ByteArray → Nat → Option (α × Nat)) :
    Reads (fun b => optional b (inner b)) Cbor.null none := by
  intro b pos _ he
  have hread := Head.read_write (.simple Head.nullValue) (by simp [Head.Writable, Head.nullValue]) he
  simp only [optional, hread, Option.bind_eq_bind, Option.bind_some, Head.nullValue, Cbor.null]

/-- Present text reads back through `optional`. -/
theorem optional_string (o : Option String) :
    Reads (fun b => optional b (string b)) (Cbor.optional Cbor.text o) o := by
  cases o with
  | none => exact optional_null _
  | some s =>
    intro b pos hb he
    simp only [optional, read_text hb he, Option.bind_eq_bind, Option.bind_some,
      string_text s b pos hb he, Option.map_eq_map, Option.map_some, Cbor.optional]

/-- A present natural within `max` reads back through `optional`. -/
theorem optional_natUpTo {o : Option Nat} {max : Nat} (ho : ∀ n ∈ o, n ≤ max)
    (hmax : max < Nat.pow 2 64) :
    Reads (fun b => optional b (natUpTo b max)) (Cbor.optional Cbor.unsigned o) o := by
  cases o with
  | none => exact optional_null _
  | some n =>
    intro b pos hb he
    have hn := ho n rfl
    have hread := Head.read_write (.unsigned n) (by simp only [Head.Writable]; omega) he
    simp only [optional, hread, Option.bind_eq_bind, Option.bind_some,
      natUpTo_unsigned hn hmax b pos hb he, Option.map_eq_map, Option.map_some, Cbor.optional]

/-- A UUID of sixteen bytes reads back from its byte string. -/
theorem uuid_bytes {u : Uuid} {d scratch : Nat} (hu : u.bytes.size = 16) (hs : 16 ≤ scratch) :
    Reads (fun b p => uuid b d p scratch) (Cbor.bytes u.bytes) u := by
  intro b pos hb he
  have hread := Head.read_write (.bytes (some u.bytes.size))
    (by simp [Head.Writable, hu]) he.append_left
  have hle := he.append_right.le_size
  have hext := he.append_right.extract_eq
  show uuid b d pos scratch = _
  simp only [uuid, untagged_eq hread (by simp), Option.bind_eq_bind, Option.bind_some, hu]
  rw [hu] at hle hext
  rw [if_pos ⟨hs, trivial, hle⟩, hext]
  simp [Cbor.bytes, hu, Nat.add_assoc]

theorem size_encodeArgument_pos (major n : Nat) : 0 < (Head.encodeArgument major n).size := by
  unfold Head.encodeArgument
  split_ifs <;> simp [size_mk_toArray]

theorem text_size_pos (s : String) : 0 < (Cbor.text s).size := by
  simp only [Cbor.text, ByteArray.size_append, Head.write, Option.elim]
  have := size_encodeArgument_pos 3 s.utf8ByteSize
  omega

theorem utf8ByteSize_le_size_text (s : String) : s.utf8ByteSize ≤ (Cbor.text s).size := by
  simp [Cbor.text, ByteArray.size_append, String.size_toByteArray]

/-! ### Sequences -/

theorem foldl_append_eq (l : List ByteArray) (acc : ByteArray) :
    l.foldl (· ++ ·) acc = acc ++ l.foldl (· ++ ·) ByteArray.empty := by
  induction l generalizing acc with
  | nil => simp [ByteArray.append_empty]
  | cons x rest ih =>
    simp only [List.foldl_cons]
    rw [ih, ih (ByteArray.empty ++ x), ByteArray.empty_append, ByteArray.append_assoc]

theorem foldl_append_cons (x : ByteArray) (l : List ByteArray) :
    (x :: l).foldl (· ++ ·) ByteArray.empty = x ++ l.foldl (· ++ ·) ByteArray.empty := by
  rw [List.foldl_cons, foldl_append_eq, ByteArray.empty_append]

/-- Each of the items takes at least one byte. -/
theorem length_le_size_foldl {l : List ByteArray} (hne : ∀ w ∈ l, 0 < w.size) :
    l.length ≤ (l.foldl (· ++ ·) ByteArray.empty).size := by
  induction l with
  | nil => simp
  | cons x rest ih =>
    rw [foldl_append_cons, ByteArray.size_append, List.length_cons]
    have := hne x (by simp)
    have := ih (fun w hw => hne w (by simp [hw]))
    omega

theorem le_size_foldl {l : List ByteArray} {w : ByteArray} (hw : w ∈ l) :
    w.size ≤ (l.foldl (· ++ ·) ByteArray.empty).size := by
  induction l with
  | nil => cases hw
  | cons x rest ih =>
    rw [foldl_append_cons, ByteArray.size_append]
    rcases List.mem_cons.mp hw with rfl | hw
    · omega
    · have := ih hw
      omega

/-- Reading the elements of a definite sequence, each written by `enc` and read by `elem`. -/
theorem elements_go {α : Type} {elem : Nat → Option (α × Nat)} {enc : α → ByteArray} :
    ∀ (items : List α) (fuel pos : Nat) (acc : List α),
      (∀ x ∈ items, ∀ p, Embeds b p (enc x) → elem p = some (x, p + (enc x).size)) →
      items.length < fuel → Embeds b pos ((items.map enc).foldl (· ++ ·) ByteArray.empty) →
      elements.go b elem fuel (some items.length) pos acc =
        some (acc.reverse ++ items, pos + ((items.map enc).foldl (· ++ ·) ByteArray.empty).size)
  | [], fuel + 1, pos, acc, _, _, _ => by simp [elements.go, nextElement, ByteArray.size_empty]
  | x :: rest, fuel + 1, pos, acc, hr, hfuel, he => by
    rw [List.map_cons, foldl_append_cons] at he ⊢
    have hx := hr x (by simp) pos he.append_left
    have ih := elements_go rest fuel (pos + (enc x).size) (x :: acc)
      (fun y hy => hr y (by simp [hy])) (by simp at hfuel; omega) he.append_right
    simp only [elements.go, nextElement, List.length_cons, Option.bind_eq_bind, Option.bind_some,
      hx, ih, List.reverse_cons, List.append_assoc, List.singleton_append, ByteArray.size_append,
      Nat.add_assoc]

theorem array_eq (ws : List ByteArray) :
    Cbor.array ws = (Head.array (some ws.length)).write ++ ws.foldl (· ++ ·) ByteArray.empty :=
  foldl_append_eq ws _

/-- An array of items, each read back by `elem` one level deeper where it stands in `b`, reads
back as the items. -/
theorem array_items_at {α : Type} {elem : Nat → Nat → Option (α × Nat)} {enc : α → ByteArray}
    {items : List α} {d : Nat} (hb : b.size < Nat.pow 2 64)
    (hr : ∀ x ∈ items, ∀ p, Embeds b p (enc x) → elem d p = some (x, p + (enc x).size))
    (hne : ∀ x ∈ items, 0 < (enc x).size) (he : Embeds b pos (Cbor.array (items.map enc))) :
    array b elem (d + 1) pos = some (items, pos + (Cbor.array (items.map enc)).size) := by
  rw [array_eq, List.length_map] at he
  have hlen := length_le_size_foldl (l := items.map enc) (by simpa using hne)
  have hle := he.le_size
  simp only [ByteArray.size_append, List.length_map] at hle hlen
  have hread := Head.read_write (.array (some items.length))
    (by simp only [Head.Writable, Option.mem_def, Option.some.injEq, forall_eq', Nat.pow_eq] at hb ⊢
        omega) he.append_left
  have hgo := elements_go items (b.size + 1) _ [] hr (by omega) he.append_right
  simp only [array, untagged_eq hread (by simp), Option.bind_eq_bind, Option.bind_some, elements,
    hgo, array_eq, List.length_map, List.reverse_nil, List.nil_append, ByteArray.size_append,
    Nat.add_assoc]

/-- An array of items, each read back by `elem` one level deeper, reads back as the items. -/
theorem array_items {α : Type} {elem : ByteArray → Nat → Nat → Option (α × Nat)}
    {enc : α → ByteArray} {items : List α} {d : Nat}
    (hr : ∀ x ∈ items, Reads (fun b => elem b d) (enc x) x) (hne : ∀ x ∈ items, 0 < (enc x).size) :
    Reads (fun b => array b (elem b) (d + 1)) (Cbor.array (items.map enc)) items :=
  fun b _ hb he => array_items_at hb (fun x hx p hp => hr x hx b p hb hp) hne he

/-- An item of an array is shorter than the array. -/
theorem size_lt_array {ws : List ByteArray} {w : ByteArray} (hw : w ∈ ws) :
    w.size < (Cbor.array ws).size := by
  have hle := le_size_foldl hw
  have hhead := size_encodeArgument_pos 4 ws.length
  rw [array_eq, ByteArray.size_append]
  simp only [Head.write, Option.elim] at hhead ⊢
  omega

theorem map_eq_aux (es : List (ByteArray × ByteArray)) (acc : ByteArray) :
    es.foldl (fun acc (k, v) => acc ++ k ++ v) acc =
      acc ++ (es.map fun e => e.1 ++ e.2).foldl (· ++ ·) ByteArray.empty := by
  induction es generalizing acc with
  | nil => simp [ByteArray.append_empty]
  | cons e rest ih =>
    rw [List.foldl_cons, ih, List.map_cons, foldl_append_cons, ByteArray.append_assoc,
      ByteArray.append_assoc, ByteArray.append_assoc]

theorem map_eq (es : List (ByteArray × ByteArray)) :
    Cbor.map es = (Head.map (some es.length)).write ++
      (es.map fun e => e.1 ++ e.2).foldl (· ++ ·) ByteArray.empty := by
  rw [Cbor.map, map_eq_aux]

/-- A map written from an ordered text map, values read back by `value` one level deeper where
they stand in `b`, reads back as the text map. -/
theorem textMap_record_at {α : Type} {value : Nat → Nat → Option (α × Nat)}
    {enc : α → ByteArray} {m : TextMap α} {d : Nat} (hb : b.size < Nat.pow 2 64)
    (hm : TextMap.Sorted m)
    (hr : ∀ q ∈ m, ∀ p, Embeds b p (enc q.2) → value d p = some (q.2, p + (enc q.2).size))
    (he : Embeds b pos (Cbor.record (m.map fun p => (p.1, enc p.2)))) :
    textMap b value (d + 1) pos =
      some (m, pos + (Cbor.record (m.map fun p => (p.1, enc p.2))).size) := by
  have hcomp : ((fun e : ByteArray × ByteArray => e.1 ++ e.2) ∘
      (fun x : String × ByteArray => (Cbor.text x.1, x.2)) ∘ fun p : String × α => (p.1, enc p.2)) =
      fun p => Cbor.text p.1 ++ enc p.2 := rfl
  simp only [Cbor.record, List.map_map, map_eq, List.length_map, hcomp] at he
  have hlen := length_le_size_foldl (l := m.map fun p => Cbor.text p.1 ++ enc p.2)
    (by simp only [List.mem_map]; rintro _ ⟨p, -, rfl⟩; simp [ByteArray.size_append, text_size_pos])
  have hle := he.le_size
  simp only [ByteArray.size_append, List.length_map] at hle hlen
  have hread := Head.read_write (.map (some m.length))
    (by simp only [Head.Writable, Option.mem_def, Option.some.injEq, forall_eq', Nat.pow_eq] at hb ⊢
        omega) he.append_left
  have hpair : ∀ x ∈ m, ∀ p, Embeds b p (Cbor.text x.1 ++ enc x.2) →
      ((string b p).bind fun k => (value d k.2).bind fun v => some ((k.1, v.1), v.2)) =
        some (x, p + (Cbor.text x.1 ++ enc x.2).size) := by
    intro x hx p hp
    simp only [string_text x.1 b p hb hp.append_left, Option.bind_some,
      hr x hx _ hp.append_right, ByteArray.size_append, Nat.add_assoc]
  have hgo := elements_go m (b.size + 1) _ [] hpair (by omega) he.append_right
  simp only [textMap, untagged_eq hread (by simp), Option.bind_eq_bind, Option.bind_some, entries,
    elements, hgo, List.reverse_nil, List.nil_append, TextMap.ofList_of_sorted hm, Option.pure_def,
    Cbor.record, map_eq, List.map_map, hcomp, List.length_map, ByteArray.size_append, Nat.add_assoc]

/-- A map written from an ordered text map, values read back by `value` one level deeper, reads
back as the text map. -/
theorem textMap_record {α : Type} {value : ByteArray → Nat → Nat → Option (α × Nat)}
    {enc : α → ByteArray} {m : TextMap α} {d : Nat} (hm : TextMap.Sorted m)
    (hr : ∀ p ∈ m, Reads (fun b => value b d) (enc p.2) p.2) :
    Reads (fun b => textMap b (value b) (d + 1)) (Cbor.record (m.map fun p => (p.1, enc p.2))) m :=
  fun b _ hb he => textMap_record_at hb hm (fun q hq p hp => hr q hq b p hb hp) he

/-! ### Records -/

theorem idxOf?_getElem {l : List String} (hl : l.Nodup) {i : Nat} (hi : i < l.length) :
    l.idxOf? l[i] = some i :=
  List.idxOf?_eq_some_iff.mpr ⟨hi, rfl, fun j hj heq => by
    have := (List.Nodup.getElem_inj_iff hl).mp heq
    omega⟩

theorem record_eq (fields : List (String × ByteArray)) :
    Cbor.record fields = (Head.map (some fields.length)).write ++
      (fields.map fun e => Cbor.text e.1 ++ e.2).foldl (· ++ ·) ByteArray.empty := by
  rw [Cbor.record, map_eq, List.map_map, List.length_map]
  rfl

section Record

variable {σ : Type} {names : List String} {step : σ → Nat → Nat → Nat → Option (σ × Nat)}
  {d scratch : Nat} {fields : List (String × ByteArray)} {upd : Nat → σ → σ}

/-- The entries of a record from field `j` on: each key is found at its own index, seen for the
first time, and its value read by `step`. -/
theorem recordEntries_fields (hnames : fields.map Prod.fst = names) (hnodup : names.Nodup)
    (hshort : ∀ k ∈ names, k.utf8ByteSize ≤ scratch) (hb : b.size < Nat.pow 2 64)
    (hstep : ∀ i (hi : i < fields.length) s p, Embeds b p fields[i].2 →
      step s i d p = some (upd i s, p + fields[i].2.size)) :
    ∀ k j fuel p (s : σ), fields.length - j = k → j ≤ fields.length → k < fuel →
      Embeds b p (((fields.drop j).map fun e => Cbor.text e.1 ++ e.2).foldl (· ++ ·) ByteArray.empty) →
      record.recordEntries b names step d scratch fuel (some k) p s (List.range j).reverse =
        some ((List.range' j k).foldl (fun s i => upd i s) s,
          p + (((fields.drop j).map fun e => Cbor.text e.1 ++ e.2).foldl (· ++ ·) ByteArray.empty).size)
  | 0, j, fuel + 1, p, s, hk, hj, _, _ => by
    have hdrop : fields.drop j = [] := List.drop_eq_nil_of_le (by omega)
    simp [record.recordEntries, nextElement, hdrop, ByteArray.size_empty]
  | k + 1, j, fuel + 1, p, s, hk, hj, hfuel, he => by
    have hjlt : j < fields.length := by omega
    rw [List.drop_eq_getElem_cons hjlt, List.map_cons, foldl_append_cons] at he ⊢
    have hkey : names.idxOf? fields[j].1 = some j := by
      have := idxOf?_getElem hnodup (i := j) (by rw [← hnames, List.length_map]; exact hjlt)
      simpa [← hnames] using this
    have hmem : fields[j].1 ∈ names := by
      rw [← hnames]
      exact List.mem_map.mpr ⟨fields[j], List.getElem_mem hjlt, rfl⟩
    have hid := identifier_text (hshort _ hmem) b p hb he.append_left.append_left
    have hseen : ((List.range j).reverse.contains j) = false := by simp
    have hval := hstep j hjlt s _ he.append_left.append_right
    have ih := recordEntries_fields hnames hnodup hshort hb hstep k (j + 1) fuel _ (upd j s)
      (by omega) (by omega) (by omega) he.append_right
    rw [List.range_succ, List.reverse_append, List.reverse_singleton, List.singleton_append] at ih
    simp only [ByteArray.size_append, Nat.add_assoc] at ih
    simp only [record.recordEntries, nextElement, Option.bind_eq_bind, Option.bind_some, hid, hkey,
      hseen, Bool.false_eq_true, if_false, hval, ih, List.range'_succ, List.foldl_cons,
      ByteArray.size_append, Nat.add_assoc]

/-- A record written with its fields in the order of `names`, each value read by `step`, reads
back as the state that the field updates build in order. -/
theorem record_fields (upd : Nat → σ → σ) (hnames : fields.map Prod.fst = names) (hnodup : names.Nodup)
    (hshort : ∀ k ∈ names, k.utf8ByteSize ≤ scratch) (hb : b.size < Nat.pow 2 64)
    (hstep : ∀ i (hi : i < fields.length) s p, Embeds b p fields[i].2 →
      step s i d p = some (upd i s, p + fields[i].2.size))
    (init : σ) (he : Embeds b pos (Cbor.record fields)) :
    record b names step init (d + 1) pos scratch =
      some ((List.range fields.length).foldl (fun s i => upd i s) init,
        pos + (Cbor.record fields).size) := by
  rw [record_eq] at he
  have hlen := length_le_size_foldl (l := fields.map fun e => Cbor.text e.1 ++ e.2)
    (by simp only [List.mem_map]; rintro _ ⟨p, -, rfl⟩; simp [ByteArray.size_append, text_size_pos])
  have hle := he.le_size
  simp only [ByteArray.size_append, List.length_map] at hle hlen
  have hread := Head.read_write (.map (some fields.length))
    (by simp only [Head.Writable, Option.mem_def, Option.some.injEq, forall_eq', Nat.pow_eq] at hb ⊢
        omega) he.append_left
  have hentries := recordEntries_fields hnames hnodup hshort hb hstep fields.length 0
    (b.size + 1) _ init (by simp) (by simp) (by omega) (by simpa using he.append_right)
  simp only [List.drop_zero, List.range_zero, List.reverse_nil, ← List.range_eq_range',
    Nat.add_assoc] at hentries
  simp only [record, untagged_eq hread (by simp), Option.bind_eq_bind, Option.bind_some, hentries,
    record_eq, ByteArray.size_append]

/-- A field of a record, with its name, is shorter than the record. -/
theorem size_lt_record {e : String × ByteArray} (he : e ∈ fields) :
    (Cbor.text e.1).size + e.2.size < (Cbor.record fields).size := by
  have hle := le_size_foldl (List.mem_map_of_mem (f := fun e => Cbor.text e.1 ++ e.2) he)
  have hhead := size_encodeArgument_pos 5 fields.length
  rw [record_eq, ByteArray.size_append]
  simp only [ByteArray.size_append, Head.write, Option.elim] at hle hhead ⊢
  omega

/-- The head of a record is a definite map. -/
theorem read_record (hb : b.size < Nat.pow 2 64) (he : Embeds b pos (Cbor.record fields)) :
    Head.read b pos = some (.map (some fields.length),
      pos + (Head.map (some fields.length)).write.size) := by
  rw [record_eq] at he
  have hlen := length_le_size_foldl (l := fields.map fun e => Cbor.text e.1 ++ e.2)
    (by simp only [List.mem_map]; rintro _ ⟨p, -, rfl⟩; simp [ByteArray.size_append, text_size_pos])
  have hle := he.le_size
  simp only [ByteArray.size_append, List.length_map] at hle hlen
  exact Head.read_write (.map (some fields.length))
    (by simp only [Head.Writable, Option.mem_def, Option.some.injEq, forall_eq', Nat.pow_eq] at hb ⊢
        omega) he.append_left

/-- Read from a map, a record or its fields in order is read as a record. -/
theorem recordOrFields_map {init : σ} {depth p : Nat} {len : Option Nat}
    (hread : Head.read b pos = some (.map len, p)) :
    recordOrFields b names step init depth pos scratch = record b names step init depth pos scratch := by
  simp [recordOrFields, hread]

end Record

end Read

end Cbor

end RevSync
