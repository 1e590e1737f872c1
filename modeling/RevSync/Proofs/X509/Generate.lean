import RevSync.X509.Generate
import RevSync.Proofs.X509.Der
import RevSync.Proofs.Time.Civil
import Mathlib

/-!
# Generated certificates parse

Every certificate `X509.generate` writes parses (`parse_generate`), as long as its expiry is
before the year 10000 and the subject's texts are shorter than `2^24` bytes: the reader takes
four-digit years and lengths of at most four bytes. Its time items name real moments
(`readTime_timeItem`), its names, algorithms and extensions read back item by item.
-/

namespace RevSync

namespace X509

/-! ### Digits of a time -/

/-- The last `k` decimal digits of a number, most significant first. -/
def decimalDigits : Nat → Nat → List Nat
  | 0, _ => []
  | k + 1, n => decimalDigits k (n / 10) ++ [n % 10]

@[simp]
theorem length_decimalDigits (k n : Nat) : (decimalDigits k n).length = k := by
  induction k generalizing n with
  | zero => rfl
  | succ k ih => simp [decimalDigits, ih]

theorem lt_ten_of_mem_decimalDigits {k n d : Nat} (h : d ∈ decimalDigits k n) : d < 10 := by
  induction k generalizing n with
  | zero => simp [decimalDigits] at h
  | succ k ih =>
    simp only [decimalDigits, List.mem_append, List.mem_singleton] at h
    rcases h with h | rfl
    · exact ih h
    · exact Nat.mod_lt _ (by decide)

/-- Reading the digits back, most significant first, gives the number modulo `10^k`. -/
theorem foldl_decimalDigits (k n : Nat) :
    (decimalDigits k n).foldl (fun a d => a * 10 + d) 0 = n % Nat.pow 10 k := by
  induction k generalizing n with
  | zero => simp [decimalDigits, Nat.mod_one]
  | succ k ih =>
    rw [decimalDigits, List.foldl_append, ih, List.foldl_cons, List.foldl_nil]
    show _ = n % (Nat.pow 10 k * 10)
    rw [Nat.mul_comm (Nat.pow 10 k) 10, Nat.mod_mul]
    omega

/-- A number of exactly `k + 1` digits is written as those digits. -/
theorem toDigits_eq_decimalDigits {k n : Nat} (hlo : Nat.pow 10 k ≤ n) (hhi : n < Nat.pow 10 (k + 1)) :
    Nat.toDigits 10 n = (decimalDigits (k + 1) n).map Nat.digitChar := by
  induction k generalizing n with
  | zero =>
    have hn : n < 10 := hhi
    simp [decimalDigits, Nat.toDigits_of_lt_base hn, Nat.mod_eq_of_lt hn]
  | succ k ih =>
    have hp : Nat.pow 10 (k + 1) = Nat.pow 10 k * 10 := rfl
    have hq : Nat.pow 10 (k + 2) = Nat.pow 10 (k + 1) * 10 := rfl
    -- the last digit is split off, and the rest has one digit less
    have hlo' : Nat.pow 10 k ≤ n / 10 := (Nat.le_div_iff_mul_le (by decide)).2 (hp ▸ hlo)
    have hhi' : n / 10 < Nat.pow 10 (k + 1) := (Nat.div_lt_iff_lt_mul (by decide)).2 (hq ▸ hhi)
    rw [Nat.toDigits_of_base_le (by decide) (by omega), decimalDigits, List.map_append, ih hlo' hhi']
    rfl

theorem toList_twoDigits {n : Nat} (h : n < 100) :
    (twoDigits n).toList = (decimalDigits 2 n).map Nat.digitChar := by
  unfold twoDigits
  split
  · rw [String.toList_append, Nat.toString_eq_repr, Nat.toList_repr, Nat.toDigits_of_lt_base ‹_›]
    simp [decimalDigits, Nat.div_eq_of_lt ‹n < 10›, Nat.mod_eq_of_lt ‹n < 10›]
  · rw [Nat.toString_eq_repr, Nat.toList_repr, Nat.mod_eq_of_lt h,
      toDigits_eq_decimalDigits (k := 1) (by simp; omega) (by simp; omega)]

/-- A year of four digits is written as them. -/
theorem toList_toString_year {y : Int} (hlo : 1000 ≤ y) (hhi : y < 10000) :
    (toString y).toList = (decimalDigits 4 y.toNat).map Nat.digitChar := by
  obtain ⟨m, rfl⟩ : ∃ m : Nat, y = m := ⟨y.toNat, by omega⟩
  show (Nat.repr m).toList = _
  rw [Nat.toList_repr, Int.toNat_natCast,
    toDigits_eq_decimalDigits (k := 3) (by simp; omega) (by simp; omega)]

/-- The digits a number's characters stand for, most significant first. -/
theorem foldlM_digitChars (ds : List Nat) (hds : ∀ d ∈ ds, d < 10) (acc : Nat) :
    (ds.map Nat.digitChar).foldlM (fun (acc : Nat) (c : Char) =>
      if c.isDigit then some (acc * 10 + (c.toNat - '0'.toNat)) else none) acc =
      some (ds.foldl (fun a d => a * 10 + d) acc) := by
  induction ds generalizing acc with
  | nil => rfl
  | cons d ds ih =>
    have hd : d < 10 := hds d (by simp)
    simp only [List.map_cons, List.foldlM_cons, Nat.isDigit_digitChar, hd, decide_true, if_true,
      Nat.toNat_digitChar_of_lt_ten hd, List.foldl_cons, Option.bind_eq_bind, Option.bind_some,
      show '0'.toNat = 48 from rfl, Nat.add_sub_cancel_left]
    exact ih (fun x hx => hds x (by simp [hx])) _

theorem digits_decimalDigits {text : List Char} (rest : List Char) {pos k n : Nat}
    (h : text.drop pos = (decimalDigits k n).map Nat.digitChar ++ rest) :
    digits text pos k = some (n % Nat.pow 10 k) := by
  have hlen : ((decimalDigits k n).map Nat.digitChar).length = k := by simp
  simp only [digits, h, List.take_left' hlen, hlen, bne_self_eq_false, Bool.false_eq_true, if_false]
  rw [foldlM_digitChars _ (fun _ => lt_ten_of_mem_decimalDigits), foldl_decimalDigits]

/-- The digits that stand after some others are read where they start. -/
theorem digits_after (text : List Char) (pre : List Nat) {rest : List Char} {k n : Nat}
    (h : text = pre.map Nat.digitChar ++ ((decimalDigits k n).map Nat.digitChar ++ rest)) :
    digits text pre.length k = some (n % Nat.pow 10 k) :=
  digits_decimalDigits rest (by rw [h, List.drop_left' (by simp)])

/-! ### Time items -/

/-- The characters after a time's year: month, day, hour, minute and second in two digits each,
then `Z`. -/
def clockChars (month day hour minute second : Nat) : List Char :=
  (decimalDigits 2 month ++ decimalDigits 2 day ++ decimalDigits 2 hour ++ decimalDigits 2 minute ++
    decimalDigits 2 second).map Nat.digitChar ++ ['Z']

/-- The year a two-digit `UTCTime` year stands for. -/
def utcYear (yy : Nat) : Int := if yy < 50 then 2000 + yy else 1900 + yy

/-- A date and time of day in `year` that a time item accepts. -/
def ClockValid (year : Int) (month day hour minute second : Nat) : Prop :=
  1 ≤ month ∧ month ≤ 12 ∧ 1 ≤ day ∧ day ≤ daysIn year month ∧ hour ≤ 23 ∧ minute ≤ 59 ∧
    second ≤ 59

section Clock

variable {text : List Char} {ys : List Nat} {month day hour minute second : Nat}

/-- The fields of a time text after a year of `ys.length` digits. -/
theorem clock_fields (h : text = ys.map Nat.digitChar ++ clockChars month day hour minute second) :
    digits text ys.length 2 = some (month % 100) ∧
      digits text (ys.length + 2) 2 = some (day % 100) ∧
      digits text (ys.length + 4) 2 = some (hour % 100) ∧
      digits text (ys.length + 6) 2 = some (minute % 100) ∧
      digits text (ys.length + 8) 2 = some (second % 100) ∧
      text.getLast? = some 'Z' ∧ text.length = ys.length + 11 := by
  -- each field is read after the digits in front of it
  have hm := digits_after text ys (k := 2) (n := month)
    (by rw [h, clockChars]; simp only [List.map_append, List.append_assoc]; rfl)
  have hd := digits_after text (ys ++ decimalDigits 2 month) (k := 2) (n := day)
    (by rw [h, clockChars]; simp only [List.map_append, List.append_assoc]; rfl)
  have hh := digits_after text (ys ++ decimalDigits 2 month ++ decimalDigits 2 day)
    (k := 2) (n := hour) (by rw [h, clockChars]; simp only [List.map_append, List.append_assoc]; rfl)
  have hmi := digits_after text
    (ys ++ decimalDigits 2 month ++ decimalDigits 2 day ++ decimalDigits 2 hour) (k := 2)
    (n := minute) (by rw [h, clockChars]; simp only [List.map_append, List.append_assoc]; rfl)
  have hs := digits_after text (ys ++ decimalDigits 2 month ++ decimalDigits 2 day ++
    decimalDigits 2 hour ++ decimalDigits 2 minute) (k := 2) (n := second)
    (by rw [h, clockChars]; simp only [List.map_append, List.append_assoc]; rfl)
  simp only [List.length_append, length_decimalDigits, Nat.add_assoc] at hm hd hh hmi hs
  refine ⟨hm, hd, hh, hmi, hs, by simp [h, clockChars], by simp [h, clockChars]⟩

theorem daysIn_le_31 (year : Int) (month : Nat) : daysIn year month ≤ 31 := by
  unfold daysIn
  dsimp only
  split
  · split <;> omega
  all_goals omega

/-- A `UTCTime` text names the moment its fields give, the year read in the century from 1950. -/
theorem readTime_utcTime {s : String} {yy : Nat}
    (hs : s.toList = (decimalDigits 2 yy).map Nat.digitChar ++ clockChars month day hour minute second)
    (hv : ClockValid (utcYear (yy % 100)) month day hour minute second) :
    readTime (Der.itemOf Der.tagUtcTime s.toUTF8) =
      some (Timestamp.ofCivil ⟨utcYear (yy % 100), month, day⟩ hour minute second).seconds := by
  obtain ⟨hm, hd, hh, hmi, hsec, hz, hlen⟩ := clock_fields hs
  have hyy : digits s.toList 0 2 = some (yy % 100) :=
    digits_decimalDigits (clockChars month day hour minute second) (by simp [hs])
  obtain ⟨h1, h2, h3, h4, h5, h6, h7⟩ := hv
  have h31 := daysIn_le_31 (utcYear (yy % 100)) month
  simp only [length_decimalDigits] at hm hd hh hmi hsec hlen
  simp only [readTime, Der.itemOf, String.toUTF8_eq_toByteArray, Cbor.fromUTF8?_toByteArray,
    Option.map_some, BEq.rfl, ↓reduceIte, bne_iff_ne, ne_eq, Option.pure_def, gt_iff_lt,
    Bool.or_eq_true, decide_eq_true_eq, Option.bind_eq_bind, Option.bind_some, Nat.reduceAdd,
    hlen, hyy, hm, hd, hh, hmi, hsec, hz, Nat.mod_eq_of_lt (show month < 100 by omega),
    Nat.mod_eq_of_lt (show day < 100 by omega), Nat.mod_eq_of_lt (show hour < 100 by omega),
    Nat.mod_eq_of_lt (show minute < 100 by omega), Nat.mod_eq_of_lt (show second < 100 by omega),
    not_true_eq_false]
  rw [if_neg (by unfold utcYear at h4; omega)]
  rfl

/-- A `GeneralizedTime` text names the moment its fields give. -/
theorem readTime_generalizedTime {s : String} {y : Nat}
    (hs : s.toList = (decimalDigits 4 y).map Nat.digitChar ++ clockChars month day hour minute second)
    (hv : ClockValid ((y % 10000 : Nat) : Int) month day hour minute second) :
    readTime (Der.itemOf Der.tagGeneralizedTime s.toUTF8) =
      some (Timestamp.ofCivil ⟨((y % 10000 : Nat) : Int), month, day⟩ hour minute second).seconds := by
  obtain ⟨hm, hd, hh, hmi, hsec, hz, hlen⟩ := clock_fields hs
  have hy : digits s.toList 0 4 = some (y % 10000) :=
    digits_decimalDigits (clockChars month day hour minute second) (by simp [hs])
  obtain ⟨h1, h2, h3, h4, h5, h6, h7⟩ := hv
  have h31 := daysIn_le_31 ((y % 10000 : Nat) : Int) month
  have htag : (Der.tagGeneralizedTime == Der.tagUtcTime) = false := by decide
  simp only [length_decimalDigits] at hm hd hh hmi hsec hlen
  simp only [readTime, Der.itemOf, String.toUTF8_eq_toByteArray, Cbor.fromUTF8?_toByteArray,
    Option.map_some, BEq.rfl, htag, Bool.false_eq_true, ↓reduceIte, bne_iff_ne, ne_eq, Option.pure_def, gt_iff_lt,
    Bool.or_eq_true, decide_eq_true_eq, Option.bind_eq_bind, Option.bind_some, Nat.reduceAdd,
    hlen, hy, hm, hd, hh, hmi, hsec, hz, Nat.mod_eq_of_lt (show month < 100 by omega),
    Nat.mod_eq_of_lt (show day < 100 by omega), Nat.mod_eq_of_lt (show hour < 100 by omega),
    Nat.mod_eq_of_lt (show minute < 100 by omega), Nat.mod_eq_of_lt (show second < 100 by omega),
    not_true_eq_false]
  rw [if_neg (by omega)]

/-- Reading a year by its last two digits keeps its leap day: a leap year ending in `00` is a
multiple of 400, read as 2000. -/
theorem daysIn_le_utcYear (year : Int) (month : Nat) :
    daysIn year month ≤ daysIn (utcYear (year % 100).toNat) month := by
  unfold daysIn utcYear
  dsimp only
  split
  · split <;> split_ifs <;> simp_all <;> omega
  all_goals omega

end Clock

theorem utf8ByteSize_ofList_le (l : List Char) : (String.ofList l).utf8ByteSize ≤ 4 * l.length := by
  induction l with
  | nil => simp
  | cons c l ih =>
    rw [show c :: l = [c] ++ l from rfl, String.ofList_append, String.utf8ByteSize_append,
      ← String.singleton_eq_ofList, String.utf8ByteSize_singleton]
    have := Char.utf8Size_le_four c
    simp only [List.length_append, List.length_singleton]
    omega

/-- The text of a time after its year. -/
theorem toList_clockText {month day sd : Nat} (hmonth : month ≤ 12) (hday : day ≤ 31)
    (hsd : sd < 86400) :
    (twoDigits month ++ twoDigits day ++ twoDigits (sd / 3600) ++ twoDigits (sd / 60 % 60) ++
      twoDigits (sd % 60) ++ "Z").toList = clockChars month day (sd / 3600) (sd / 60 % 60) (sd % 60) := by
  simp only [String.toList_append, toList_twoDigits (show month < 100 by omega),
    toList_twoDigits (show day < 100 by omega), toList_twoDigits (show sd / 3600 < 100 by omega),
    toList_twoDigits (show sd / 60 % 60 < 100 by omega), toList_twoDigits (show sd % 60 < 100 by omega),
    clockChars, List.map_append, List.append_assoc]
  rfl

/-- A text of `n` characters and its UTF-8 bytes as a time item's content. -/
theorem fits_time (tag : UInt8) {s : String} (htag : tag &&& 0x1f ≠ 0x1f)
    (hs : s.toList.length ≤ 15) : Der.Fits tag s.toUTF8 ∧ s.toUTF8.size ≤ 60 := by
  have hle := utf8ByteSize_ofList_le s.toList
  rw [String.ofList_toList] at hle
  have hsize : s.toUTF8.size = s.utf8ByteSize := String.size_toByteArray
  exact ⟨⟨htag, show _ < 4294967296 by omega⟩, by omega⟩

/-- A moment before the year 10000 is written as a time item that reads back. -/
theorem timeItem_reads {seconds : Int} (h : seconds < 253402300800) :
    ∃ tag c, timeItem seconds = Der.encode tag c ∧ Der.Fits tag c ∧ c.size ≤ 60 ∧
      (readTime (Der.itemOf tag c)).isSome := by
  simp only [timeItem]
  have hv := Timestamp.date_valid { seconds }
  have hsd := Timestamp.secondOfDay_lt { seconds }
  have hy := Timestamp.date_year_le (t := { seconds }) h
  generalize ({ seconds } : Timestamp).date = d at hv hy
  generalize ({ seconds } : Timestamp).secondOfDay = sd at hsd
  obtain ⟨h1, h2, h3, h4⟩ := hv
  have h31 := daysIn_le_31 d.year d.month
  have hclock := toList_clockText h2 (show d.day ≤ 31 by omega) hsd
  have hhour : sd / 3600 ≤ 23 := by omega
  generalize twoDigits d.month ++ twoDigits d.day ++ twoDigits (sd / 3600) ++
    twoDigits (sd / 60 % 60) ++ twoDigits (sd % 60) ++ "Z" = clock at hclock ⊢
  have hlen : (clockChars d.month d.day (sd / 3600) (sd / 60 % 60) (sd % 60)).length = 11 := by
    simp [clockChars]
  split
  · -- before 2050: two digits of the year, read back in the century from 1950
    have hyy : (d.year % 100).toNat < 100 := by omega
    have htext : (twoDigits (d.year % 100).toNat ++ clock).toList =
        (decimalDigits 2 (d.year % 100).toNat).map Nat.digitChar ++
          clockChars d.month d.day (sd / 3600) (sd / 60 % 60) (sd % 60) := by
      rw [String.toList_append, toList_twoDigits hyy, hclock]
    obtain ⟨hfit, hsize⟩ := fits_time Der.tagUtcTime (s := twoDigits (d.year % 100).toNat ++ clock)
      (by decide) (by rw [htext]; simp [hlen])
    have hleap := daysIn_le_utcYear d.year d.month
    rw [← Nat.mod_eq_of_lt hyy] at hleap
    refine ⟨_, _, rfl, hfit, hsize, ?_⟩
    rw [readTime_utcTime htext ⟨h1, h2, h3, by omega, hhour, by omega, by omega⟩]
    rfl
  · -- from 2050: the year in four digits
    have hyear : ((d.year.toNat % 10000 : Nat) : Int) = d.year := by omega
    have htext : (toString d.year ++ clock).toList =
        (decimalDigits 4 d.year.toNat).map Nat.digitChar ++
          clockChars d.month d.day (sd / 3600) (sd / 60 % 60) (sd % 60) := by
      rw [String.toList_append, toList_toString_year (by omega) (by omega), hclock]
    obtain ⟨hfit, hsize⟩ := fits_time Der.tagGeneralizedTime (s := toString d.year ++ clock)
      (by decide) (by rw [htext]; simp [hlen])
    refine ⟨_, _, rfl, hfit, hsize, ?_⟩
    rw [readTime_generalizedTime htext ⟨h1, h2, h3, by rw [hyear]; omega, hhour, by omega, by omega⟩]
    rfl

/-! ### Names -/

/-- A list passed through a partial function that succeeds on each element. -/
theorem mapM_eq_some_map {α β : Type} {f : α → Option β} {g : α → β} {l : List α}
    (h : ∀ x ∈ l, f x = some (g x)) : l.mapM f = some (l.map g) := by
  induction l with
  | nil => rfl
  | cons x l ih =>
    rw [List.mapM_cons, h x (by simp), ih fun y hy => h y (by simp [hy])]
    rfl

/-- The attributes of a subject in the order they are written: identifier, string tag, text. -/
def Subject.attributes (s : Subject) : List (List UInt8 × UInt8 × String) :=
  (oidCommonName, Der.tagUtf8String, s.commonName) ::
    ((s.organization.map fun v => (oidOrganization, Der.tagUtf8String, v)).toList ++
      (s.unit.map fun v => (oidOrganizationalUnit, Der.tagUtf8String, v)).toList ++
      (s.country.map fun v => (oidCountry, Der.tagPrintableString, v)).toList ++
      (s.locality.map fun v => (oidLocality, Der.tagUtf8String, v)).toList)

/-- Every text of the subject takes fewer than `2^24` bytes. -/
def Subject.Bounded (s : Subject) : Prop :=
  ∀ a ∈ s.attributes, a.2.2.utf8ByteSize < Nat.pow 2 24

/-- The content of an attribute's pair: its identifier and its value. -/
def pairContent (a : List UInt8 × UInt8 × String) : ByteArray :=
  Der.encodings [(Der.tagOid, ⟨a.1.toArray⟩), (a.2.1, a.2.2.toUTF8)]

/-- The relative names of a subject, each a set of one pair. -/
def rdnParts (s : Subject) : List (UInt8 × ByteArray) :=
  s.attributes.map fun a => (Der.tagSet, Der.encodings [(Der.tagSequence, pairContent a)])

theorem Subject.encode_eq (s : Subject) :
    s.encode = Der.encode Der.tagSequence (Der.encodings (rdnParts s)) := by
  rcases s with ⟨cn, o, u, c, l⟩
  cases o <;> cases u <;> cases c <;> cases l <;> rfl

/-- The attributes a certificate keeps of a name written for a subject. -/
def Subject.readBack (s : Subject) : List Attribute :=
  s.attributes.map fun a => ⟨a.1, Der.itemOf a.2.1 a.2.2.toUTF8⟩

/-- Every attribute of a subject has a three-byte identifier and a one-byte string tag. -/
theorem attribute_shape {s : Subject} {a : List UInt8 × UInt8 × String} (ha : a ∈ s.attributes) :
    a.1.length = 3 ∧ a.2.1 &&& 0x1f ≠ 0x1f := by
  simp only [Subject.attributes, List.mem_cons, List.mem_append, Option.mem_toList,
    Option.map_eq_some_iff] at ha
  rcases ha with rfl | (((⟨_, -, rfl⟩ | ⟨_, -, rfl⟩) | ⟨_, -, rfl⟩) | ⟨_, -, rfl⟩) <;>
    exact ⟨rfl, by dsimp only; decide⟩

section Bounded

variable {s : Subject} {a : List UInt8 × UInt8 × String}

theorem size_toUTF8 (v : String) : v.toUTF8.size = v.utf8ByteSize := String.size_toByteArray

/-- The identifier and value of an attribute fit, and their pair takes at most 15 bytes more
than the text. -/
theorem pair_fits (hb : s.Bounded) (ha : a ∈ s.attributes) :
    (∀ p ∈ [(Der.tagOid, ByteArray.mk a.1.toArray), (a.2.1, a.2.2.toUTF8)], Der.Fits p.1 p.2) ∧
      (pairContent a).size ≤ a.2.2.utf8ByteSize + 15 := by
  obtain ⟨hoid, htag⟩ := attribute_shape ha
  have hv := hb a ha
  have hoidSize : (ByteArray.mk a.1.toArray).size = 3 := (size_mk_toArray _).trans hoid
  have hvSize := size_toUTF8 a.2.2
  have h24 : Nat.pow 2 24 = 16777216 := rfl
  have h32 : Nat.pow 2 32 = 4294967296 := rfl
  refine ⟨?_, ?_⟩
  · intro p hp
    simp only [List.mem_cons, List.mem_nil_iff, or_false] at hp
    rcases hp with rfl | rfl
    · exact ⟨by dsimp only; decide, by dsimp only; omega⟩
    · exact ⟨htag, by dsimp only; omega⟩
  · have h1 := Der.size_encode_le Der.tagOid (c := ByteArray.mk a.1.toArray) (by rw [hoidSize]; decide)
    have h2 := Der.size_encode_le a.2.1 (c := a.2.2.toUTF8) (by omega)
    simp only [pairContent, Der.size_encodings, List.map_cons, List.map_nil, List.sum_cons,
      List.sum_nil]
    omega

/-- The set holding an attribute's pair fits, and takes at most 21 bytes more than the text. -/
theorem rdn_fits (hb : s.Bounded) (ha : a ∈ s.attributes) :
    Der.Fits Der.tagSequence (pairContent a) ∧
      Der.Fits Der.tagSet (Der.encodings [(Der.tagSequence, pairContent a)]) ∧
      (Der.encode Der.tagSet (Der.encodings [(Der.tagSequence, pairContent a)])).size ≤
        a.2.2.utf8ByteSize + 27 := by
  have hpair := (pair_fits hb ha).2
  have hv := hb a ha
  have h24 : Nat.pow 2 24 = 16777216 := rfl
  have h32 : Nat.pow 2 32 = 4294967296 := rfl
  have h1 := Der.size_encode_le Der.tagSequence (c := pairContent a) (by omega)
  have hset : (Der.encodings [(Der.tagSequence, pairContent a)]).size ≤ a.2.2.utf8ByteSize + 21 := by
    simp only [Der.size_encodings, List.map_cons, List.map_nil, List.sum_cons, List.sum_nil]
    omega
  have h2 := Der.size_encode_le Der.tagSet (c := Der.encodings [(Der.tagSequence, pairContent a)])
    (by omega)
  exact ⟨⟨by decide, by omega⟩, ⟨by decide, by omega⟩, by omega⟩

theorem length_attributes_le (s : Subject) : s.attributes.length ≤ 5 := by
  rcases s with ⟨cn, o, u, c, l⟩
  cases o <;> cases u <;> cases c <;> cases l <;> simp [Subject.attributes]

/-- A name of bounded texts takes fewer than `2^27` bytes. -/
theorem size_name_lt (hb : s.Bounded) : (Der.encodings (rdnParts s)).size < Nat.pow 2 27 := by
  have hle : (Der.encodings (rdnParts s)).size ≤ s.attributes.length * (Nat.pow 2 24 + 27) := by
    rw [Der.size_encodings, rdnParts, List.map_map]
    have := List.sum_le_card_nsmul (s.attributes.map ((fun p => (Der.encode p.1 p.2).size) ∘
      fun a => (Der.tagSet, Der.encodings [(Der.tagSequence, pairContent a)])))
      (Nat.pow 2 24 + 27) (by
        simp only [List.mem_map, Function.comp]
        rintro _ ⟨a, ha, rfl⟩
        have := (rdn_fits hb ha).2.2
        have := hb a ha
        omega)
    simpa using this
  have h5 := length_attributes_le s
  have h24 : Nat.pow 2 24 = 16777216 := rfl
  have h27 : Nat.pow 2 27 = 134217728 := rfl
  have : s.attributes.length * (Nat.pow 2 24 + 27) ≤ 5 * (Nat.pow 2 24 + 27) :=
    Nat.mul_le_mul_right _ h5
  omega

end Bounded

theorem readName_encode {s : Subject} (hb : s.Bounded) :
    readName (Der.itemOf Der.tagSequence (Der.encodings (rdnParts s))) = some s.readBack := by
  have hrdns : ∀ p ∈ rdnParts s, Der.Fits p.1 p.2 := by
    simp only [rdnParts, List.mem_map]
    rintro _ ⟨a, ha, rfl⟩
    exact (rdn_fits hb ha).2.1
  simp only [readName, Der.itemOf, bne_self_eq_false, Bool.false_eq_true, if_false,
    Der.items_encodings hrdns, Option.bind_eq_bind, Option.bind_some]
  rw [rdnParts, List.map_map, List.mapM_map,
    mapM_eq_some_map (g := fun a => [(⟨a.1, Der.itemOf a.2.1 a.2.2.toUTF8⟩ : Attribute)])]
  · rw [Subject.readBack, List.map_eq_flatMap (f := fun a : List UInt8 × UInt8 × String =>
      (⟨a.1, Der.itemOf a.2.1 a.2.2.toUTF8⟩ : Attribute)), List.flatMap_def]
    rfl
  · -- one relative name: a set of one pair of identifier and value
    intro a ha
    obtain ⟨hpair, -⟩ := pair_fits hb ha
    obtain ⟨hseq, -, -⟩ := rdn_fits hb ha
    have hset : ∀ p ∈ [(Der.tagSequence, pairContent a)], Der.Fits p.1 p.2 := by simpa using hseq
    simp only [Function.comp_apply, Der.itemOf, bne_self_eq_false, Bool.false_eq_true, if_false]
    rw [Der.items_encodings hset]
    simp only [Option.bind_eq_bind, Option.bind_some, List.map_cons, List.map_nil, List.isEmpty_cons,
      Bool.false_eq_true, if_false, List.mapM_cons, List.mapM_nil, bne_self_eq_false, Der.itemOf]
    rw [pairContent, Der.items_encodings hpair]
    simp [Der.itemOf, Hex.toList_bytes]

/-! ### Certificates -/

/-- What reading the fields of a to-be-signed part needs of each field. -/
theorem readTbsFields_isSome {serial alg issuer validity subject spki : Der.Item} {optional : List Der.Item}
    {version : Nat} (hserial : serial.tag = Der.tagInteger ∧ serial.content.size ≠ 0)
    (halg : (readAlgorithm alg).isSome) (hissuer : (readName issuer).isSome)
    (hsubject : (readName subject).isSome)
    (hvalidity : validity.tag = Der.tagSequence ∧ ∃ a b, Der.items validity.content = some [a, b] ∧
      (readTime a).isSome ∧ (readTime b).isSome)
    (hspki : spki.tag = Der.tagSequence ∧ ∃ keyAlg key, Der.items spki.content = some [keyAlg, key] ∧
      key.tag = Der.tagBitString ∧ (readAlgorithm keyAlg).isSome ∧ (Der.bitString key.content).isSome)
    (hoptional : (readTbsFields.readOptional version optional).isSome) :
    (readTbsFields version (serial :: alg :: issuer :: validity :: subject :: spki :: optional)).isSome := by
  obtain ⟨hst, hsz⟩ := hserial
  obtain ⟨_, halg⟩ := Option.isSome_iff_exists.1 halg
  obtain ⟨_, hissuer⟩ := Option.isSome_iff_exists.1 hissuer
  obtain ⟨_, hsubject⟩ := Option.isSome_iff_exists.1 hsubject
  obtain ⟨hvt, a, b, hvi, ha, hb⟩ := hvalidity
  obtain ⟨_, ha⟩ := Option.isSome_iff_exists.1 ha
  obtain ⟨_, hb⟩ := Option.isSome_iff_exists.1 hb
  obtain ⟨hst', keyAlg, key, hsi, hkt, hka, hk⟩ := hspki
  obtain ⟨_, hka⟩ := Option.isSome_iff_exists.1 hka
  obtain ⟨_, hk⟩ := Option.isSome_iff_exists.1 hk
  obtain ⟨_, hoptional⟩ := Option.isSome_iff_exists.1 hoptional
  simp [readTbsFields, hst, hsz, halg, hissuer, hsubject, hvt, hvi, ha, hb, hst', hsi, hkt, hka, hk,
    hoptional]

/-- The version item of a version 3 certificate. -/
theorem single_integer_two : Der.single (Der.integer 2) = some (Der.itemOf Der.tagInteger ⟨#[2]⟩) := by
  rw [Der.integer_small (by decide)]
  rfl

/-- A certificate written as a version 3 to-be-signed part, an algorithm and a signature parses as
soon as its fields do. -/
theorem parse_isSome {parts : List (UInt8 × ByteArray)} (algC sigC : ByteArray)
    (hparts : ∀ p ∈ parts, Der.Fits p.1 p.2)
    (htbs : Der.Fits Der.tagSequence (Der.encodings ((0xa0, Der.integer 2) :: parts)))
    (halgFits : Der.Fits Der.tagSequence algC) (hsigFits : Der.Fits Der.tagBitString sigC)
    (hall : Der.Fits Der.tagSequence (Der.encodings [(Der.tagSequence,
      Der.encodings ((0xa0, Der.integer 2) :: parts)), (Der.tagSequence, algC), (Der.tagBitString, sigC)]))
    (hfields : (readTbsFields 2 (parts.map fun p => Der.itemOf p.1 p.2)).isSome)
    (halg : (readAlgorithm (Der.itemOf Der.tagSequence algC)).isSome)
    (hsig : (Der.bitString sigC).isSome) :
    (parse (Der.encode Der.tagSequence (Der.encodings [(Der.tagSequence,
      Der.encodings ((0xa0, Der.integer 2) :: parts)), (Der.tagSequence, algC),
      (Der.tagBitString, sigC)]))).isSome := by
  have hout := Der.read_encode hall (Embeds.refl _)
  have houter : ∀ p ∈ [(Der.tagSequence, Der.encodings ((0xa0, Der.integer 2) :: parts)),
      (Der.tagSequence, algC), (Der.tagBitString, sigC)], Der.Fits p.1 p.2 := by
    simp only [List.mem_cons, List.mem_nil_iff, or_false]
    rintro p (rfl | rfl | rfl) <;> assumption
  have hversion : Der.Fits 0xa0 (Der.integer 2) := by
    rw [Der.integer_small (by decide)]
    exact ⟨by decide, by decide⟩
  have hinner : ∀ p ∈ (0xa0, Der.integer 2) :: parts, Der.Fits p.1 p.2 := by
    simp only [List.mem_cons]
    rintro p (rfl | hp)
    · exact hversion
    · exact hparts p hp
  obtain ⟨_, hfields⟩ := Option.isSome_iff_exists.1 hfields
  obtain ⟨_, halg⟩ := Option.isSome_iff_exists.1 halg
  obtain ⟨_, hsig⟩ := Option.isSome_iff_exists.1 hsig
  simp only [parse, Der.expect, hout, Der.itemOf, Option.bind_eq_bind, Option.bind_some,
    Option.pure_def, BEq.rfl, if_true]
  rw [Der.items_encodings houter]
  simp only [List.map_cons, List.map_nil, Option.bind_some, Der.itemOf, bne_self_eq_false,
    Bool.or_false, Bool.false_eq_true, if_false]
  rw [Der.items_encodings hinner]
  have hnat : Der.natural ⟨#[2]⟩ = some 2 := rfl
  simp only [Der.itemOf] at hfields halg
  simp [Der.itemOf, single_integer_two, hnat, hfields, halg, hsig]

/-- Both halves of a signature are reduced modulo the group order. -/
theorem P256.sign_lt {d k e r s : Nat} (h : P256.sign d k e = some (r, s)) : r < P256.n ∧ s < P256.n := by
  unfold P256.sign at h
  obtain ⟨⟨x, _⟩, -, h⟩ := Option.bind_eq_some_iff.1 h
  simp only [Option.ite_none_left_eq_some, Option.some.injEq, Prod.mk.injEq] at h
  obtain ⟨-, rfl, rfl⟩ := h
  have hn : 0 < P256.n := by decide
  exact ⟨Nat.mod_lt _ hn, Nat.mod_lt _ hn⟩

/-- The certificate and key `generate` writes: a version 3 certificate for the subject, signed
with a signature below the group order, and the PKCS#8 key holding the same point. -/
theorem generate_eq_some {subject : Subject} {usage : KeyUsage} {notBefore notAfter : Int}
    {secret nonce : Nat} {cert key : ByteArray}
    (h : generate subject usage notBefore notAfter secret nonce = some (cert, key)) :
    ∃ point serial r s, point.size = 65 ∧ serial < Nat.pow 2 160 ∧ r < P256.n ∧ s < P256.n ∧
      cert = Der.sequence [Der.sequence [Der.encode 0xa0 (Der.integer 2), Der.integer serial,
        ecdsaSha256Algorithm, subject.encode, Der.sequence [timeItem notBefore, timeItem notAfter],
        subject.encode, Der.sequence [p256Algorithm, Der.bits point], extensionsFor usage],
        ecdsaSha256Algorithm, Der.bits (Der.sequence [Der.integer r, Der.integer s])] ∧
      key = Der.sequence [Der.integer 0, p256Algorithm, Der.encode Der.tagOctetString
        (Der.sequence [Der.integer 1, Der.encode Der.tagOctetString (bytesOfNatBE secret 32),
          Der.encode 0xa1 (Der.bits point)])] := by
  unfold generate at h
  simp only [Option.bind_eq_bind] at h
  split at h
  · simp at h
  · obtain ⟨⟨qx, qy⟩, -, h⟩ := Option.bind_eq_some_iff.1 h
    obtain ⟨⟨r, s⟩, hsign, h⟩ := Option.bind_eq_some_iff.1 h
    obtain ⟨rfl, rfl⟩ := Prod.mk.inj (Option.some.inj h).symm
    obtain ⟨hr, hs⟩ := P256.sign_lt hsign
    refine ⟨pointBytes qx qy, _, r, s, ?_, ?_, hr, hs, rfl, rfl⟩
    · simp [pointBytes, ByteArray.size_append, size_bytesOfNatBE]
    · dsimp only
      have : Nat.pow 2 160 = Nat.pow 2 159 * 2 := rfl
      have := Nat.mod_lt (natOfBytesBE ((sha256 (pointBytes qx qy)).extract 0 20))
        (show 0 < Nat.pow 2 159 by decide)
      omega

/-- The content of the signature algorithm identifier. -/
def ecdsaContent : ByteArray := Der.encodings [(Der.tagOid, ⟨oidEcdsaSha256.toArray⟩)]

/-- The content of the key algorithm identifier. -/
def p256Content : ByteArray :=
  Der.encodings [(Der.tagOid, ⟨oidEcPublicKey.toArray⟩), (Der.tagOid, ⟨oidP256.toArray⟩)]

theorem ecdsaSha256Algorithm_eq : ecdsaSha256Algorithm = Der.encode Der.tagSequence ecdsaContent := rfl

theorem p256Algorithm_eq : p256Algorithm = Der.encode Der.tagSequence p256Content := rfl

/-- The extensions of a generated certificate read back, for either use. -/
theorem extensionsFor_reads (usage : KeyUsage) :
    ∃ c, extensionsFor usage = Der.encode 0xa3 c ∧ c.size < 128 ∧
      (readTbsFields.readOptional 2 [Der.itemOf 0xa3 c]).isSome := by
  cases usage <;> exact ⟨_, rfl, by decide, by decide +kernel⟩

/-- Every certificate `generate` writes parses, for a subject of bounded texts and times before the
year 10000. -/
theorem parse_generate {subject : Subject} {usage : KeyUsage} {notBefore notAfter : Int}
    {secret nonce : Nat} {cert key : ByteArray}
    (h : generate subject usage notBefore notAfter secret nonce = some (cert, key))
    (hb : subject.Bounded) (hnb : notBefore < 253402300800) (hna : notAfter < 253402300800) :
    (parse cert).isSome := by
  obtain ⟨point, serial, r, s, hpoint, hserial, hr, hs, rfl, -⟩ := generate_eq_some h
  have hn : P256.n < Nat.pow 2 (8 * 32) := by decide
  obtain ⟨tagB, cB, hB, fitB, sizeB, readB⟩ := timeItem_reads hnb
  obtain ⟨tagA, cA, hA, fitA, sizeA, readA⟩ := timeItem_reads hna
  obtain ⟨cSerial, hcSerial, hcSerial0, hcSerial1⟩ := Der.integer_eq (k := 20) (by decide) hserial
  obtain ⟨cR, hcR, -, hcR1⟩ := Der.integer_eq (k := 32) (by decide) (Nat.lt_trans hr hn)
  obtain ⟨cS, hcS, -, hcS1⟩ := Der.integer_eq (k := 32) (by decide) (Nat.lt_trans hs hn)
  obtain ⟨cExt, hExt, hExtSize, hExtRead⟩ := extensionsFor_reads usage
  rw [hB, hA, hcSerial, hcR, hcS, hExt, Subject.encode_eq, ecdsaSha256Algorithm_eq, p256Algorithm_eq]
  generalize hnameC : Der.encodings (rdnParts subject) = nameC
  have hname : nameC.size < Nat.pow 2 27 := hnameC ▸ size_name_lt hb
  have h27 : Nat.pow 2 27 = 134217728 := rfl
  have h32 : Nat.pow 2 32 = 4294967296 := rfl
  -- the sizes of the parts, each far below the four length bytes a reader takes
  have hecdsa : ecdsaContent.size = 10 := by decide
  have hp256 : p256Content.size = 19 := by decide
  have hbits : (ByteArray.mk #[0] ++ point).size = 66 := by
    simp [ByteArray.size_append, hpoint]
  have hvalidity : (Der.encodings [(tagB, cB), (tagA, cA)]).size ≤ 132 := by
    have := Der.size_encodings_le [(tagB, cB), (tagA, cA)] (by simp; omega)
    simp at this
    omega
  have hspki : (Der.encodings [(Der.tagSequence, p256Content),
      (Der.tagBitString, ByteArray.mk #[0] ++ point)]).size ≤ 97 := by
    have := Der.size_encodings_le ([(Der.tagSequence, p256Content),
      (Der.tagBitString, ByteArray.mk #[0] ++ point)]) (by simp [hp256, hbits])
    simp [hp256, hbits] at this
    omega
  have hsig : (Der.encode Der.tagSequence (Der.encodings [(Der.tagInteger, cR),
      (Der.tagInteger, cS)])).size ≤ 84 := by
    have := Der.size_encodings_le [(Der.tagInteger, cR), (Der.tagInteger, cS)] (by simp; omega)
    simp at this
    have := Der.size_encode_le Der.tagSequence
      (c := Der.encodings [(Der.tagInteger, cR), (Der.tagInteger, cS)]) (by omega)
    omega
  have hversion : (Der.integer 2).size = 3 := by rw [Der.integer_small (by decide)]; rfl
  have hparts : ∀ p ∈ [(Der.tagInteger, cSerial), (Der.tagSequence, ecdsaContent),
      (Der.tagSequence, nameC), (Der.tagSequence, Der.encodings [(tagB, cB), (tagA, cA)]),
      (Der.tagSequence, nameC), (Der.tagSequence, Der.encodings [(Der.tagSequence, p256Content),
        (Der.tagBitString, ByteArray.mk #[0] ++ point)]), ((0xa3 : UInt8), cExt)],
      Der.Fits p.1 p.2 := by
    simp only [List.mem_cons, List.mem_nil_iff, or_false]
    rintro p (rfl | rfl | rfl | rfl | rfl | rfl | rfl) <;> exact ⟨by dsimp only; decide, by dsimp only; omega⟩
  have htbs := Der.size_encodings_le ((0xa0, Der.integer 2) :: [(Der.tagInteger, cSerial),
      (Der.tagSequence, ecdsaContent), (Der.tagSequence, nameC),
      (Der.tagSequence, Der.encodings [(tagB, cB), (tagA, cA)]), (Der.tagSequence, nameC),
      (Der.tagSequence, Der.encodings [(Der.tagSequence, p256Content),
        (Der.tagBitString, ByteArray.mk #[0] ++ point)]), ((0xa3 : UInt8), cExt)])
    (by simp [hversion]; omega)
  simp [hversion] at htbs
  have htbsFits : Der.Fits Der.tagSequence (Der.encodings ((0xa0, Der.integer 2) ::
      [(Der.tagInteger, cSerial), (Der.tagSequence, ecdsaContent), (Der.tagSequence, nameC),
      (Der.tagSequence, Der.encodings [(tagB, cB), (tagA, cA)]), (Der.tagSequence, nameC),
      (Der.tagSequence, Der.encodings [(Der.tagSequence, p256Content),
        (Der.tagBitString, ByteArray.mk #[0] ++ point)]), ((0xa3 : UInt8), cExt)])) :=
    ⟨by decide, by omega⟩
  have hsigC : (ByteArray.mk #[0] ++ Der.encode Der.tagSequence (Der.encodings [(Der.tagInteger, cR),
      (Der.tagInteger, cS)])).size ≤ 85 := by
    simp only [ByteArray.size_append, Der.size_mk_singleton]
    omega
  have hall := Der.size_encodings_le ([(Der.tagSequence, Der.encodings ((0xa0, Der.integer 2) ::
      [(Der.tagInteger, cSerial), (Der.tagSequence, ecdsaContent), (Der.tagSequence, nameC),
      (Der.tagSequence, Der.encodings [(tagB, cB), (tagA, cA)]), (Der.tagSequence, nameC),
      (Der.tagSequence, Der.encodings [(Der.tagSequence, p256Content),
        (Der.tagBitString, ByteArray.mk #[0] ++ point)]), ((0xa3 : UInt8), cExt)])),
      (Der.tagSequence, ecdsaContent), (Der.tagBitString, ByteArray.mk #[0] ++
        Der.encode Der.tagSequence (Der.encodings [(Der.tagInteger, cR), (Der.tagInteger, cS)]))])
    (by
      simp only [List.mem_cons, List.mem_nil_iff, or_false]
      rintro p (rfl | rfl | rfl) <;> dsimp only <;> omega)
  simp only [List.map_cons, List.map_nil, List.sum_cons, List.sum_nil] at hall
  have hfields : (readTbsFields 2 ([(Der.tagInteger, cSerial), (Der.tagSequence, ecdsaContent),
      (Der.tagSequence, nameC), (Der.tagSequence, Der.encodings [(tagB, cB), (tagA, cA)]),
      (Der.tagSequence, nameC), (Der.tagSequence, Der.encodings [(Der.tagSequence, p256Content),
        (Der.tagBitString, ByteArray.mk #[0] ++ point)]), ((0xa3 : UInt8), cExt)].map
      fun p => Der.itemOf p.1 p.2)).isSome := by
    have hname : (readName (Der.itemOf Der.tagSequence nameC)).isSome := by
      rw [← hnameC, readName_encode hb]
      rfl
    have hval : Der.items (Der.encodings [(tagB, cB), (tagA, cA)]) =
        some [Der.itemOf tagB cB, Der.itemOf tagA cA] := by
      have hfits : ∀ p ∈ [(tagB, cB), (tagA, cA)], Der.Fits p.1 p.2 := by
        simp only [List.mem_cons, List.mem_nil_iff, or_false]
        rintro p (rfl | rfl) <;> assumption
      rw [Der.items_encodings hfits]
      rfl
    have hkey : Der.items (Der.encodings [(Der.tagSequence, p256Content),
        (Der.tagBitString, ByteArray.mk #[0] ++ point)]) =
        some [Der.itemOf Der.tagSequence p256Content,
          Der.itemOf Der.tagBitString (ByteArray.mk #[0] ++ point)] := by
      have hfits : ∀ p ∈ [(Der.tagSequence, p256Content),
          (Der.tagBitString, ByteArray.mk #[0] ++ point)], Der.Fits p.1 p.2 := by
        simp only [List.mem_cons, List.mem_nil_iff, or_false]
        rintro p (rfl | rfl) <;> exact ⟨by dsimp only; decide, by dsimp only; omega⟩
      rw [Der.items_encodings hfits]
      rfl
    simp only [List.map_cons, List.map_nil]
    exact readTbsFields_isSome ⟨rfl, by dsimp only [Der.itemOf]; omega⟩ (by decide) hname hname
      ⟨rfl, _, _, hval, readB, readA⟩
      ⟨rfl, _, _, hkey, rfl, by decide, by rw [Der.itemOf, Der.bitString_zero_append]; rfl⟩ hExtRead
  have key := parse_isSome ecdsaContent (ByteArray.mk #[0] ++
    Der.encode Der.tagSequence (Der.encodings [(Der.tagInteger, cR), (Der.tagInteger, cS)]))
    hparts htbsFits ⟨by decide, by omega⟩ ⟨by decide, by omega⟩ ⟨by decide, by omega⟩ hfields
    (by decide) (by rw [Der.bitString_zero_append]; rfl)
  exact key

end X509

end RevSync
