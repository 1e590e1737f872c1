import RevSync.Tls.Generate
import RevSync.Proofs.Tls.PemSections
import RevSync.Proofs.Tls.Sealing
import RevSync.Proofs.Tls.Keyring
import RevSync.Proofs.X509.Generate

/-! # Exported identities load back

An identity is exported as PEM text or as a bundle sealed under a password, and both read back as
what loading the identity's chain and key gives (`TlsIdentity.ofPem_toPem`,
`Bundle.openWith_sealWith`). Loading asks for a leaf that parses and a key in a known format
(`Loadable`), and every identity the library makes has them (`Built.loadable`): one loaded from
parts or from PEM was checked already, and a generated one carries a certificate that parses and
a PKCS#8 key (`X509.keyFormat_generate`). The generated certificate parses only while its expiry
is written with a four-digit year, so the bound is the year 10000. Importing either export under a
free label of a memory store then stores that chain and key (`exported_identity_reads_back`).
-/

namespace RevSync

/-! ### Keys -/

/-- A SEQUENCE whose content starts with the INTEGER 0 and then a SEQUENCE is a PKCS#8 key. -/
theorem keyFormat_pkcs8 {c : ByteArray} (hc : c.size < Nat.pow 2 32) {x : UInt8} {t : List UInt8}
    (hct : c.toList = 0x02 :: 0x01 :: x :: 0x30 :: t) :
    keyFormat (Der.encode Der.tagSequence c) = some .pkcs8 := by
  -- the tag and the length take `skip` bytes, and the content follows them
  obtain ⟨head, k, hk, hencode, hhead0, hhead1, hsize⟩ : ∃ (head : ByteArray) (k : Nat), k ≤ 4 ∧
      Der.encode Der.tagSequence c = head ++ c ∧ head.get! 0 = 0x30 ∧
      (if head.get! 1 ≥ 0x80 then 2 + (head.get! 1 - 0x80).toNat else 2) = head.size ∧
      head.size = 2 + k := by
    by_cases hshort : c.size < 0x80
    · have hlen : c.size.toUInt8 < 0x80 := by simp [UInt8.lt_iff_toNat_lt]; omega
      refine ⟨ByteArray.mk #[Der.tagSequence, c.size.toUInt8], 0, by omega, Der.encode_short hshort,
        rfl, ?_, rfl⟩
      show (if c.size.toUInt8 ≥ 0x80 then _ else 2) = 2
      rw [if_neg (by simpa using hlen)]
    · have hlog : Nat.log2 c.size < 32 := (Nat.log2_lt (by omega)).2 hc
      have henc : Der.encode Der.tagSequence c = _ := Der.encode_long (by omega)
      have hk : Nat.log2 c.size / 8 + 1 ≤ 4 := by omega
      generalize Nat.log2 c.size / 8 + 1 = k at henc hk
      have hbyte : ((0x80 + k).toUInt8).toNat = 0x80 + k :=
        UInt8.toNat_ofNat_of_lt' (show 0x80 + k < 256 by omega)
      have hge : (0x80 : UInt8) ≤ (0x80 + k).toUInt8 := by
        rw [UInt8.le_iff_toNat_le, hbyte]
        show 128 ≤ 0x80 + k
        omega
      have hpair : 1 < (ByteArray.mk #[Der.tagSequence, (0x80 + k).toUInt8]).size := Nat.one_lt_two
      refine ⟨ByteArray.mk #[Der.tagSequence, (0x80 + k).toUInt8] ++ bytesOfNatBE c.size k, k, hk, henc,
        by rw [ByteArray.get!_append_left (by omega)]; rfl, ?_, ?_⟩
      · have h1 : (ByteArray.mk #[Der.tagSequence, (0x80 + k).toUInt8]).get! 1 = (0x80 + k).toUInt8 := rfl
        rw [ByteArray.get!_append_left (by omega), h1, if_pos hge, UInt8.toNat_sub_of_le _ _ hge, hbyte, ByteArray.size_append, size_bytesOfNatBE]
        show 2 + (0x80 + k - 128) = 2 + k
        omega
      · rw [ByteArray.size_append, size_bytesOfNatBE]
        rfl
  have hext : (head ++ c).extract head.size (head.size + c.size) = c :=
    ByteArray.extract_append_eq_right rfl rfl
  have hhead : 1 < head.size := by omega
  have hlong : ¬ head.size + c.size < 2 := by omega
  have hskip : ¬ head.size > head.size + c.size := by omega
  simp only [keyFormat, hencode, ByteArray.get!_append_left (show 0 < head.size by omega),
    ByteArray.get!_append_left hhead, hhead0, hhead1, ByteArray.size_append, hlong, hskip,
    decide_false, bne_self_eq_false, Bool.or_false, Bool.false_eq_true, if_false, hext, hct]

/-- The key `generate` writes is a PKCS#8 key. -/
theorem X509.keyFormat_generate {subject : X509.Subject} {usage : X509.KeyUsage}
    {notBefore notAfter : Int} {secret nonce : Nat} {cert key : ByteArray}
    (h : X509.generate subject usage notBefore notAfter secret nonce = some (cert, key)) :
    keyFormat key = some .pkcs8 := by
  obtain ⟨point, -, -, -, hpoint, -, -, -, -, rfl⟩ := X509.generate_eq_some h
  have h32 : Nat.pow 2 32 = 4294967296 := rfl
  -- each part of the key is far below the four length bytes a reader takes
  have hbits : (Der.bits point).size ≤ 72 := by
    have := Der.size_encode_le Der.tagBitString (c := ByteArray.mk #[0] ++ point)
      (by simp [ByteArray.size_append, hpoint])
    simp only [ByteArray.size_append, hpoint] at this
    exact this
  have hwrapped := Der.size_encode_le 0xa1 (c := Der.bits point) (by omega)
  have hsecret := Der.size_encode_le Der.tagOctetString (c := bytesOfNatBE secret 32)
    (by rw [size_bytesOfNatBE]; decide)
  have hone : (Der.integer 1).size = 3 := by decide +kernel
  have hinner : ([Der.integer 1, Der.encode Der.tagOctetString (bytesOfNatBE secret 32),
      Der.encode 0xa1 (Der.bits point)].foldl (· ++ ·) ByteArray.empty).size ≤ 119 := by
    rw [Bundle.size_foldl_append]
    simp only [List.map_cons, List.map_nil, List.sum_cons, List.sum_nil, hone, size_bytesOfNatBE]
      at hsecret ⊢
    omega
  have hsequence := Der.size_encode_le Der.tagSequence
    (c := [Der.integer 1, Der.encode Der.tagOctetString (bytesOfNatBE secret 32),
      Der.encode 0xa1 (Der.bits point)].foldl (· ++ ·) ByteArray.empty) (by omega)
  have hoctet := Der.size_encode_le Der.tagOctetString (c := Der.sequence [Der.integer 1,
    Der.encode Der.tagOctetString (bytesOfNatBE secret 32), Der.encode 0xa1 (Der.bits point)])
    (by rw [Der.sequence]; omega)
  have hzero : (Der.integer 0).toList = [0x02, 0x01, 0x00] := by decide +kernel
  have halg : p256Algorithm.toList = 0x30 :: p256Algorithm.toList.tail := by decide +kernel
  have hp256 : p256Algorithm.size = 21 := by decide
  have hzeroSize : (Der.integer 0).size = 3 := by decide +kernel
  apply keyFormat_pkcs8 (x := 0x00) (t := p256Algorithm.toList.tail ++ (Der.encode Der.tagOctetString
    (Der.sequence [Der.integer 1, Der.encode Der.tagOctetString (bytesOfNatBE secret 32),
      Der.encode 0xa1 (Der.bits point)])).toList)
  · rw [Bundle.size_foldl_append]
    simp only [List.map_cons, List.map_nil, List.sum_cons, List.sum_nil, hp256, hzeroSize]
    rw [Der.sequence] at hoctet ⊢
    omega
  · simp only [List.foldl_cons, List.foldl_nil, ByteArray.empty_append, Hex.toList_bytes,
      ByteArray.data_append, Array.toList_append]
    rw [← Hex.toList_bytes, ← Hex.toList_bytes, ← Hex.toList_bytes, hzero, halg]
    rfl

namespace TlsIdentity

/-- What loading asks of an identity: a leaf that parses and a key in a known format. -/
structure Loadable (i : TlsIdentity) : Prop where
  leaf_parses : ∃ leaf rest c, i.certificates = leaf :: rest ∧ X509.parse leaf = some c
  key_known : (keyFormat i.key).isSome

/-- Loading a chain and a key keeps them, and they are loadable. -/
theorem ofParts_eq_ok {certs : List ByteArray} {key : ByteArray} {i : TlsIdentity}
    (h : ofParts certs key = .ok i) : i.certificates = certs ∧ i.key = key ∧ i.Loadable := by
  unfold ofParts at h
  cases certs with
  | nil => cases h
  | cons leaf rest =>
    cases hp : X509.parse leaf with
    | none =>
      simp only [pure_bind, hp] at h
      cases h
    | some c =>
      cases hk : keyFormat key with
      | none =>
        simp only [pure_bind, hp, hk] at h
        cases h
      | some f =>
        simp only [pure_bind, hp, hk, Option.isNone_some, Bool.false_eq_true, if_false] at h
        cases h
        exact ⟨rfl, rfl, ⟨leaf, rest, c, rfl, hp⟩, by simp [hk]⟩

theorem generate_loadable {usage : X509.KeyUsage} {subject : X509.Subject} {expiration : Option Int}
    {now : Int} {seed : Nat} {i : TlsIdentity} (h : generate usage subject expiration now seed = .ok i)
    (hb : subject.Bounded) (hexp : i.expiration.seconds < 253402300800) : i.Loadable := by
  unfold generate at h
  simp only at h
  split at h
  · cases h
  split at h
  · cases h
  · next hlater =>
    split at h
    · next cert key hgen =>
      cases h
      dsimp only at hexp
      obtain ⟨c, hc⟩ := Option.isSome_iff_exists.1 (X509.parse_generate hgen hb (by omega) hexp)
      exact ⟨⟨cert, [], c, rfl, hc⟩, by simp [X509.keyFormat_generate hgen]⟩
    · cases h

/-- A loadable chain and key load, and are kept as they are. -/
theorem ofParts_of_loadable {i : TlsIdentity} (h : i.Loadable) :
    ∃ j, ofParts i.certificates i.key = .ok j ∧ j.certificates = i.certificates ∧ j.key = i.key := by
  obtain ⟨⟨leaf, rest, c, hcerts, hp⟩, hk⟩ := h
  obtain ⟨f, hf⟩ := Option.isSome_iff_exists.1 hk
  refine ⟨{ certificates := i.certificates, key := i.key, expiration := { seconds := c.notAfter } },
    ?_, rfl, rfl⟩
  unfold ofParts
  rw [hcerts]
  simp only [pure_bind, hp, hf, Option.isNone_some, Bool.false_eq_true, if_false]
  rfl

/-- An identity read from PEM is one loaded from a chain and a key. -/
theorem ofPem_eq_ok {text : String} {i : TlsIdentity} (h : ofPem text = .ok i) :
    ∃ certs key, ofParts certs key = .ok i := by
  unfold ofPem at h
  cases hc : Pem.certificates text with
  | error e =>
    simp only [hc] at h
    cases h
  | ok certs =>
    cases hk : Pem.privateKey text with
    | error e =>
      simp only [hc, hk, pure_bind] at h
      cases h
    | ok key? =>
      cases key? with
      | none =>
        simp only [hc, hk, pure_bind] at h
        cases h
      | some key =>
        simp only [hc, hk, pure_bind] at h
        exact ⟨certs, key, h⟩

/-- The identities the library makes: loaded from a chain and a key, read from PEM, or generated
for a subject whose texts are under 16 MiB, expiring before the year 10000. -/
inductive Built : TlsIdentity → Prop where
  | loaded {certs : List ByteArray} {key : ByteArray} {i : TlsIdentity} :
      ofParts certs key = .ok i → Built i
  | read {text : String} {i : TlsIdentity} : ofPem text = .ok i → Built i
  | generated {usage : X509.KeyUsage} {subject : X509.Subject} {expiration : Option Int} {now : Int}
      {seed : Nat} {i : TlsIdentity} : generate usage subject expiration now seed = .ok i →
      subject.Bounded → i.expiration.seconds < 253402300800 → Built i

/-- Every identity the library makes is loadable. -/
theorem Built.loadable {i : TlsIdentity} (h : Built i) : i.Loadable := by
  cases h with
  | loaded h => exact (ofParts_eq_ok h).2.2
  | read h =>
    obtain ⟨certs, key, h'⟩ := ofPem_eq_ok h
    exact (ofParts_eq_ok h').2.2
  | generated h hb hexp => exact generate_loadable h hb hexp

/-! ### The two exports -/

/-- An identity's PEM text loads as its chain and key do. -/
theorem ofPem_toPem (i : TlsIdentity) : ofPem i.toPem = ofParts i.certificates i.key := by
  simp only [ofPem, Pem.certificates_toPem, Pem.privateKey_toPem, pure_bind]

/-- An identity's PEM text starts with an opening line. -/
theorem toPem_begins (i : TlsIdentity) : "-----BEGIN ".toList <+: i.toPem.toList := by
  have hblock : ∀ ty der rest, "-----BEGIN ".toList <+:
      (Pem.blockLines ty der ++ rest).flatMap String.toList := by
    intro ty der rest
    simp only [Pem.blockLines, List.cons_append, List.flatMap_cons, String.toList_append,
      List.append_assoc]
    exact List.prefix_append _ _
  rw [Pem.toPem_eq, String.toList_join]
  cases i.certificates with
  | nil => simpa using hblock "PRIVATE KEY" i.key []
  | cons c cs =>
    rw [List.flatMap_cons, List.append_assoc]
    exact hblock "CERTIFICATE" c _

/-- An identity's PEM text is no bundle. -/
theorem isBundle_toPem (i : TlsIdentity) : Bundle.isBundle i.toPem.toUTF8 = false := by
  obtain ⟨t, ht⟩ := toPem_begins i
  have hpem : i.toPem = "-----BEGIN " ++ String.ofList t := String.ext (by simp [← ht])
  have hbegin : "-----BEGIN ".toUTF8.size = 11 := by decide
  have hfour : (("-----BEGIN ".toUTF8.extract 0 4).data == Bundle.magic.data) = false := by decide
  have hextract : i.toPem.toUTF8.extract 0 4 = "-----BEGIN ".toUTF8.extract 0 4 := by
    rw [hpem, String.toUTF8_eq_toByteArray, String.toByteArray_append, ByteArray.extract_append,
      ← String.toUTF8_eq_toByteArray, hbegin, ByteArray.extract_same, ByteArray.append_empty]
  unfold Bundle.isBundle
  rw [hextract, hfour, Bool.and_false]

end TlsIdentity

namespace Keyring

open KeyringM

/-- Inserting under a valid label that a memory store does not hold stores the identity's chain
and key there. -/
theorem insertNew_memory {k : Keyring} {es : TextMap StoredIdentity} (h : k.store = .memory es)
    {label : String} (hempty : label.isEmpty = false) (hanon : label.startsWith anonymousPrefix = false)
    (hfree : es.get? label = none) (i : TlsIdentity) :
    (insertNew label i).run.run k =
      (.ok { i with label := some label },
        { k with store := .memory (es.insert label ⟨label, i.certificates, i.key⟩) }) := by
  unfold insertNew
  simp only [hempty, hanon, Bool.or_false, Bool.false_eq_true, if_false, run_bind,
    lock_memory h, load_memory h, hfree, openStored, Option.isSome_none, save_memory h]
  rfl

/-- An identity's PEM text imports as its chain and key load. -/
theorem importIdentity_toPem {i j : TlsIdentity} (h : TlsIdentity.ofParts i.certificates i.key = .ok j)
    (password : Option String) (label : String) :
    importIdentity i.toPem.toUTF8 password label = insertNew label j := by
  unfold importIdentity
  rw [TlsIdentity.isBundle_toPem]
  simp only [Bool.false_eq_true, if_false, String.toUTF8_eq_toByteArray, Cbor.fromUTF8?_toByteArray, Option.getD_some,
    TlsIdentity.ofPem_toPem, h, pure_bind]

/-- A bundle imports with its password as its identity's chain and key load. -/
theorem importIdentity_sealWith {i j : TlsIdentity} (h : TlsIdentity.ofParts i.certificates i.key = .ok j)
    {password : String} {salt nonce : ByteArray} (hnonce : nonce.size = 12)
    (hsize : (Bundle.sealWith i password salt nonce).size < Nat.pow 2 64) (label : String) :
    importIdentity (Bundle.sealWith i password salt nonce) (some password) label = insertNew label j := by
  have hbundle : Bundle.isBundle (Bundle.sealWith i password salt nonce) = true :=
    Bundle.isBundle_magic_append _
  simp only [importIdentity, hbundle, if_true, Bundle.openWith_sealWith i password salt nonce hnonce hsize,
    h, pure_bind]

/-- Importing `data` with `password` under a valid label that a memory store does not hold stores
`j`'s chain and key there, and answers `j` under that label. -/
def ImportStores (data : ByteArray) (password : Option String) (j : TlsIdentity) : Prop :=
  ∀ (k : Keyring) (es : TextMap StoredIdentity) (label : String), k.store = .memory es →
    label.isEmpty = false → label.startsWith anonymousPrefix = false → es.get? label = none →
    (importIdentity data password label).run.run k =
      (.ok { j with label := some label },
        { k with store := .memory (es.insert label ⟨label, j.certificates, j.key⟩) })

end Keyring

/-- An identity's two exports load back as its chain and key do: its PEM text, and its bundle
opened with the password it was sealed under, for a 12-byte nonce and a bundle shorter than a CBOR
length counts. For an identity the library made, loading succeeds and keeps the chain and the
key, and importing either export under a free label of a memory store stores them there. -/
theorem exported_identity_reads_back (i : TlsIdentity) (password : String) (salt nonce : ByteArray)
    (hnonce : nonce.size = 12) (hsize : (Bundle.sealWith i password salt nonce).size < Nat.pow 2 64) :
    TlsIdentity.ofPem i.toPem = TlsIdentity.ofParts i.certificates i.key ∧
      Bundle.openWith (Bundle.sealWith i password salt nonce) password =
        TlsIdentity.ofParts i.certificates i.key ∧
      (i.Built → ∃ j, TlsIdentity.ofParts i.certificates i.key = .ok j ∧
        j.certificates = i.certificates ∧ j.key = i.key ∧
        (∀ given, Keyring.ImportStores i.toPem.toUTF8 given j) ∧
        Keyring.ImportStores (Bundle.sealWith i password salt nonce) (some password) j) := by
  refine ⟨TlsIdentity.ofPem_toPem i, Bundle.openWith_sealWith i password salt nonce hnonce hsize,
    fun hbuilt => ?_⟩
  obtain ⟨j, hj, hcerts, hkey⟩ := TlsIdentity.ofParts_of_loadable hbuilt.loadable
  refine ⟨j, hj, hcerts, hkey, fun given k es label hstore hempty hanon hfree => ?_,
    fun k es label hstore hempty hanon hfree => ?_⟩
  · rw [Keyring.importIdentity_toPem hj]
    exact Keyring.insertNew_memory hstore hempty hanon hfree j
  · rw [Keyring.importIdentity_sealWith hj hnonce hsize]
    exact Keyring.insertNew_memory hstore hempty hanon hfree j

/-- An identity of one two-byte certificate and a two-byte key. -/
def sampleIdentity : TlsIdentity :=
  { certificates := [⟨#[0x30, 0x00]⟩], key := ⟨#[0x30, 0x00]⟩, expiration := { seconds := 0 } }

/-- Its PEM text, and its bundle under a 16-byte salt and a 12-byte nonce, load as its chain and
key do. -/
theorem sample_identity_exports_read_back :
    (ByteArray.mk #[0, 1, 2, 3, 4, 5, 6, 7, 8, 9, 10, 11]).size = 12 ∧
      TlsIdentity.ofPem sampleIdentity.toPem =
        TlsIdentity.ofParts sampleIdentity.certificates sampleIdentity.key ∧
      Bundle.openWith (Bundle.sealWith sampleIdentity "secret" (ByteArray.mk (Array.replicate 16 7))
        (ByteArray.mk #[0, 1, 2, 3, 4, 5, 6, 7, 8, 9, 10, 11])) "secret" =
        TlsIdentity.ofParts sampleIdentity.certificates sampleIdentity.key :=
  have hsize : (Bundle.sealWith sampleIdentity "secret" (ByteArray.mk (Array.replicate 16 7))
      (ByteArray.mk #[0, 1, 2, 3, 4, 5, 6, 7, 8, 9, 10, 11])).size < Nat.pow 2 64 :=
    Nat.lt_of_le_of_lt (Bundle.size_sealWith_le _ _ _ _) (by decide)
  have h := exported_identity_reads_back sampleIdentity "secret" (ByteArray.mk (Array.replicate 16 7))
    (ByteArray.mk #[0, 1, 2, 3, 4, 5, 6, 7, 8, 9, 10, 11]) rfl hsize
  ⟨rfl, h.1, h.2.1⟩

end RevSync
