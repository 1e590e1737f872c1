import RevSync.Tls.Bundle
import RevSync.Proofs.Tls.IdentityFiles
import RevSync.Proofs.Crypto.Gcm

/-! # Sealed identities open

Sealing an identity writes the magic and then a CBOR map of the version, the salt and the sealed
payload: the nonce followed by the AES-GCM encryption of a CBOR map of the chain and the key.
Each map reads back as its fields (`readBundle_record`, `readPayload_record`), the nonce and the
ciphertext are cut apart where they were joined, and decryption under the key the same password
and salt derive inverts encryption (`Gcm.decrypt_encrypt`). So a bundle opens under its password
as the identity its chain and key load as (`openWith_sealWith`), as long as it is shorter than
the `2^64` bytes a CBOR length counts; every bundle of an identity is at most a few hundred bytes
longer than twice its chain, key, salt and nonce (`size_sealWith_le`).
-/

namespace RevSync

/-- Sealing adds a 16-byte tag to the plaintext. -/
theorem Gcm.size_encrypt (key nonce plaintext : ByteArray) :
    (Gcm.encrypt key nonce plaintext).size = plaintext.size + 16 := by
  simp [Gcm.encrypt, ByteArray.size_append, Gcm.size_ctr, Gcm.size_tag]

namespace Bundle

open Cbor Cbor.Read

/-! ### Sizes -/

/-- Items written one after another take the sum of their sizes. -/
theorem size_foldl_append (l : List ByteArray) :
    (l.foldl (· ++ ·) ByteArray.empty).size = (l.map ByteArray.size).sum := by
  induction l with
  | nil => rfl
  | cons x l ih => rw [foldl_append_cons, ByteArray.size_append, ih, List.map_cons, List.sum_cons]

/-- A CBOR head takes at most nine bytes. -/
theorem size_encodeArgument_le (major n : Nat) : (Head.encodeArgument major n).size ≤ 9 := by
  unfold Head.encodeArgument
  dsimp only
  split_ifs <;> simp [size_mk_toArray, Head.length_bigEndianBytes]

/-- A byte is written in at most two bytes. -/
theorem size_unsigned_byte (x : UInt8) : (Cbor.unsigned x.toNat).size ≤ 2 := by
  have hx := x.toNat_lt
  simp only [Cbor.unsigned, Head.write, Head.encodeArgument]
  split_ifs <;> simp [size_mk_toArray, Head.length_bigEndianBytes]

theorem size_array_le (ws : List ByteArray) : (Cbor.array ws).size ≤ 9 + (ws.map ByteArray.size).sum := by
  rw [array_eq, ByteArray.size_append, size_foldl_append]
  have := size_encodeArgument_le 4 ws.length
  simp only [Head.write, Option.elim] at this ⊢
  omega

theorem size_le_array (ws : List ByteArray) : (ws.map ByteArray.size).sum ≤ (Cbor.array ws).size := by
  rw [array_eq, ByteArray.size_append, size_foldl_append]
  omega

theorem size_record_le (fields : List (String × ByteArray)) :
    (Cbor.record fields).size ≤
      9 + (fields.map fun e => 9 + e.1.utf8ByteSize + e.2.size).sum := by
  rw [record_eq, ByteArray.size_append, size_foldl_append, List.map_map]
  have hhead := size_encodeArgument_le 5 fields.length
  have hfields : ((fields.map (ByteArray.size ∘ fun e => Cbor.text e.1 ++ e.2))).sum ≤
      (fields.map fun e => 9 + e.1.utf8ByteSize + e.2.size).sum := by
    refine List.sum_le_sum fun e _ => ?_
    have := size_encodeArgument_le 3 e.1.utf8ByteSize
    simp only [Function.comp_apply, ByteArray.size_append, Cbor.text, Head.write, Option.elim,
      String.toUTF8_eq_toByteArray, String.size_toByteArray] at this ⊢
    omega
  simp only [Head.write, Option.elim] at hhead ⊢
  omega

/-- A field's value is part of the record. -/
theorem size_le_record {fields : List (String × ByteArray)} {e : String × ByteArray} (he : e ∈ fields) :
    e.2.size ≤ (Cbor.record fields).size := by
  rw [record_eq, ByteArray.size_append, size_foldl_append, List.map_map]
  have := List.le_sum_of_mem (List.mem_map_of_mem (f := ByteArray.size ∘ fun e => Cbor.text e.1 ++ e.2) he)
  simp only [Function.comp_apply, ByteArray.size_append] at this
  omega

theorem size_writeBytes_le (data : ByteArray) : (writeBytes data).size ≤ 9 + 2 * data.size := by
  have harr := size_array_le (data.toList.map fun x => Cbor.unsigned x.toNat)
  have hbytes : ((data.toList.map fun x => Cbor.unsigned x.toNat).map ByteArray.size).sum ≤
      2 * data.size := by
    rw [List.map_map]
    calc (data.toList.map (ByteArray.size ∘ fun x => Cbor.unsigned x.toNat)).sum
        ≤ (data.toList.map fun _ => 2).sum := List.sum_le_sum fun x _ => size_unsigned_byte x
      _ = 2 * data.size := by simp [Hex.toList_bytes, Nat.mul_comm]
  rw [writeBytes]
  omega

theorem size_le_writeBytes (data : ByteArray) : data.size ≤ (writeBytes data).size := by
  have harr := size_le_array (data.toList.map fun x => Cbor.unsigned x.toNat)
  have hbytes : data.size ≤ ((data.toList.map fun x => Cbor.unsigned x.toNat).map ByteArray.size).sum := by
    rw [List.map_map]
    calc data.size = (data.toList.map fun _ => 1).sum := by simp [Hex.toList_bytes]
      _ ≤ (data.toList.map ((ByteArray.size ∘ fun x => Cbor.unsigned x.toNat))).sum :=
        List.sum_le_sum fun x _ => size_encodeArgument_pos 0 x.toNat
  rw [writeBytes]
  omega

/-- The payload map of an identity: its chain and its key. -/
theorem size_payload_le (i : TlsIdentity) :
    (Cbor.record [("certs", Cbor.array (i.certificates.map writeBytes)), ("key", writeBytes i.key)]).size ≤
      60 + 11 * i.certificates.length + 2 * (i.certificates.map ByteArray.size).sum + 2 * i.key.size := by
  have hrecord := size_record_le [("certs", Cbor.array (i.certificates.map writeBytes)),
    ("key", writeBytes i.key)]
  have harray := size_array_le (i.certificates.map writeBytes)
  have hcerts : ((i.certificates.map writeBytes).map ByteArray.size).sum ≤
      11 * i.certificates.length + 2 * (i.certificates.map ByteArray.size).sum := by
    rw [List.map_map]
    calc ((i.certificates.map (ByteArray.size ∘ writeBytes))).sum
        ≤ (i.certificates.map fun c => 9 + 2 * c.size).sum :=
          List.sum_le_sum fun c _ => size_writeBytes_le c
      _ ≤ 11 * i.certificates.length + 2 * (i.certificates.map ByteArray.size).sum := by
          rw [List.sum_map_add, List.sum_map_mul_left]
          simp
          omega
  have hkey := size_writeBytes_le i.key
  have hcertsText : "certs".utf8ByteSize = 5 := by decide
  have hkeyText : "key".utf8ByteSize = 3 := by decide
  simp only [List.map_cons, List.map_nil, List.sum_cons, List.sum_nil, hcertsText, hkeyText] at hrecord
  omega

/-- A bundle is at most a few hundred bytes longer than twice its chain, key, salt and nonce. -/
theorem size_sealWith_le (i : TlsIdentity) (password : String) (salt nonce : ByteArray) :
    (sealWith i password salt nonce).size ≤ 300 + 2 * salt.size + 2 * nonce.size +
      22 * i.certificates.length + 4 * (i.certificates.map ByteArray.size).sum + 4 * i.key.size := by
  have hrecord := size_record_le [("version", Cbor.unsigned version), ("salt", writeBytes salt),
    ("sealed", writeBytes (nonce ++ Gcm.encrypt (deriveKey password salt) nonce
      (Cbor.record [("certs", Cbor.array (i.certificates.map writeBytes)), ("key", writeBytes i.key)])))]
  have hversion : (Cbor.unsigned version).size = 1 := by decide
  have hsalt := size_writeBytes_le salt
  have hsealed := size_writeBytes_le (nonce ++ Gcm.encrypt (deriveKey password salt) nonce
      (Cbor.record [("certs", Cbor.array (i.certificates.map writeBytes)), ("key", writeBytes i.key)]))
  have hpayload := size_payload_le i
  have htexts : "version".utf8ByteSize = 7 ∧ "salt".utf8ByteSize = 4 ∧ "sealed".utf8ByteSize = 6 := by
    decide
  have hmagic : magic.size = 4 := by decide
  simp only [List.map_cons, List.map_nil, List.sum_cons, List.sum_nil, htexts, hversion] at hrecord
  simp only [ByteArray.size_append, Gcm.size_encrypt] at hsealed
  simp only [sealWith, ByteArray.size_append, hmagic]
  omega

/-! ### Reading the maps back -/

theorem isBundle_magic_append (body : ByteArray) : isBundle (magic ++ body) = true := by
  have hmagic : magic.size = 4 := by decide
  simp [isBundle, ByteArray.size_append, hmagic, ByteArray.extract_append_eq_left hmagic.symm]

/-- A bundle's map reads back as its version, salt and sealed payload. -/
theorem readBundle_record {v : Nat} {salt sealed : ByteArray} (hv : v ≤ 255)
    (hs : (Cbor.record [("version", Cbor.unsigned v), ("salt", writeBytes salt),
      ("sealed", writeBytes sealed)]).size < Nat.pow 2 64) :
    readBundle (Cbor.record [("version", Cbor.unsigned v), ("salt", writeBytes salt),
      ("sealed", writeBytes sealed)]) 0 = some (v, salt, sealed) := by
  have hnames : [("version", Cbor.unsigned v), ("salt", writeBytes salt),
      ("sealed", writeBytes sealed)].map Prod.fst = ["version", "salt", "sealed"] := rfl
  simp only [readBundle]
  rw [show maxNesting = 255 + 1 from rfl,
    record_fields (fun i (f : Fields) =>
      if i = 0 then { f with version := some v }
      else if i = 1 then { f with salt := some salt }
      else { f with sealed := some sealed }) hnames (by simp) (by decide) hs ?_ _ (Embeds.refl _)]
  · rfl
  · -- each field read by the reader of its index
    intro i hi f p hp
    obtain rfl | rfl | rfl : i = 0 ∨ i = 1 ∨ i = 2 := by
      simp only [List.length_cons, List.length_nil] at hi
      omega
    · simp [natUpTo_unsigned hv (by decide) _ p hs hp]
    · simp [byteVector_writeBytes salt 254 _ p hs hp]
    · simp [byteVector_writeBytes sealed 254 _ p hs hp]

/-- A payload's map reads back as its chain and key. -/
theorem readPayload_record {certs : List ByteArray} {key : ByteArray}
    (hs : (Cbor.record [("certs", Cbor.array (certs.map writeBytes)), ("key", writeBytes key)]).size <
      Nat.pow 2 64) :
    readPayload (Cbor.record [("certs", Cbor.array (certs.map writeBytes)), ("key", writeBytes key)]) 0 =
      some (certs, key) := by
  have hnames : [("certs", Cbor.array (certs.map writeBytes)), ("key", writeBytes key)].map Prod.fst =
      ["certs", "key"] := rfl
  simp only [readPayload]
  rw [show maxNesting = 255 + 1 from rfl,
    record_fields (fun i (f : Payload) =>
      if i = 0 then { f with certs := some certs } else { f with key := some key })
      hnames (by simp) (by decide) hs ?_ _ (Embeds.refl _)]
  · rfl
  · intro i hi f p hp
    obtain rfl | rfl : i = 0 ∨ i = 1 := by
      simp only [List.length_cons, List.length_nil] at hi
      omega
    · have hr := array_items (fun x _ => byteVector_writeBytes x 253)
        (fun x _ => by
          rw [writeBytes, array_eq]
          simp [ByteArray.size_append, Head.write, size_encodeArgument_pos]) _ p hs hp
      simp only [Nat.reduceAdd] at hr
      simp [hr]
    · simp [byteVector_writeBytes key 254 _ p hs hp]

/-! ### Opening -/

/-- A bundle opens under its password as the identity its chain and key load as. -/
theorem openWith_sealWith (i : TlsIdentity) (password : String) (salt nonce : ByteArray)
    (hnonce : nonce.size = 12) (hsize : (sealWith i password salt nonce).size < Nat.pow 2 64) :
    openWith (sealWith i password salt nonce) password =
      TlsIdentity.ofParts i.certificates i.key := by
  generalize hpayload : Cbor.record [("certs", Cbor.array (i.certificates.map writeBytes)),
    ("key", writeBytes i.key)] = payload
  generalize hsealed : nonce ++ Gcm.encrypt (deriveKey password salt) nonce payload = sealed
  generalize hbody : Cbor.record [("version", Cbor.unsigned version), ("salt", writeBytes salt),
    ("sealed", writeBytes sealed)] = body
  have hmagic : magic.size = 4 := by decide
  have hbundle : sealWith i password salt nonce = magic ++ body := by
    rw [← hbody, ← hsealed, ← hpayload]
    rfl
  rw [hbundle] at hsize ⊢
  -- every part is shorter than the bundle
  have hbodySize : body.size < Nat.pow 2 64 := by
    rw [ByteArray.size_append] at hsize
    omega
  have hsealedSize : sealed.size ≤ body.size := by
    have hfield : ("sealed", writeBytes sealed) ∈ [("version", Cbor.unsigned version),
        ("salt", writeBytes salt), ("sealed", writeBytes sealed)] := by simp
    have := size_le_record hfield
    dsimp only at this
    have := size_le_writeBytes sealed
    rw [hbody] at *
    omega
  have hpayloadSize : payload.size < Nat.pow 2 64 := by
    have := congrArg ByteArray.size hsealed
    rw [ByteArray.size_append, Gcm.size_encrypt] at this
    omega
  have hcut : sealed.extract 0 12 = nonce ∧
      sealed.extract 12 sealed.size = Gcm.encrypt (deriveKey password salt) nonce payload := by
    rw [← hsealed]
    exact ⟨ByteArray.extract_append_eq_left hnonce.symm,
      ByteArray.extract_append_eq_right hnonce.symm (by rw [ByteArray.size_append, hnonce])⟩
  have hread : readBundle body 0 = some (version, salt, sealed) := by
    rw [← hbody] at hbodySize ⊢
    exact readBundle_record (by decide) hbodySize
  have hpayloadRead : readPayload payload 0 = some (i.certificates, i.key) := by
    rw [← hpayload] at hpayloadSize ⊢
    exact readPayload_record hpayloadSize
  have hlong : ¬ sealed.size < 12 := by
    have := congrArg ByteArray.size hsealed
    rw [ByteArray.size_append, Gcm.size_encrypt] at this
    omega
  have hextract : (magic ++ body).extract 4 (magic ++ body).size = body :=
    ByteArray.extract_append_eq_right hmagic.symm (by rw [ByteArray.size_append, hmagic])
  simp only [openWith, isBundle_magic_append, Bool.not_true, Bool.false_eq_true, if_false, hextract,
    hread, pure_bind, bne_self_eq_false, hlong, hcut.1, hcut.2, Gcm.decrypt_encrypt, hpayloadRead]

end Bundle

end RevSync
