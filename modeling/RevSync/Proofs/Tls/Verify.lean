import RevSync.Tls.Verify
import RevSync.Replication.Error
import Mathlib

/-! # Certificate decisions

What each trust policy accepts, said without the verifier (`ServerTrust.Accepts`): a pin must be
the leaf byte for byte; self-signed-only mode wants a leaf that parses, is within its validity
period and is self-signed; roots mode wants a leaf that parses, is within its validity period and
is vouched for by one of the roots (`ServerTrust.Vouches`). A refusal reports an unknown root
exactly when the pin is not the leaf, or a valid leaf of roots mode has no root that vouches for
it (`ServerTrust.UnknownRoot`), and an untrusted certificate otherwise.

Both modes that read the leaf start alike: a leaf that is not valid is refused for its encoding
or its dates (`presented_of_invalid`), and a valid one goes on to the mode's own test
(`presented_of_valid`). `verifyAgainstRoots_spec` and `verifyServer_spec` decide each policy,
`ofIo_certificate` follows a refusal through the I/O error that carries it to the replication
error it becomes, and `server_certificate_decisions` puts the verifier together.
-/

namespace RevSync

namespace ServerTrust

/-- A leaf that parses as `c`, whose validity period holds the moment. -/
def ValidAt (leaf : ByteArray) (now : Int) (c : X509.Certificate) : Prop :=
  X509.parse leaf = some c ∧ c.notBefore ≤ now ∧ now ≤ c.notAfter

/-- A root vouches for the leaf parsed as `c`: it is the leaf byte for byte, or it parses with the
leaf's issuer as its subject and a key the leaf's signature checks with. -/
def Vouches (leaf : ByteArray) (c : X509.Certificate) (root : ByteArray) : Prop :=
  root.data = leaf.data ∨
    ∃ r, X509.parse root = some r ∧ r.subject.data = c.issuer.data ∧
      c.signedBy r.keyAlgorithm r.publicKey = true

/-- The leaves a policy accepts at a moment. -/
def Accepts : ServerTrust → ByteArray → Int → Prop
  | .pinned pin, leaf, _ => pin.data = leaf.data
  | .selfSignedOnly, leaf, now => (∃ c, ValidAt leaf now c) ∧ X509.isSelfSigned leaf = true
  | .roots trusted, leaf, now => ∃ c, ValidAt leaf now c ∧ ∃ root ∈ trusted, Vouches leaf c root

/-- The refusals that say the leaf chains to no trusted root: a pin that is not the leaf, or a
valid leaf that no root vouches for. -/
def UnknownRoot : ServerTrust → ByteArray → Int → Prop
  | .pinned pin, leaf, _ => pin.data ≠ leaf.data
  | .selfSignedOnly, _, _ => False
  | .roots trusted, leaf, now => ∃ c, ValidAt leaf now c ∧ ∀ root ∈ trusted, ¬Vouches leaf c root

end ServerTrust

open ServerTrust

theorem validAt_unique {leaf : ByteArray} {now : Int} {c d : X509.Certificate}
    (hc : ValidAt leaf now c) (hd : ValidAt leaf now d) : c = d :=
  Option.some.inj (hc.1.symm.trans hd.1)

section Presented

variable {leaf : ByteArray} {now : Int}

/-- A valid leaf passes the parse and the dates, and the verdict is the mode's own test. -/
theorem presented_of_valid {c : X509.Certificate} (h : ValidAt leaf now c)
    (k : X509.Certificate → Except CertificateFault Unit) :
    (do let cert ← parsePresented leaf; checkValidity cert now; k cert) = k c := by
  obtain ⟨hp, hlo, hhi⟩ := h
  simp only [parsePresented, hp]
  show (do checkValidity c now; k c) = k c
  simp only [checkValidity, if_neg (not_lt.2 hlo), gt_iff_lt, if_neg (not_lt.2 hhi)]
  rfl

/-- A leaf that is not valid is refused for its encoding or its dates, never as of an unknown
issuer. -/
theorem presented_of_invalid (h : ∀ c, ¬ValidAt leaf now c)
    (k : X509.Certificate → Except CertificateFault Unit) :
    ∃ f, f ≠ .unknownIssuer ∧
      (do let cert ← parsePresented leaf; checkValidity cert now; k cert) = .error f := by
  cases hp : X509.parse leaf with
  | none => exact ⟨.badEncoding, by decide, by simp only [parsePresented, hp]; rfl⟩
  | some c =>
    have hout : ¬(c.notBefore ≤ now ∧ now ≤ c.notAfter) := fun hin => h c ⟨hp, hin⟩
    simp only [parsePresented, hp]
    show ∃ f, f ≠ .unknownIssuer ∧ (do checkValidity c now; k c) = .error f
    by_cases hlo : now < c.notBefore
    · exact ⟨.notValidYet, by decide, by rw [checkValidity, if_pos hlo]; rfl⟩
    · have hhi : now > c.notAfter := by omega
      exact ⟨.expired, by decide, by rw [checkValidity, if_neg hlo, if_pos hhi]; rfl⟩

/-- A verdict of a leaf that is valid and shown to be valid: accepted or refused as the mode's
own test says, and a leaf that is not valid is never refused as of an unknown issuer. -/
theorem presented_spec {A U : X509.Certificate → Prop}
    (k : X509.Certificate → Except CertificateFault Unit)
    (hok : ∀ c, ValidAt leaf now c → (k c = .ok () ↔ A c))
    (herr : ∀ c, ValidAt leaf now c → ∀ f, k c = .error f → (f = .unknownIssuer ↔ U c)) :
    ((do let cert ← parsePresented leaf; checkValidity cert now; k cert) = .ok () ↔
        ∃ c, ValidAt leaf now c ∧ A c) ∧
      ∀ f, (do let cert ← parsePresented leaf; checkValidity cert now; k cert) = .error f →
        (f = .unknownIssuer ↔ ∃ c, ValidAt leaf now c ∧ U c) := by
  by_cases hv : ∃ c, ValidAt leaf now c
  · obtain ⟨c, hc⟩ := hv
    -- the leaf has one parse, so the witnesses on the right are all `c`
    have hunique : ∀ d, ValidAt leaf now d ↔ d = c :=
      fun d => ⟨fun hd => validAt_unique hd hc, fun h => h ▸ hc⟩
    simp only [presented_of_valid hc, hunique, exists_eq_left]
    exact ⟨hok c hc, herr c hc⟩
  · simp only [not_exists] at hv
    obtain ⟨f, hf, hrefused⟩ := presented_of_invalid hv k
    rw [hrefused]
    refine ⟨⟨fun h => (by cases h), fun ⟨c, hc, _⟩ => absurd hc (hv c)⟩, fun f' hf' => ?_⟩
    cases hf'
    exact ⟨fun h => absurd h hf, fun ⟨c, hc, _⟩ => absurd hc (hv c)⟩

end Presented

section Verdict

variable {b : Bool} {e f : CertificateFault}

/-- A test that throws on `false` passes exactly on `true`. -/
theorem test_eq_ok : (if b then pure () else throw e : Except CertificateFault Unit) = .ok () ↔
    b = true := by
  cases b <;> simp [pure, Except.pure, throw, throwThe, MonadExceptOf.throw]

/-- A test that throws on `false` fails only with its own fault, and only on `false`. -/
theorem test_eq_error (h : (if b then pure () else throw e : Except CertificateFault Unit) = .error f) :
    b = false ∧ f = e := by
  cases b <;> simp_all [pure, Except.pure, throw, throwThe, MonadExceptOf.throw]

end Verdict

/-- The test a root passes in `verifyAgainstRoots` is `Vouches`. -/
theorem vouches_iff (leaf : ByteArray) (c : X509.Certificate) (root : ByteArray) :
    (root.data == leaf.data ||
      match X509.parse root with
      | some r => r.subject.data == c.issuer.data && c.signedBy r.keyAlgorithm r.publicKey
      | none => false) = true ↔ Vouches leaf c root := by
  unfold Vouches
  cases hr : X509.parse root with
  | none => simp
  | some r => simp

/-- Roots mode: accepted when the leaf is valid and a root vouches for it; refused with an
unknown issuer exactly when the leaf is valid and no root does. -/
theorem verifyAgainstRoots_spec (leaf : ByteArray) (roots : List ByteArray) (now : Int) :
    (verifyAgainstRoots leaf roots now = .ok () ↔ (ServerTrust.roots roots).Accepts leaf now) ∧
      ∀ f, verifyAgainstRoots leaf roots now = .error f →
        (f = .unknownIssuer ↔ (ServerTrust.roots roots).UnknownRoot leaf now) := by
  refine presented_spec _ (fun c _ => ?_) (fun c _ f hf => ?_)
  · rw [test_eq_ok, List.any_eq_true]
    exact exists_congr fun root => and_congr_right fun _ => vouches_iff leaf c root
  · obtain ⟨hnone, rfl⟩ := test_eq_error hf
    -- no root passes the test, so none vouches for the leaf
    rw [List.any_eq_false] at hnone
    exact iff_of_true rfl fun root hr hv => hnone root hr ((vouches_iff leaf c root).2 hv)

/-- A leaf that parses as `c` is self-signed when `c` is. -/
theorem isSelfSigned_of_validAt {leaf : ByteArray} {now : Int} {c : X509.Certificate}
    (hc : ValidAt leaf now c) : X509.isSelfSigned leaf = c.selfSigned := by
  simp only [X509.isSelfSigned, hc.1]

/-- Self-signed-only mode: accepted when the leaf is valid and self-signed, and never refused as
of an unknown issuer. -/
theorem verifySelfSigned_spec (leaf : ByteArray) (now : Int) :
    (verifyServer .selfSignedOnly leaf now = .ok () ↔ ServerTrust.selfSignedOnly.Accepts leaf now) ∧
      ∀ f, verifyServer .selfSignedOnly leaf now = .error f →
        (f = .unknownIssuer ↔ ServerTrust.selfSignedOnly.UnknownRoot leaf now) := by
  have h : (verifyServer .selfSignedOnly leaf now = .ok () ↔
        ∃ c, ValidAt leaf now c ∧ c.selfSigned = true) ∧
      ∀ f, verifyServer .selfSignedOnly leaf now = .error f →
        (f = .unknownIssuer ↔ ∃ c, ValidAt leaf now c ∧ False) :=
    presented_spec _ (fun c _ => test_eq_ok)
      (fun c _ f hf => iff_of_false (by rw [(test_eq_error hf).2]; decide) id)
  refine ⟨h.1.trans ⟨fun ⟨c, hc, hs⟩ => ⟨⟨c, hc⟩, ?_⟩, fun ⟨⟨c, hc⟩, hs⟩ => ⟨c, hc, ?_⟩⟩, ?_⟩
  · rw [isSelfSigned_of_validAt hc, hs]
  · rwa [← isSelfSigned_of_validAt hc]
  · intro f hf
    rw [h.2 f hf]
    simp [UnknownRoot]

/-- Every policy accepts what `Accepts` says, and reports an unknown issuer exactly for the
refusals `UnknownRoot` names. -/
theorem verifyServer_spec (trust : ServerTrust) (leaf : ByteArray) (now : Int) :
    (verifyServer trust leaf now = .ok () ↔ trust.Accepts leaf now) ∧
      ∀ f, verifyServer trust leaf now = .error f → (f = .unknownIssuer ↔ trust.UnknownRoot leaf now) := by
  cases trust with
  | pinned pin =>
    -- a pin is compared with the leaf and nothing else is read
    by_cases h : pin.data = leaf.data
    · simp [verifyServer, Accepts, h]
    · simp [verifyServer, Accepts, UnknownRoot, h]
  | selfSignedOnly => exact verifySelfSigned_spec leaf now
  | roots trusted => exact verifyAgainstRoots_spec leaf trusted now

/-- A certificate fault, carried by an I/O error of any kind, is an unknown root for an unknown
issuer and an untrusted certificate otherwise. -/
theorem ofIo_certificate (kind : IoKind) (f : CertificateFault) :
    ReplicationError.ofIo ⟨kind, .tls (.certificate f)⟩ =
      if f = .unknownIssuer then .tlsCertUnknownRoot else .tlsCertUntrusted := by
  cases f <;> rfl

/-- A handshake keeps the leaf as the peer's certificate and returns the policy's verdict. -/
theorem verifyServerCert_run (trust : ServerTrust) (leaf : ByteArray) (now : Int)
    (slot : Option ByteArray) :
    (verifyServerCert trust leaf now).run slot = (verifyServer trust leaf now, some leaf) :=
  rfl

/-- A client check by roots accepts a leaf exactly when roots mode accepts it. -/
theorem verifyClient_roots (roots : List ByteArray) (leaf : ByteArray)
    (intermediates : List ByteArray) (now : Int) :
    verifyClient (.roots roots) leaf intermediates now = .ok () ↔
      (ServerTrust.roots roots).Accepts leaf now := by
  rw [← (verifyAgainstRoots_spec leaf roots now).1]
  cases h : verifyAgainstRoots leaf roots now <;> simp [verifyClient, h, Except.isOk, Except.toBool]

/-- How a server certificate is decided: the handshake keeps the leaf whatever the verdict, the
leaf is accepted exactly as its policy says, a refusal becomes an unknown root exactly for a
pin that is not the leaf or a valid leaf no root vouches for and an untrusted certificate in
every other case, and a client check by roots accepts what roots mode accepts. -/
theorem server_certificate_decisions (trust : ServerTrust) (leaf : ByteArray) (now : Int)
    (slot : Option ByteArray) :
    ((verifyServerCert trust leaf now).run slot).2 = some leaf ∧
      (((verifyServerCert trust leaf now).run slot).1 = .ok () ↔ trust.Accepts leaf now) ∧
      (∀ f, ((verifyServerCert trust leaf now).run slot).1 = .error f → ∀ kind,
        (ReplicationError.ofIo ⟨kind, .tls (.certificate f)⟩ = .tlsCertUnknownRoot ↔
            trust.UnknownRoot leaf now) ∧
          (ReplicationError.ofIo ⟨kind, .tls (.certificate f)⟩ = .tlsCertUntrusted ↔
            ¬trust.UnknownRoot leaf now)) ∧
      ∀ roots intermediates, verifyClient (.roots roots) leaf intermediates now = .ok () ↔
        (ServerTrust.roots roots).Accepts leaf now := by
  rw [verifyServerCert_run]
  refine ⟨rfl, (verifyServer_spec trust leaf now).1, fun f hf kind => ?_,
    fun roots intermediates => verifyClient_roots roots leaf intermediates now⟩
  rw [ofIo_certificate, ← (verifyServer_spec trust leaf now).2 f hf]
  by_cases hu : f = .unknownIssuer <;> simp [hu]

end RevSync
