import RevSync.Tls.Load
import RevSync.X509.Generate

/-!
# Generated identities

A generated identity is a fresh P-256 key with a self-signed certificate valid from an hour
before now (tolerating clock skew between peers) until the requested expiration, a year from
now by default. It needs a common name and an expiration in the future.

Keys are drawn from a seed: the secret scalar and the signature nonce are hashes of it reduced
into `[1, n)`, so that distinct seeds give distinct keys.
-/

namespace RevSync

/-- The default lifetime of a generated certificate, in seconds. -/
def defaultValidity : Int := 365 * 86400

/-- A scalar in `[1, n)` drawn from a seed text. -/
def scalarOf (seed : String) : Nat := natOfBytesBE (sha256 seed.toUTF8) % (P256.n - 1) + 1

namespace TlsIdentity

/-- Generates an identity at the moment `now` from the seed `seed`. -/
def generate (usage : X509.KeyUsage) (subject : X509.Subject) (expiration : Option Int) (now : Int)
    (seed : Nat) : Except TlsError TlsIdentity := do
  if subject.commonName.isEmpty then throw (.certificateGeneration "common name is required")
  let notAfter := expiration.getD (now + defaultValidity)
  if notAfter ≤ now then throw (.certificateGeneration "expiration must be in the future")
  let secret := scalarOf ("identity key " ++ toString seed)
  let nonce := scalarOf ("identity signature " ++ toString seed)
  match X509.generate subject usage (now - 3600) notAfter secret nonce with
  | some (cert, key) => pure { certificates := [cert], key, expiration := { seconds := notAfter } }
  | none => throw (.certificateGeneration "key generation failed")

end TlsIdentity

end RevSync
