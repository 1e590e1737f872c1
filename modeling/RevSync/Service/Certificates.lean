import RevSync.Service.Stateless
import RevSync.Service.Clock
import RevSync.Tls.Load
import RevSync.Tls.Verify
import RevSync.Tls.Bundle

/-!
# Certificate requests

Requests about certificates and identities that need no state: whether a certificate is
self-signed, server and client verification at a given moment, identities from PEM or parts,
and the debugging text and properties of authenticators and verifiers.
-/

namespace RevSync

namespace Service

/-- Bytes given as hex text. -/
def asHexBytes (v : Json) : Read ByteArray := do need (Hex.decode (← asText v))

/-- A list of byte strings given as hex texts. -/
def asHexList (v : Json) : Read (List ByteArray) := do (← asList v).mapM asHexBytes

/-- An identity's properties with its PEM. -/
def identityJson (i : TlsIdentity) : Json :=
  Json.object [("label", Json.ofOption Json.str i.label),
    ("chain_len", Json.ofNat i.certificates.length),
    ("common_name", Json.ofOption Json.str i.commonName),
    ("expiration", Json.ofInt i.expiration.seconds),
    ("self_signed", .bool i.selfSigned), ("pem", .str i.toPem)]

/-- An identity result, or its error. -/
def identityResult (r : Except TlsError TlsIdentity) : Json :=
  match r with
  | .ok i => identityJson i
  | .error e => tlsErrorJson e

/-- Reads a server trust policy. -/
def readTrust (v : Json) : Read ServerTrust := do
  match v with
  | .str "self_signed" => pure .selfSignedOnly
  | .str "default" => pure (.roots [])
  | .obj [("pinned", pin)] => .pinned <$> asHexBytes pin
  | .obj [("roots", roots)] => .roots <$> asHexList roots
  | .obj [("settings", s)] =>
    let pinned ← optional s "pinned" asHexBytes
    let selfSigned ← flag s "self_signed" false
    let roots ← (·.getD []) <$> optional s "roots" asHexList
    pure (ServerTrust.ofSettings pinned selfSigned roots)
  | _ => unreadable

/-- Reads a client certificate check. -/
def readValidator (v : Json) : Read CertificateCheck := do
  match v with
  | .obj [("roots", roots)] => .roots <$> asHexList roots
  | .obj [("callback", b)] => do
    let b ← asBool b
    pure (.predicate fun _ => b)
  | _ => unreadable

/-- The mode of a trust policy as answered. -/
def trustMode : ServerTrust → String
  | .pinned _ => "pinned"
  | .selfSignedOnly => "self_signed"
  | .roots _ => "roots"

/-- The error fields of a refused certificate. -/
def faultFields (f : CertificateFault) : List (String × Json) :=
  [("error", Json.object [("error", .str "InvalidCertificate"), ("message", .str f.name)]),
   ("replication_error", .str (ReplicationError.ofIo ⟨.invalidData, .tls (.certificate f)⟩).kindName)]

/-- Reads an authenticator of either side; a bad client PEM is its error. -/
def readAnyAuthenticator (v : Json) : Read (Except TlsError Authenticator) := do
  match v with
  | .str "none" => pure (.ok .none)
  | .str "password" => pure (.ok (.password fun _ _ => true))
  | .obj [("basic", .arr [u, p])] => pure (.ok (.basic (← asText u) (← asText p)))
  | .obj [("client_pem", pem)] => pure ((TlsIdentity.ofPem (← asText pem)).map .clientCertificate)
  | .obj [("cert_roots", roots)] => pure (.ok (.certificate (.roots (← asHexList roots))))
  | .obj [("cert_callback", b)] => do
    let b ← asBool b
    pure (.ok (.certificate (.predicate fun _ => b)))
  | _ => unreadable

/-- The signature schemes verifiers support, in order of preference. -/
def verifySchemes : List String :=
  ["ECDSA_NISTP384_SHA384", "ECDSA_NISTP256_SHA256", "ED25519", "RSA_PSS_SHA512",
   "RSA_PSS_SHA384", "RSA_PSS_SHA256", "RSA_PKCS1_SHA512", "RSA_PKCS1_SHA384", "RSA_PKCS1_SHA256"]

/-- The debugging text of a client certificate check. -/
def validatorText : CertificateCheck → String
  | .predicate _ => "CertificateValidator::Callback"
  | .roots rs => "CertificateValidator::RootCertificates(" ++ toString rs.length ++ ")"

/-- The certificate requests. -/
def certificateAnswer (op : String) (req : Json) : Option (Read Json) :=
  match op with
  | "tls_self_signed" => some do
    let der ← asHexBytes (← field req "der")
    pure (Json.object [("self_signed", .bool (X509.isSelfSigned der))])
  | "tls_verify_server" => some do
    let trust ← readTrust (← field req "trust")
    let leaf ← asHexBytes (← field req "leaf")
    let _ ← (·.getD []) <$> optional req "intermediates" asHexList
    let now ← asInt (← field req "now")
    let (result, seen) := (verifyServerCert trust leaf now).run none
    let base := [("mode", .str (trustMode trust)),
      ("recorded", .bool (seen.map (·.data) == some leaf.data))]
    pure (match result with
      | .ok () => Json.object (base ++ [("ok", .bool true)])
      | .error f => Json.object (base ++ [("ok", .bool false)] ++ faultFields f))
  | "tls_verify_client" => some do
    let check ← readValidator (← field req "validator")
    let leaf ← asHexBytes (← field req "leaf")
    let intermediates ← (·.getD []) <$> optional req "intermediates" asHexList
    let now ← asInt (← field req "now")
    let seen := match check with
      | .predicate _ => Json.ofNat (intermediates.length + 1)
      | .roots _ => .null
    pure (match verifyClient check leaf intermediates now with
      | .ok () => Json.object [("ok", .bool true), ("chain_seen", seen)]
      | .error f => Json.object ([("ok", .bool false), ("chain_seen", seen)] ++ (faultFields f).take 1))
  | "tls_identity" => some do
    match field? req "pem" with
    | some pem => pure (identityResult (TlsIdentity.ofPem (← asText pem)))
    | none =>
      let certs ← asHexList (← field req "certs")
      let key ← asHexBytes (← field req "key")
      pure (identityResult (TlsIdentity.ofParts certs key))
  | "tls_bundle_open" => some do
    let data ← asHexBytes (← field req "data")
    let password ← text req "password"
    pure (Json.object [("is_bundle", .bool (Bundle.isBundle data)),
      ("identity", identityResult (Bundle.openWith data password))])
  | "authenticator_debug" => some do
    match ← readAnyAuthenticator (← field req "auth") with
    | .error e => pure (tlsErrorJson e)
    | .ok a => pure (Json.object [("debug", .str (maskNearDates a.describe)),
        ("listener_side", .bool a.isListenerSide), ("replicator_side", .bool a.isReplicatorSide)])
  | "tls_verifier_info" => some do
    let schemes := Json.arr (verifySchemes.map Json.str)
    match field? req "trust" with
    | some t =>
      let trust ← readTrust t
      pure (Json.object [("debug", .str ("ServerVerifier \x7b mode: \"" ++ trust.modeName ++ "\" \x7d")),
        ("schemes", schemes), ("raw_public_keys", .bool false)])
    | none =>
      let check ← readValidator (← field req "validator")
      pure (Json.object [
        ("debug", .str ("ClientVerifier \x7b validator: " ++ validatorText check ++ " \x7d")),
        ("schemes", schemes), ("root_hints", Json.ofNat 0), ("mandatory", .bool true),
        ("offer", .bool true)])
  | _ => none

end Service

end RevSync
