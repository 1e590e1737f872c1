import RevSync.Host.IoError

/-!
# TLS errors

Every way building, storing or loading an identity can fail, with its message.
-/

namespace RevSync

/-- Why an identity operation failed. -/
inductive TlsError where
  | io (e : IoError)
  | certificateGeneration (message : String)
  | invalidCertificate (message : String)
  | invalidPrivateKey (message : String)
  | labelExists (label : String)
  | identityNotFound (label : String)
  | decryption (message : String)
  | codec (message : String)
  | config (message : String)
  deriving DecidableEq, Repr, Inhabited

namespace TlsError

/-- The error's message. -/
def message : TlsError → String
  | .io e => "I/O error: " ++ e.message
  | .certificateGeneration m => "certificate generation failed: " ++ m
  | .invalidCertificate m => "invalid certificate: " ++ m
  | .invalidPrivateKey m => "invalid private key: " ++ m
  | .labelExists l => "identity label already in use: " ++ l
  | .identityNotFound l => "identity not found: " ++ l
  | .decryption m => "cannot decrypt identity bundle: " ++ m
  | .codec m => "codec error: " ++ m
  | .config m => "TLS configuration error: " ++ m

/-- The name of the error's kind. -/
def kindName : TlsError → String
  | .io _ => "Io"
  | .certificateGeneration _ => "CertificateGeneration"
  | .invalidCertificate _ => "InvalidCertificate"
  | .invalidPrivateKey _ => "InvalidPrivateKey"
  | .labelExists _ => "LabelExists"
  | .identityNotFound _ => "IdentityNotFound"
  | .decryption _ => "Decryption"
  | .codec _ => "Codec"
  | .config _ => "Config"

/-- The error's debugging text. -/
def debugText (e : TlsError) : String :=
  match e with
  | .io err => "Io(" ++ err.debugText ++ ")"
  | .certificateGeneration m | .invalidCertificate m | .invalidPrivateKey m | .labelExists m
  | .identityNotFound m | .decryption m | .codec m | .config m =>
    e.kindName ++ "(" ++ Text.quote m ++ ")"

end TlsError

end RevSync
