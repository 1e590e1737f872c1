import RevSync.Host.IoError

/-!
# Protocol errors

Every way sending or receiving a message can fail, with its message.
-/

namespace RevSync

/-- Why a protocol step failed. -/
inductive ProtocolError where
  | io (e : IoError)
  | encode (message : String)
  | decode (message : String)
  | frameTooLarge (len max : Nat)
  | unexpectedMessage (expected got : String)
  | connectionClosed
  deriving DecidableEq, Repr, Inhabited

namespace ProtocolError

/-- The error's message. -/
def message : ProtocolError → String
  | .io e => "I/O error: " ++ e.message
  | .encode m => "encode error: " ++ m
  | .decode m => "decode error: " ++ m
  | .frameTooLarge len max =>
    "frame of " ++ toString len ++ " bytes exceeds limit of " ++ toString max
  | .unexpectedMessage e g => "unexpected message: expected " ++ e ++ ", got " ++ g
  | .connectionClosed => "connection closed by peer"

/-- The name of the error's kind. -/
def kindName : ProtocolError → String
  | .io _ => "Io"
  | .encode _ => "Encode"
  | .decode _ => "Decode"
  | .frameTooLarge _ _ => "FrameTooLarge"
  | .unexpectedMessage _ _ => "UnexpectedMessage"
  | .connectionClosed => "ConnectionClosed"

/-- The I/O error underneath, if any. -/
def ioError? : ProtocolError → Option IoError
  | .io e => some e
  | _ => none

end ProtocolError

end RevSync
