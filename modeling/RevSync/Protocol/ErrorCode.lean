/-!
# Error codes

The numeric codes that `Error` and `Close` messages carry. They follow WebSocket close codes for
the connection's own fate (1000 to 1002) and HTTP status codes for refusals.
-/

namespace RevSync

/-- A numeric error or close code. -/
structure ErrorCode where
  code : UInt16
  deriving DecidableEq, Repr, Inhabited

namespace ErrorCode

/-- Orderly close. -/
def normal : ErrorCode := ⟨1000⟩
/-- The peer is shutting down. -/
def goingAway : ErrorCode := ⟨1001⟩
/-- The peer broke the protocol. -/
def protocol : ErrorCode := ⟨1002⟩
/-- Credentials are required. -/
def unauthorized : ErrorCode := ⟨401⟩
/-- The request is refused. -/
def forbidden : ErrorCode := ⟨403⟩
/-- No such database. -/
def notFound : ErrorCode := ⟨404⟩
/-- A revision conflicts with the stored one. -/
def conflict : ErrorCode := ⟨409⟩
/-- The protocol version is not supported. -/
def upgradeRequired : ErrorCode := ⟨426⟩
/-- The peer failed internally. -/
def internal : ErrorCode := ⟨500⟩

/-- The code in decimal. -/
def toText (c : ErrorCode) : String := toString c.code.toNat

end ErrorCode

end RevSync
