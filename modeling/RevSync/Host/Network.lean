import RevSync.Host.IoError

/-!
# Network

This host opens no outgoing connections: listeners may bind and wait, but every attempt to
connect to one, even on the loopback interface, fails with the system's permission error.
-/

namespace RevSync

/-- The outcome of connecting to an address: always the permission error. -/
def connectTcp (_authority : String) : Except IoError Unit := .error IoError.notPermitted

end RevSync
