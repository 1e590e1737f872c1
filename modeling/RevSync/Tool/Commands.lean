import RevSync.CommandLine.Grammar
import RevSync.CommandLine.Value

/-!
# The `docsync` command line

The tool serves a database to replicators (`listen`), replicates with a listener (`replicate`),
manages the TLS identities of an identity store (`identity` and its subcommands) and shows its
version (`version`). The database path and verbosity are global switches.
-/

namespace RevSync

namespace Tool

open CommandLine

/-- The tool's version. -/
def version : String := "0.4.0"

/-- A switch taking a value, named after its id. -/
def option (id long help : String) (kind : ValueKind := .text) : Arg :=
  { id, long := some long, help, valueName := id.toUpper, kind }

/-- A flag. -/
def flagArg (id long help : String) : Arg :=
  { id, long := some long, help, action := .flag }

/-- A required positional argument. -/
def positional (id help : String) (kind : ValueKind := .text) : Arg :=
  { id, help, valueName := id.toUpper, positional := true, required := true, kind }

/-- `listen`: serve the database until interrupted. -/
def listenCommand : Command :=
  { name := "listen", about := "Serve the database to remote replicators until interrupted",
    args := [
      option "port" "port" "Port to listen on (ephemeral if omitted)" (.integer 0 65535),
      option "interface" "interface" "Address of the interface to bind (all interfaces if omitted)",
      flagArg "no_tls" "no-tls" "Serve plain TCP instead of TLS",
      option "identities" "identities"
        "Identity store directory (server identity and anonymous identities)" .path,
      { option "identity" "identity" "Label of the server identity in the identity store" with
        requires := ["identities"] },
      { option "username" "username" "Require this username (with --password)" with
        requires := ["password"] },
      { option "password" "password" "Password for --username" with requires := ["username"] },
      flagArg "read_only" "read-only" "Reject pushes",
      flagArg "delta_sync" "delta-sync" "Advertise delta sync"] }

/-- The replication directions, as the command line names them. -/
def directions : List (String × String) :=
  [("push", "Send local changes only"), ("pull", "Receive remote changes only"),
   ("push-and-pull", "Both directions")]

/-- `replicate`: replicate with a listener until interrupted. -/
def replicateCommand : Command :=
  { name := "replicate", about := "Replicate with a listener at ws[s]://host:port/database",
    args := [
      positional "url" "Listener URL",
      { option "direction" "type" "Direction" (.choice directions) with
        short := some 't', default := some "push-and-pull" },
      { flagArg "continuous" "continuous" "Keep replicating until interrupted" with
        short := some 'c' },
      { option "username" "username" "Username for Basic authentication" with
        requires := ["password"] },
      { option "password" "password" "Password for Basic authentication" with
        requires := ["username"] },
      option "pin" "pin" "PEM file with the exact server certificate to trust" .path,
      flagArg "self_signed" "self-signed" "Trust any self-signed server certificate",
      { option "identities" "identities" "Identity store directory holding the client certificate"
          .path with requires := ["client_identity"] },
      { option "client_identity" "client-identity" "Label of the client identity to present" with
        requires := ["identities"] },
      flagArg "reset" "reset" "Forget the checkpoint and consider every document again"] }

/-- `identity create`. -/
def createCommand : Command :=
  { name := "create", about := "Generate a self-signed identity",
    args := [
      positional "label" "Label to store the identity under",
      { option "common_name" "common-name" "Common name of the certificate" with required := true },
      flagArg "client" "client" "Create a client identity instead of a server identity",
      option "organization" "organization" "Organization",
      option "days" "days" "Days until the certificate expires" (.integer int64Min int64Max)] }

/-- `identity import`. -/
def importCommand : Command :=
  { name := "import", about := "Import a PEM file or password-protected bundle",
    args := [
      positional "file" "File to import" .path,
      { option "label" "label" "Label to store the identity under" with required := true },
      option "password" "password" "Bundle password"] }

/-- `identity export`. -/
def exportCommand : Command :=
  { name := "export", about := "Export an identity as a password-protected bundle",
    args := [
      positional "label" "Label of the identity",
      { option "output" "output" "Output file" .path with short := some 'o', required := true },
      { option "password" "password" "Bundle password" with required := true }] }

/-- `identity`: manage the identities of a store. -/
def identityCommand : Command :=
  { name := "identity", about := "Manage TLS identities",
    args := [{ option "store" "store" "Identity store directory" .path with
      short := some 's', required := true }],
    subcommands := [createCommand, importCommand, exportCommand,
      { name := "delete", about := "Delete an identity (no error if missing)",
        args := [positional "label" "Label of the identity"] },
      { name := "list", about := "List stored identities",
        args := [{ option "format" "format" "Output format (text, json)" with
          short := some 'f', default := some "text" }] },
      { name := "purge-anonymous", about := "Delete auto-generated listener identities" }] }

/-- The tool's command tree, completed for reading. -/
def commands : Command :=
  Command.completeTop
    { name := "docsync", about := "Command-line listener, replicator and identity tools for docsync",
      version := some version,
      args := [
        { option "path" "path" "Path to the database directory" .path with
          short := some 'p', global := true },
        { flagArg "verbose" "verbose" "Enable verbose output" with
          short := some 'v', global := true }],
      subcommands := [listenCommand, replicateCommand, identityCommand,
        { name := "version", about := "Show version information" }] }

end Tool

end RevSync
