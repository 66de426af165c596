import LspGateway.Client.Policy
import LspGateway.Json.Misuse
import LspGateway.Json.Printer
import LspGateway.Wire.Reader

/-! # What goes wrong between the gateway and a server -/

namespace LspGateway.Client

/-- What makes every later write fail. -/
inductive InputFault
  /-- Messages get through, but no write succeeds. -/
  | broken
  /-- Nothing gets through. -/
  | gone
  deriving DecidableEq, Repr

/-- Why the requests of a connection are given up. -/
inductive Ending
  /-- The gateway closed it, or expected its end. -/
  | deliberate
  | byServer
  | fault (fault : Wire.Fault)
  deriving DecidableEq, Repr

/-- What a caller is told when something goes wrong. -/
inductive Error
  /-- A send on a connection that is closed already. -/
  | closed
  /-- The connection ended before the answer came. -/
  | ended (reason : Ending)
  | unwritable (fault : InputFault)
  | notRunning (id : String)
  | commandNotFound (command : String)
  | spawnRefused (command : String) (errno : Nat)
  /-- The process lacks a stream to talk over. -/
  | noPipes
  | spawnCrashed (text : String)
  /-- The handshake failed. -/
  | uninitialized (id : String) (cause : Error)
  /-- The start failed for a reason that is no fault of the server. -/
  | unstarted (id : String) (cause : Error)
  /-- The server answered with an error. -/
  | response (code text data : Json)
  /-- The server sent a value of the wrong shape. -/
  | misuse (fault : Json.Misuse)
  /-- The process cannot be signalled. -/
  | processGone
  deriving DecidableEq, Repr

def InputFault.message : InputFault → String
  | .broken => "[Errno 32] " ++ errnoText 32
  | .gone => "stdin is gone"

def Ending.message : Ending → String
  | .deliberate => "Connection closed"
  | .byServer => "Connection closed by server"
  | .fault f => "Connection error: " ++ f.message

def Error.message : Error → String
  | .closed => "Connection is closed"
  | .ended reason => reason.message
  | .unwritable f => "Failed to write to LSP server: " ++ f.message
  | .notRunning id => "LSP " ++ id ++ " is not running"
  | .commandNotFound command =>
    "LSP server '" ++ command ++ "' not found. Please install the language server."
  | .spawnRefused command errno =>
    "Failed to spawn LSP server '" ++ command ++ "': [Errno " ++ Text.ofNat errno ++ "] " ++
      errnoText errno ++ ": " ++ Text.quoted command
  | .noPipes => "Failed to get process pipes"
  | .spawnCrashed text => text
  | .uninitialized id cause => "Failed to initialize LSP server " ++ id ++ ": " ++ cause.message
  | .unstarted id cause => "Failed to start LSP " ++ id ++ ": " ++ cause.message
  | .response code text _ => "LSP error " ++ code.plain ++ ": " ++ text.plain
  | .misuse fault => fault.message
  | .processGone => ""

/-- Whether an error is one that a server may be expected to cause. -/
def Error.isExpected : Error → Bool
  | .spawnCrashed _ => false
  | .misuse _ => false
  | .processGone => false
  | _ => true

/-- How an activity ends. -/
inductive Outcome
  | value (j : Json)
  | error (e : Error)
  | cancelled
  deriving DecidableEq, Repr

/-- An activity that ends without a value. -/
def Outcome.done : Outcome := .value .null

end LspGateway.Client
