import FormatBridge.Connection.Error
import FormatBridge.Reply
import FormatBridge.Text.Quoted

set_option autoImplicit false

/-! # The log

Everything that happens on the way is logged as an event with a level, a name and fields. An event
is kept as what happened; its level, name and fields follow from that. -/

namespace FormatBridge

/-- How much an event matters, from the least. -/
inductive Level where
  | trace
  | debug
  | info
  | warn
  | error
  deriving DecidableEq, Repr

/-- The name of a level. -/
def Level.name : Level → String
  | .trace => "TRACE"
  | .debug => "DEBUG"
  | .info => "INFO"
  | .warn => "WARN"
  | .error => "ERROR"

/-- The rank of a level. -/
def Level.rank : Level → Nat
  | .trace => 0
  | .debug => 1
  | .info => 2
  | .warn => 3
  | .error => 4

/-- What happened. -/
inductive LogEvent where
  /-- A request was handed to the writer and now waits for its reply. -/
  | requestQueued (id kind : String)
  /-- A request came when nothing can be written any more. -/
  | requestUnwritable (id kind : String)
  | requestDropped (kind : String) (error : TransportError)
  /-- No handle is left that could send a request. -/
  | handlesClosed (pending : Nat)
  /-- A message came that answers nothing. -/
  | messageIgnored
  /-- A line came that is no message. -/
  | messageUndecodable
  /-- A reply came for a request in flight. -/
  | replyReceived (id : String)
  /-- A reply came for a request that is not in flight. -/
  | replyUnmatched (id : String)
  /-- The connection ended with requests in flight. -/
  | requestsAbandoned (pending : Nat)
  /-- What was left of the output could not be written or shut down. -/
  | shutdownFailed (error : String)
  /-- Formatting was asked for with nothing selected. -/
  | selectionEmpty
  /-- A buffer's code was sent to be formatted. -/
  | requestSent (buffer : String) (bytes : Nat) (kind : String)
  /-- A buffer got its formatted code. -/
  | replyApplied (buffer : String) (bytes : Nat)
  /-- A buffer was not formatted. -/
  | replyFailed (buffer : String) (error : ReplyError)
  /-- An action was invoked that does not exist. -/
  | actionUnknown (action : String)
  /-- The format action was registered. -/
  | actionRegistered (action : String)
  | backendSpawned
  | backendExited
  | connectionFailed (error : TransportError)
  /-- A file was written with its formatted code. -/
  | fileFormatted (path : String)
  deriving DecidableEq, Repr

namespace LogEvent

/-- The level of an event. -/
def level : LogEvent → Level
  | requestQueued .. | replyReceived .. => .trace
  | handlesClosed .. | messageIgnored | shutdownFailed .. | selectionEmpty | requestSent ..
  | replyApplied .. | actionUnknown .. | backendExited => .debug
  | actionRegistered .. | backendSpawned | fileFormatted .. => .info
  | requestUnwritable .. | requestDropped .. | messageUndecodable | replyUnmatched ..
  | requestsAbandoned .. | replyFailed .. => .warn
  | connectionFailed .. => .error

/-- The name of an event. -/
def name : LogEvent → String
  | requestQueued .. => "rpc.request.queued"
  | requestUnwritable .. => "rpc.request.unwritable"
  | requestDropped .. => "rpc.request.dropped"
  | handlesClosed .. => "rpc.sockets.closed"
  | messageIgnored => "rpc.message.ignored"
  | messageUndecodable => "rpc.message.undecodable"
  | replyReceived .. => "rpc.reply.received"
  | replyUnmatched .. => "rpc.reply.unmatched"
  | requestsAbandoned .. => "rpc.requests.abandoned"
  | shutdownFailed .. => "rpc.output.shutdown_failed"
  | selectionEmpty => "format.selection.empty"
  | requestSent .. => "format.request.sent"
  | replyApplied .. => "format.reply.applied"
  | replyFailed .. => "format.reply.failed"
  | actionUnknown .. => "action.unknown"
  | actionRegistered .. => "format.action.registered"
  | backendSpawned => "backend.spawned"
  | backendExited => "backend.exited"
  | connectionFailed .. => "backend connection failed"
  | fileFormatted .. => "formatted"

/-- The fields of an event by name. Request ids are quoted, all else stands as it is. -/
def fields : LogEvent → List (String × String)
  | requestQueued id kind => [("id", Text.quoted id), ("kind", kind)]
  | requestUnwritable id kind => [("id", Text.quoted id), ("kind", kind)]
  | requestDropped kind error => [("kind", kind), ("error", error.message)]
  | handlesClosed pending => [("pending", toString pending)]
  | replyReceived id => [("id", Text.quoted id)]
  | replyUnmatched id => [("id", Text.quoted id)]
  | requestsAbandoned pending => [("pending", toString pending)]
  | shutdownFailed error => [("error", error)]
  | requestSent buffer bytes kind =>
    [("buffer", buffer), ("bytes", toString bytes), ("kind", kind)]
  | replyApplied buffer bytes => [("buffer", buffer), ("bytes", toString bytes)]
  | replyFailed buffer error => [("buffer", buffer), ("error", error.message)]
  | actionUnknown action => [("action", action)]
  | actionRegistered action => [("action", action)]
  | connectionFailed error => [("error", error.message)]
  | fileFormatted path => [("path", path)]
  | messageIgnored | messageUndecodable | selectionEmpty | backendSpawned | backendExited => []

/-- A field as a text for a terminal: its name in italics, a dim equals sign, and its value as it
    is. -/
def fieldText (name value : String) : String :=
  "\x1b[3m" ++ name ++ "\x1b[0m\x1b[2m=\x1b[0m" ++ value

/-- An event as a text: its level, its name and its fields. -/
def text (e : LogEvent) : String :=
  String.intercalate " "
    (e.level.name :: e.name :: e.fields.map fun (name, value) => fieldText name value)

end LogEvent

end FormatBridge
