import InstrumentLink.Transport.Stream

/-!
# Raw network streams

A network connection driven like a serial line.  It has no line parameters and
no handshake lines, so setting them succeeds without an effect, and it cannot
tell a character format.
-/

namespace InstrumentLink

/-- What a network offers to one connection. -/
structure Network (σ : Type) extends Channel σ where
  /-- Connects to an address; a failure gives the reason. -/
  connect : String → EStateM String σ Unit
  shutdown : σ → σ
  /-- How many bytes are ready, up to a window. -/
  peek : Nat → EStateM Stream.Error σ Nat
  /-- Discards what is ready. -/
  discard : EStateM Stream.Error σ Unit
  eventSource : σ → Nat

structure Socket (σ : Type) where
  connected : Bool := false
  world : σ

namespace Socket

variable {σ α : Type}

/-- The largest queue that can be observed at once. -/
def peekWindow : Nat := 4096

/-- The address as it is resolved and shown. -/
def address (host port : String) : String := host ++ ":" ++ port

/-- An end of stream means that the far end closed the connection. -/
def reword (address : String) (error : Stream.Error) : LinkError :=
  match error.kind with
  | .unexpectedEnd => .transport (.connectionClosed address)
  | _ => .inputOutput error.message

/-- Runs a network operation on behalf of the socket. -/
def onNetwork (action : LinkM σ α) : LinkM (Socket σ) α :=
  LinkM.within Socket.world (fun socket world => { socket with world }) action

/-- Runs an operation that needs a connection. -/
def connectedTo (operation : String) (action : LinkM σ α) : LinkM (Socket σ) α := do
  if (← get).connected then onNetwork action else throw (.notOpen operation)

/-- What needs the stream itself. -/
def onStream (action : LinkM σ α) : LinkM (Socket σ) α := connectedTo "socket access" action

/-- Gives up the connection, if there is one. -/
def release (network : Network σ) (socket : Socket σ) : Socket σ :=
  if socket.connected then { connected := false, world := network.shutdown socket.world }
  else socket

def transport (network : Network σ) (host port : String) : Transport (Socket σ) where
  backend := Connection.tcpName
  now socket := network.now socket.world
  openLink _ := do
    onNetwork
      (LinkM.rewording (fun reason => .transport (.connectFailed (address host port) reason))
        (network.connect (address host port)))
    modify fun socket => { socket with connected := true }
    return [.connected (address host port)]
  closeLink := do
    if (← get).connected then modify (release network) else throw (.notOpen "close")
  write bytes mode :=
    onStream (LinkM.rewording (reword (address host port)) (network.transmit bytes mode))
  read room mode :=
    onStream (LinkM.rewording (reword (address host port)) (network.receive room mode))
  setLineParams _ := pure ()
  setHandshakeLines _ _ := pure ()
  charFormat := throw (.unsupported "frame_format" Connection.tcpName)
  queuedInput :=
    onStream (LinkM.rewording (fun error => .inputOutput error.message) (network.peek peekWindow))
  flush := onStream (LinkM.rewording (fun error => .inputOutput error.message) network.discard)
  drain := onStream (LinkM.rewording (fun error => .inputOutput error.message) network.drain)
  eventSource := connectedTo "event_source" fun world => .ok (network.eventSource world) world
  release := release network

end Socket

end InstrumentLink
