import InstrumentLink.Line.Params
import InstrumentLink.Log
import InstrumentLink.Operation

/-!
# Transports

A transport is what one kind of link can do, as operations on the state of the
world behind it.  Time may have passed and bytes may have moved also when an
operation fails.  Time is counted in whole milliseconds and never runs out: there
is a deadline for every limit, however long.
-/

namespace InstrumentLink

/-- The longest single wait, in milliseconds: thirty years of 365 days. -/
def longestWait : Nat := 30 * 365 * 24 * 60 * 60 * 1000

/-- How long a single read or write may take, in milliseconds. -/
inductive IoMode where
  /-- Whatever the link takes or gives at once. -/
  | nonBlocking
  /-- Until the buffer is done or the limit has passed. -/
  | blocking (limit : Nat)
  deriving DecidableEq, Repr

/-- The operations of one kind of link on a world `σ`.  They are called through
a `Handle`, which has already checked that the link is open and the arguments
are sane. -/
structure Transport (σ : Type) where
  /-- Name used in logs and errors. -/
  backend : String
  /-- Milliseconds since the beginning. -/
  now : σ → Nat
  /-- How many more reads and writes may answer at once without moving a byte. -/
  patience : σ → Nat := fun _ => 0
  /-- Opens the link; the answer is what is to be logged about it. -/
  openLink : OpenMode → LinkM σ (List LogLine)
  closeLink : LinkM σ Unit
  /-- The number of bytes accepted, counted from the front. -/
  write : List UInt8 → IoMode → LinkM σ Nat
  /-- At most as many bytes as there is room for. -/
  read : Nat → IoMode → LinkM σ (List UInt8)
  setLineParams : LineParams → LinkM σ Unit
  /-- Drives the handshake lines; `none` leaves a line alone. -/
  setHandshakeLines : Option Bool → Option Bool → LinkM σ Unit
  charFormat : LinkM σ CharFormat
  /-- Bytes received but not read yet. -/
  queuedInput : LinkM σ Nat
  /-- Discards unread input. -/
  flush : LinkM σ Unit
  /-- Waits until all output has left. -/
  drain : LinkM σ Unit
  /-- What an event loop can wait on. -/
  eventSource : LinkM σ Nat
  /-- What becomes of the world when the link is given up, closed or not. -/
  release : σ → σ := id

def Transport.within {σ τ : Type} (transport : Transport τ) (part : σ → τ)
    (put : σ → τ → σ) : Transport σ where
  backend := transport.backend
  now world := transport.now (part world)
  patience world := transport.patience (part world)
  openLink mode := LinkM.within part put (transport.openLink mode)
  closeLink := LinkM.within part put transport.closeLink
  write bytes mode := LinkM.within part put (transport.write bytes mode)
  read room mode := LinkM.within part put (transport.read room mode)
  setLineParams params := LinkM.within part put (transport.setLineParams params)
  setHandshakeLines rts dtr := LinkM.within part put (transport.setHandshakeLines rts dtr)
  charFormat := LinkM.within part put transport.charFormat
  queuedInput := LinkM.within part put transport.queuedInput
  flush := LinkM.within part put transport.flush
  drain := LinkM.within part put transport.drain
  eventSource := LinkM.within part put transport.eventSource
  release world := put world (transport.release (part world))

end InstrumentLink
