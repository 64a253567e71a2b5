import InstrumentLink.Bench.Probe
import InstrumentLink.Proofs.CallDiscipline
import InstrumentLink.Proofs.Conversation

/-!
# Runs of a handle

A handle is used in any order and with any results, on its own, through a
framed link, through a device or by a scan.  The transport behind it sees its
calls in order: it is opened while there is no session, it is asked for
anything else within a session only, and each session is closed once at most.
-/

namespace InstrumentLink

open LinkM
open Transport (Call Orderly session opens closes)

/-- What can be done with a handle, with a framed link on it and with the device
behind it. -/
inductive Use (σ : Type) where
  | openLink (mode : OpenMode)
  | closeLink
  | write (bytes : List UInt8) (mode : IoMode)
  | writeAll (bytes : List UInt8) (limit : Nat)
  | read (room : Nat) (mode : IoMode)
  | setLineParams (params : LineParams)
  | setHandshakeLines (rts dtr : Option Bool)
  | charFormat
  | transferTimeout (bytes : Nat)
  | queuedInput
  | flush
  | drain
  | logPackets (on : Bool)
  | register (reactor : Reactor) (wish : EventSlot.Wish)
  | unregister (reactor : Reactor)
  | fire (reactor : Reactor) (observed : Interest)
  | sendPdu (config : LinkConfig) (pdu : List UInt8)
  | receivePart (timeout : Nat) (part : String) (total : Nat)
  | readAddress (config : LinkConfig)
  | readChecksum (config : LinkConfig) (pdu : List UInt8)
  | attach (config : LinkConfig)
  | send (request : Request)
  | receive (request : Request)
  | cancel
  | transact (request : Request)
  | perform (primitive : Primitive)
  /-- Something happens to the world in the meantime. -/
  | meanwhile (change : σ → σ)

namespace Use

variable {σ α : Type}

def onHandle (attached : Attached σ) (action : LinkM (Station σ) α) : Attached σ :=
  ((Device.onStation action).outcome attached).2

def after (transport : Transport (Recorded σ)) (attached : Attached (Recorded σ)) :
    Use σ → Attached (Recorded σ)
  | openLink mode => onHandle attached (Handle.openLink transport mode)
  | closeLink => onHandle attached (Handle.closeLink transport)
  | write bytes mode => onHandle attached (Handle.write transport bytes mode)
  | writeAll bytes limit => onHandle attached (Handle.writeAll transport bytes limit)
  | read room mode => onHandle attached (Handle.read transport room mode)
  | setLineParams params => onHandle attached (Handle.setLineParams transport params)
  | setHandshakeLines rts dtr => onHandle attached (Handle.setHandshakeLines transport rts dtr)
  | charFormat => onHandle attached (Handle.charFormat transport)
  | transferTimeout bytes => onHandle attached (Handle.transferTimeout? transport bytes)
  | queuedInput => onHandle attached (Handle.queuedInput transport)
  | flush => onHandle attached (Handle.flush transport)
  | drain => onHandle attached (Handle.drain transport)
  | logPackets on =>
      onHandle attached (Station.setHandle fun handle => { handle with packetLogging := on })
  | register reactor wish =>
      { attached with
        station := ((Handle.registerForEvents transport wish).outcome
          (attached.station, reactor)).2.1 }
  | unregister reactor =>
      { attached with
        station := (Handle.unregisterFromEvents.outcome (attached.station, reactor)).2.1 }
  | fire reactor observed =>
      onHandle attached (Station.setHandle fun handle =>
        handle.withFlags (reactor.fire handle.events.flags handle.key observed).2.1)
  | sendPdu config pdu => onHandle attached (FramedLink.sendPdu transport config pdu)
  | receivePart timeout part total =>
      onHandle attached (FramedLink.receivePart transport timeout part total)
  | readAddress config => onHandle attached (FramedLink.readAddress transport config)
  | readChecksum config pdu => onHandle attached (FramedLink.readChecksum transport config pdu)
  | attach config => { attached with device := { config } }
  | send request => ((Device.send transport request).outcome attached).2
  | receive request => ((Device.receive transport request).outcome attached).2
  | cancel => ((Device.cancel transport).outcome attached).2
  | transact request => ((Device.transact transport request).outcome attached).2
  | perform primitive => primitive.after transport attached
  | meanwhile change =>
      onHandle attached (modify fun station =>
        { station with world := { station.world with world := change station.world.world } })

def run (transport : Transport (Recorded σ)) (attached : Attached (Recorded σ))
    (uses : List (Use σ)) : Attached (Recorded σ) :=
  uses.foldl (after transport) attached

theorem station_onHandle (attached : Attached σ) (action : LinkM (Station σ) α) :
    (onHandle attached action).station = (action.outcome attached.station).2 := by
  simp only [onHandle, Device.onStation, outcome, within]
  cases action attached.station <;> rfl

/-- The use neither begins nor ends a session, does not turn the packet log on or off, and is
nothing that happens to the world in the meantime. -/
def MakesMoves : Use σ → Prop
  | openLink _ | closeLink | logPackets _ | meanwhile _ => False
  | _ => True

section Moves

variable (transport : Transport (Recorded σ)) (attached : Attached (Recorded σ))

theorem moves_onHandle {action : LinkM (Station (Recorded σ)) α}
    (haction : OfMoves transport id action) :
    Moves transport attached.station (onHandle attached action).station := by
  rw [station_onHandle]
  exact haction attached.station

theorem moves_primitive (primitive : Primitive) :
    Moves transport attached.station (primitive.after transport attached).station := by
  rcases Device.after_primitive transport primitive attached with hsame | ⟨request, _, hafter⟩
  · rw [hsame]
    exact .refl
  · rw [hafter]
    exact Device.ofMoves_transact transport request attached

theorem moves_after {use : Use σ} (hmoves : use.MakesMoves) :
    Moves transport attached.station (use.after transport attached).station := by
  cases use with
  | openLink mode => exact hmoves.elim
  | closeLink => exact hmoves.elim
  | write bytes mode => exact moves_onHandle _ attached (Handle.ofMoves_write _ bytes mode)
  | writeAll bytes limit => exact moves_onHandle _ attached (Handle.ofMoves_writeAll _ bytes limit)
  | read room mode => exact moves_onHandle _ attached (Handle.ofMoves_read _ room mode)
  | setLineParams params =>
      exact moves_onHandle _ attached (Handle.ofMoves_setLineParams _ params)
  | setHandshakeLines rts dtr =>
      exact moves_onHandle _ attached (Handle.ofMoves_setHandshakeLines _ rts dtr)
  | charFormat => exact moves_onHandle _ attached (Handle.ofMoves_charFormat _)
  | transferTimeout bytes =>
      exact moves_onHandle _ attached (Handle.ofMoves_transferTimeout? _ bytes)
  | queuedInput => exact moves_onHandle _ attached (Handle.ofMoves_queuedInput _)
  | flush => exact moves_onHandle _ attached (Handle.ofMoves_flush _)
  | drain => exact moves_onHandle _ attached (Handle.ofMoves_drain _)
  | logPackets on => exact hmoves.elim
  | register reactor wish =>
      exact Handle.ofMoves_registerForEvents _ wish (attached.station, reactor)
  | unregister reactor =>
      exact Handle.ofMoves_unregisterFromEvents _ (attached.station, reactor)
  | fire reactor observed =>
      exact moves_onHandle _ attached (Handle.ofMoves_adjust _ fun handle => ⟨_, rfl⟩)
  | sendPdu config pdu => exact moves_onHandle _ attached (FramedLink.ofMoves_sendPdu _ config pdu)
  | receivePart timeout part total =>
      exact moves_onHandle _ attached (FramedLink.ofMoves_receivePart _ timeout part total)
  | readAddress config => exact moves_onHandle _ attached (FramedLink.ofMoves_readAddress _ config)
  | readChecksum config pdu =>
      exact moves_onHandle _ attached (FramedLink.ofMoves_readChecksum _ config pdu)
  | attach config => exact .refl
  | send request => exact Device.ofMoves_send _ request attached
  | receive request => exact Device.ofMoves_receive _ request attached
  | cancel => exact Device.ofMoves_cancel _ attached
  | transact request => exact Device.ofMoves_transact _ request attached
  | perform primitive => exact moves_primitive _ attached primitive
  | meanwhile change => exact hmoves.elim

end Moves

variable {number : Nat} (transport : Transport σ) (attached : Attached (Recorded σ))
variable {rule : SessionRule σ number}

/-- A use that neither begins nor ends a session respects every rule. -/
theorem related_after {use : Use σ} (hopens : ∀ mode, use ≠ .openLink mode)
    (hcloses : use ≠ .closeLink) :
    rule.Related attached.station
      (use.after (Recorded.transport number transport) attached).station := by
  by_cases hmoves : use.MakesMoves
  · exact rule.related_of_moves (moves_after _ attached hmoves)
  · cases use with
    | openLink mode => exact absurd rfl (hopens mode)
    | closeLink => exact absurd rfl hcloses
    | logPackets on => exact rule.beside rfl rfl rfl rfl
    | meanwhile change => exact rule.beside rfl rfl rfl rfl
    | _ => exact absurd trivial hmoves

/-- What keeps the calls in order does so also behind a device. -/
theorem kept_onHandle {action : LinkM (Station (Recorded σ)) α} (haction : Keeps number id action) :
    Kept number attached.station (onHandle attached action).station := by
  rw [station_onHandle]
  exact haction.kept attached.station

theorem kept_after (use : Use σ) :
    Kept number attached.station
      (use.after (Recorded.transport number transport) attached).station := by
  have hrelated : ∀ {use : Use σ}, (∀ mode, use ≠ .openLink mode) → use ≠ .closeLink →
      (keptRule σ number).Related attached.station
        (use.after (Recorded.transport number transport) attached).station :=
    related_after transport attached
  cases use with
  | openLink mode => exact kept_onHandle attached (Handle.keeps_openLink transport mode)
  | closeLink => exact kept_onHandle attached (Handle.keeps_closeLink transport)
  | _ => exact hrelated (by simp) (by simp)

theorem kept_run (uses : List (Use σ)) :
    Kept number attached.station
      (run (Recorded.transport number transport) attached uses).station := by
  induction uses generalizing attached with
  | nil => exact .refl number attached.station
  | cons use rest ih => exact (kept_after transport attached use).trans (ih _)

end Use

end InstrumentLink
