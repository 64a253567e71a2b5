import InstrumentLink.Bench.Answer
import InstrumentLink.Bench.Backends
import InstrumentLink.Bench.Script
import InstrumentLink.Scan

/-!
# Sessions

A session is a sequence of steps over some handles that share one bench and
one reactor.  A handle can be used as it is, or with a device or a framed link
on it; a request that was sent stays pending until its reply is received or
given up.  A session breaks down, and then has no outcome at all, when an
estimate leaves 64 bits or when the far end of the wire is needed and not in
place.
-/

namespace InstrumentLink

/-- What a handle is used as. -/
inductive Role where
  | bare
  | device (device : Device)
  | framed (config : LinkConfig)
  deriving DecidableEq, Repr

/-- A handle in use. -/
structure Seat where
  link : Link Rig
  role : Role := .bare
  /-- The request whose reply is awaited. -/
  pending : Option Request := none

def Seat.withHandle (seat : Seat) (handle : Handle) : Seat :=
  { seat with link := { seat.link with handle } }

structure Session where
  rig : Rig
  /-- The handles by number; a dropped handle leaves its place empty. -/
  seats : List (Option Seat) := []
  /-- The flags that dropped handles left behind, by number. -/
  left : List (Nat × FlagStore) := []
  reactor : Reactor := {}

/-- A request as it is written down, to be checked first or not. -/
structure Order where
  request : Request
  checked : Bool := false
  deriving DecidableEq, Repr

def Order.resolve (order : Order) : Except LinkError Request :=
  if order.checked then order.request.checked else .ok order.request

/-- A step that uses one handle. -/
inductive HandleStep where
  | openLink (mode : OpenMode)
  | closeLink
  | flush
  | drain
  | write (bytes : List UInt8) (mode : IoMode)
  | writeAll (bytes : List UInt8) (limit : Nat)
  | read (room : Nat) (mode : IoMode)
  | setLineParams (source : ParamsSource)
  | setHandshakeLines (rts dtr : Option Bool)
  | charFormat
  | transferTimeout (bytes : Nat)
  | queuedInput
  | logPackets (on : Bool)
  | info
  | register (wish : EventSlot.Wish)
  | unregister
  | drop
  | attachDevice (config : LinkConfig)
  | attachFramed (config : LinkConfig)
  | detach
  | forget
  | send (order : Order)
  | receive
  | cancel
  | transact (order : Order)
  | readCoils (address count : UInt16)
  | readRegisters (address count : UInt16)
  | writeCoil (address : UInt16) (value : Bool)
  | writeRegisters (address : UInt16) (values : List UInt16)
  | deviceInfo
  | sendPdu (pdu : List UInt8)
  | readPart (part : String) (total : Nat)
  | readAddress
  | readChecksum (pdu : List UInt8)
  | framedInfo
  deriving DecidableEq, Repr

/-- Whether a step can only be taken with a handle.  Without one there is
nothing to drop and nothing pending to forget, and it is done as it stands. -/
def HandleStep.needsHandle : HandleStep → Bool
  | drop | forget => false
  | _ => true

inductive Step where
  | prepare (preparation : Preparation)
  | inspect
  | sleep (time : Nat)
  | refuseRegister
  | refuseRemoval
  | reactor
  | fire (handle : Nat) (observed : Interest)
  | farSend (bytes : List UInt8)
  | farReceive (count : Nat)
  | farClose
  | farSeesEnd
  | use (handle : Nat) (step : HandleStep)
  deriving DecidableEq, Repr

namespace Session

/-- A step's outcome, what was shown of the log, and the session after it. -/
structure Stepped where
  outcome : Outcome
  log : List LogLine := []
  session : Session

def seat? (session : Session) (number : Nat) : Option Seat :=
  (session.seats[number]?).join

def setSeat (session : Session) (number : Nat) (seat : Option Seat) : Session :=
  { session with seats := session.seats.set number seat }

def answer (session : Session) (answer : Answer) : Stepped :=
  { outcome := .answered answer, session }

def onHandle (session : Session) (number : Nat) (seat : Seat)
    (action : LinkM (Station Rig) Answer) : Stepped :=
  let (result, station) :=
    action.outcome { handle := seat.link.handle, world := session.rig }
  { outcome := .ofExcept result
    log := station.log.filter LogLine.isShown
    session :=
      { session with rig := station.world }.setSeat number
        (some (seat.withHandle station.handle)) }

def withReactor (session : Session) (number : Nat) (seat : Seat)
    (action : LinkM (Station Rig × Reactor) Unit) : Stepped :=
  let (result, station, reactor) :=
    action.outcome
      ({ handle := seat.link.handle, world := session.rig }, session.reactor)
  { outcome := .ofExcept (result.map fun _ => .done)
    log := station.log.filter LogLine.isShown
    session :=
      { session with rig := station.world, reactor }.setSeat number
        (some (seat.withHandle station.handle)) }

def onDevice (session : Session) (number : Nat) (seat : Seat)
    (action : LinkM (Attached Rig) Answer) : Stepped :=
  match seat.role with
  | .device device =>
      let (result, attached) :=
        action.outcome
          { device, station := { handle := seat.link.handle, world := session.rig } }
      { outcome := .ofExcept result
        log := attached.station.log.filter LogLine.isShown
        session :=
          { session with rig := attached.station.world }.setSeat number
            (some
              { seat.withHandle attached.station.handle with role := .device attached.device }) }
  | _ => { outcome := .notAttached, session }

def onFramed (session : Session) (number : Nat) (seat : Seat)
    (action : LinkConfig → LinkM (Station Rig) Answer) : Stepped :=
  match seat.role with
  | .framed config => session.onHandle number seat (action config)
  | _ => { outcome := .notAttached, session }

/-- Uses a handle as something else. -/
def assign (session : Session) (number : Nat) (seat : Seat) (role : Role) : Stepped :=
  (session.setSeat number (some { seat with role })).answer .done

/-- An operation without an answer of its own. -/
def finished {σ : Type} (action : LinkM σ Unit) : LinkM σ Answer := do
  action
  return .done

/-- Sends a request; once it is on the wire, its reply is pending. -/
def sendStep (session : Session) (number : Nat) (seat : Seat) (order : Order) : Stepped :=
  match order.resolve with
  | .error error => { outcome := .failed error, session }
  | .ok request =>
      let stepped := session.onDevice number seat do
        Device.send seat.link.transport request
        return .function request.function
      match stepped.outcome, stepped.session.seat? number with
      | .answered _, some seat =>
          { stepped with
            session :=
              stepped.session.setSeat number (some { seat with pending := some request }) }
      | _, _ => stepped

/-- Ends the pending transaction of a device. -/
def settlePending (session : Session) (number : Nat) (seat : Seat)
    (action : Request → LinkM (Attached Rig) Answer) : Stepped :=
  match seat.pending with
  | none => { outcome := .noPending, session }
  | some request =>
      session.onDevice number { seat with pending := none } (action request)

/-- Takes one step with a handle that was not dropped. -/
def useSeat (session : Session) (number : Nat) (seat : Seat) (step : HandleStep) :
    Option Stepped :=
  let transport := seat.link.transport
  let handle := seat.link.handle
  let onHandle := session.onHandle number seat
  let onDevice := session.onDevice number seat
  let onFramed := session.onFramed number seat
  match step with
  | .openLink mode => some (onHandle (finished (Handle.openLink transport mode)))
  | .closeLink => some (onHandle (finished (Handle.closeLink transport)))
  | .flush => some (onHandle (finished (Handle.flush transport)))
  | .drain => some (onHandle (finished (Handle.drain transport)))
  | .write bytes mode =>
      some (onHandle do return .count (← Handle.write transport bytes mode))
  | .writeAll bytes limit => some (onHandle (finished (Handle.writeAll transport bytes limit)))
  | .read room mode =>
      some (onHandle do return .taken room (← Handle.read transport room mode))
  | .setLineParams source =>
      some (onHandle (finished do
        Handle.setLineParams transport (← LinkM.ofExcept source.resolve)))
  | .setHandshakeLines rts dtr =>
      some (onHandle (finished (Handle.setHandshakeLines transport rts dtr)))
  | .charFormat => some (onHandle do return .format (← Handle.charFormat transport))
  | .transferTimeout bytes =>
      match (Handle.transferTimeout? transport bytes).outcome
          { handle, world := session.rig } with
      | (.ok (some time), station) =>
          some (answer { session with rig := station.world } (.milliseconds time))
      | _ => none
  | .queuedInput => some (onHandle do return .count (← Handle.queuedInput transport))
  | .logPackets on =>
      some (onHandle (finished (Station.setHandle fun handle =>
        { handle with packetLogging := on })))
  | .info => some (session.answer (.handle transport.backend handle))
  | .register wish =>
      some (session.withReactor number seat (Handle.registerForEvents transport wish))
  | .unregister => some (session.withReactor number seat Handle.unregisterFromEvents)
  | .drop =>
      let (flags, rig) := handle.drop transport session.rig
      let session := { session with rig, left := (number, flags) :: session.left }
      some ((session.setSeat number none).answer .done)
  | .attachDevice config => some (session.assign number seat (.device { config }))
  | .attachFramed config => some (session.assign number seat (.framed config))
  | .detach => some (session.assign number seat .bare)
  | .forget => some ((session.setSeat number (some { seat with pending := none })).answer .done)
  | .send order => some (session.sendStep number seat order)
  | .receive =>
      some (session.settlePending number seat fun request => do
        return .reply (← Device.receive transport request))
  | .cancel =>
      some (session.settlePending number seat fun _ => finished (Device.cancel transport))
  | .transact order =>
      some (onDevice do
        return .reply (← Device.transact transport (← LinkM.ofExcept order.resolve)))
  | .readCoils address count =>
      some (onDevice do return .coils (← Device.readCoils transport address count))
  | .readRegisters address count =>
      some (onDevice do return .registers (← Device.readRegisters transport address count))
  | .writeCoil address value =>
      some (onDevice (finished (Device.writeCoil transport address value)))
  | .writeRegisters address values =>
      some (onDevice (finished (Device.writeRegisters transport address values)))
  | .deviceInfo =>
      some (onDevice do return .device (← get).device.config handle.connection)
  | .sendPdu pdu => some (onFramed fun config => finished (FramedLink.sendPdu transport config pdu))
  | .readPart part total =>
      match seat.role with
      | .framed config =>
          match (FramedLink.receivePart transport config.readTimeout part total).outcome
              { handle, world := session.rig } with
          | (.ok received, station) =>
              some
                { outcome := .part total received
                  log := station.log.filter LogLine.isShown
                  session :=
                    { session with rig := station.world }.setSeat number
                      (some (seat.withHandle station.handle)) }
          | (.error error, _) => some { outcome := .failed error, session }
      | _ => some { outcome := .notAttached, session }
  | .readAddress =>
      some (onFramed fun config => do
        return .count (← FramedLink.readAddress transport config).toNat)
  | .readChecksum pdu =>
      some (onFramed fun config => finished (FramedLink.readChecksum transport config pdu))
  | .framedInfo => some (onFramed fun config => return .framed config handle.connection)

/-- Fires the entry of a handle, dropped or not. -/
def fireStep (session : Session) (number : Nat) (observed : Interest) : Stepped :=
  let seat? := session.seat? number
  let held := match seat? with
    | some seat => seat.link.handle.events.flags
    | none => (session.left.lookup number).getD {}
  let (verdict, flags, reactor) := session.reactor.fire held number observed
  let fired := match seat? with
    | some seat =>
        session.setSeat number (some (seat.withHandle (seat.link.handle.withFlags flags)))
    | none => { session with left := (number, flags) :: session.left }
  { outcome := .fired verdict (reactor.deliveredTo number), session := { fired with reactor } }

def withWire (session : Session) (wire : Wire) : Session :=
  { session with rig := session.rig.adjust fun bench => { bench with wire } }

/-- Takes one step; there is none if the session breaks down. -/
def step? (session : Session) : Step → Option Stepped
  | .prepare preparation =>
      some (answer { session with rig := preparation.apply session.rig } .done)
  | .inspect => some (session.answer (.script session.rig.world.script))
  | .sleep time =>
      some (answer
        { session with rig := session.rig.adjust (Bench.sleep time) } .done)
  | .refuseRegister =>
      some (answer
        { session with reactor := { session.reactor with refusesRegister := true } } .done)
  | .refuseRemoval =>
      some (answer
        { session with reactor := { session.reactor with refusesRemoval := true } } .done)
  | .reactor => some (session.answer (.reactor session.reactor session.seats.length))
  | .fire number observed => some (session.fireStep number observed)
  | .farSend bytes => do
      let wire ← session.rig.world.wire.farSend bytes
      return (session.withWire wire).answer .done
  | .farReceive count => do
      let (bytes, wire) ← session.rig.world.wire.farReceive count
      return (session.withWire wire).answer (.bytes bytes)
  | .farClose =>
      some ((session.withWire session.rig.world.wire.farClose).answer .done)
  | .farSeesEnd => do
      let gone ← session.rig.world.wire.farSeesEnd
      return session.answer (.flag gone)
  | .use number step =>
      match session.seat? number with
      | none =>
          some (if step.needsHandle then { outcome := .noHandle, session }
            else session.answer .done)
      | some seat => session.useSeat number seat step

/-- Takes steps in order; there is no result if one of them breaks down. -/
def run? (session : Session) : List Step → Option (List Stepped)
  | [] => some []
  | step :: rest => do
      let stepped ← session.step? step
      let later ← run? stepped.session rest
      return stepped :: later

/-- Adds a closed handle for each connection string, in order.  The log tells
what was ignored in them, up to the first one that cannot be used. -/
def addHandles (backends : List (Backend Rig)) (session : Session) :
    List String → Except LinkError Session × List LogLine
  | [] => (.ok session, [])
  | text :: rest =>
      match Connection.parse text with
      | .error error => (.error error, [])
      | .ok parsed =>
          let notices := parsed.notices text
          match (Backend.handleFor backends session.seats.length parsed.connection).outcome
              session.rig with
          | (.error error, _) => (.error error, notices)
          | (.ok link, rig) =>
              let (result, log) := addHandles backends
                { session with rig, seats := session.seats ++ [some { link }] } rest
              (result, notices ++ log)

end Session

end InstrumentLink
