import InstrumentLink.Proofs.PacketText
import InstrumentLink.Proofs.TransportUse
import InstrumentLink.Transport.Faulty
import InstrumentLink.Transport.Scripted
import InstrumentLink.Transport.SerialPort
import InstrumentLink.Transport.Socket

/-!
# The packet log as a transcript

A transport can be taped: what each of its transfers moved is noted, also when nothing was
moved or the transfer failed.  The packets that a handle logs are what the tape holds of the
time in which it was told to log them, whatever is done with it in the meantime: one line for
each transfer that moved bytes, in order.  Of the other lines some begin with the text of the
connection, and look like packets if that text does.
-/

namespace InstrumentLink

open LinkM Station
open Transport (Operation)

/-- What came of a transfer: the bytes that it moved, or why it failed. -/
structure Transfer where
  direction : Direction
  result : Except LinkError (List UInt8)

def Transfer.packet? (transfer : Transfer) : Option Packet :=
  match transfer.result with
  | .ok bytes => if bytes = [] then none else some { direction := transfer.direction, bytes }
  | .error _ => none

/-- A world in which all transfers of a transport are noted. -/
structure Taped (σ : Type) where
  world : σ
  transfers : List Transfer := []

namespace Taped

variable {σ α : Type}

def apart (action : LinkM σ α) : LinkM (Taped σ) α :=
  LinkM.within Taped.world (fun taped world => { taped with world }) action

def taping (direction : Direction) (bytes : α → List UInt8) (action : LinkM σ α) :
    LinkM (Taped σ) α := fun taped =>
  let tape (result : Except LinkError (List UInt8)) := taped.transfers ++ [{ direction, result }]
  match action taped.world with
  | .ok value world => .ok value { world, transfers := tape (.ok (bytes value)) }
  | .error error world => .error error { world, transfers := tape (.error error) }

def transport (transport : Transport σ) : Transport (Taped σ) where
  backend := transport.backend
  now taped := transport.now taped.world
  patience taped := transport.patience taped.world
  openLink mode := apart (transport.openLink mode)
  closeLink := apart transport.closeLink
  write bytes mode :=
    taping .send (fun accepted => bytes.take accepted) (transport.write bytes mode)
  read room mode := taping .receive id (transport.read room mode)
  setLineParams params := apart (transport.setLineParams params)
  setHandshakeLines rts dtr := apart (transport.setHandshakeLines rts dtr)
  charFormat := apart transport.charFormat
  queuedInput := apart transport.queuedInput
  flush := apart transport.flush
  drain := apart transport.drain
  eventSource := apart transport.eventSource
  release taped := { taped with world := transport.release taped.world }

theorem leads_taping (direction : Direction) (bytes : α → List UInt8) (action : LinkM σ α)
    (taped : Taped σ) :
    Leads (taping direction bytes action) taped
      (fun value after =>
        after.transfers = taped.transfers ++ [{ direction, result := .ok (bytes value) }])
      (fun error after =>
        after.transfers = taped.transfers ++ [{ direction, result := .error error }]) := by
  rw [Leads, taping]
  cases action taped.world <;> rfl

end Taped

/-- What is reported about opening a link tells of no packet and begins with no connection. -/
def Transport.ReportsNoPackets {σ : Type} (transport : Transport σ) : Prop :=
  ∀ mode world, Leads (transport.openLink mode) world
    (fun lines _ => ∀ line ∈ lines, line.isPacket = false ∧ line.about? = none) (fun _ _ => True)

/-- Transfers, each with whether packets were to be logged when it was made. -/
def Transfer.marked (on : Bool) (transfers : List Transfer) : List (Bool × Transfer) :=
  transfers.map fun transfer => (on, transfer)

def Transfer.logged (entries : List (Bool × Transfer)) : List Packet :=
  entries.filterMap fun entry => if entry.1 then entry.2.packet? else none

theorem Transfer.marked_append (on : Bool) (first more : List Transfer) :
    marked on (first ++ more) = marked on first ++ marked on more :=
  List.map_append

theorem Transfer.snd_marked (on : Bool) (transfers : List Transfer) :
    (marked on transfers).map Prod.snd = transfers := by
  simp [marked, Function.comp_def]

theorem Transfer.logged_append (first more : List (Bool × Transfer)) :
    logged (first ++ more) = logged first ++ logged more :=
  List.filterMap_append

theorem Handle.about_packets (handle : Handle) (backend : String) (direction : Direction)
    (bytes : List UInt8) : ∀ line ∈ handle.packets backend direction bytes, line.about? = none := by
  intro line hline
  rw [packets] at hline
  split at hline
  · rw [List.mem_singleton.mp hline]
    rfl
  · cases hline

theorem Handle.filter_packets (handle : Handle) (backend : String) (direction : Direction)
    (bytes : List UInt8) :
    (handle.packets backend direction bytes).filter LogLine.isPacket =
      (Transfer.logged (Transfer.marked handle.packetLogging
        [{ direction, result := .ok bytes }])).map (Packet.line backend) := by
  rw [packets]
  cases handle.packetLogging with
  | false => rfl
  | true => cases bytes <;> rfl

/-- A call is noted around what is asked for. -/
theorem Recorded.ask_transport {σ : Type} (number : Nat) (transport : Transport σ)
    (handle : Handle) (operation : Operation) :
    (Recorded.transport number transport).ask handle operation =
      noting number operation (transport.ask handle operation) := by
  have hnoting : ∀ {α : Type} (action : LinkM σ α) (lines : α → List LogLine),
      (do return lines (← noting number operation action)) =
        noting number operation (do return lines (← action)) := by
    intro α action lines
    funext recorded
    simp only [noting, bind, EStateM.bind, pure, EStateM.pure]
    cases action recorded.world <;> rfl
  cases operation <;> exact hnoting _ _

namespace Taped

variable {σ α : Type}

/-- What is added to the tape, and what a handle logs of it. -/
def Adds (backend : String) (handle : Handle) (before : Taped σ) (lines : List LogLine)
    (after : Taped σ) : Prop :=
  LogLine.AllAbout handle.connection lines ∧
    ∃ transfers, after.transfers = before.transfers ++ transfers ∧
      lines.filter LogLine.isPacket =
        (Transfer.logged (Transfer.marked handle.packetLogging transfers)).map (Packet.line backend)

variable {backend : String} {handle : Handle} {before after taped : Taped σ}
  {lines : List LogLine} {action : LinkM σ α}

theorem adds_nothing (hsame : after.transfers = before.transfers)
    (habout : LogLine.AllAbout handle.connection lines)
    (hlines : ∀ line ∈ lines, line.isPacket = false) : Adds backend handle before lines after := by
  refine ⟨habout, [], by rw [hsame, List.append_nil], ?_⟩
  rw [List.filter_eq_nil_iff.mpr fun line hline => by simp [hlines line hline]]
  rfl

/-- A failure is logged without a packet, if it is logged at all. -/
theorem Adds.complaint (h : Adds backend handle before [] after) (operation : Operation)
    (error : LinkError) : Adds backend handle before (operation.complaint handle error) after := by
  by_cases hqueue : operation = .queuedInput
  · subst hqueue
    refine ⟨?_, h.2⟩
    intro line hline other habout
    rw [List.mem_singleton.mp hline] at habout
    exact (Option.some.inj habout).symm
  · rwa [Operation.complaint_eq_nil hqueue]

/-- Nothing is noted of an operation that moves no bytes. -/
theorem adds_apart {report : α → List LogLine}
    (hlines : Leads action taped.world (fun value _ =>
      LogLine.AllAbout handle.connection (report value) ∧
        ∀ line ∈ report value, line.isPacket = false) (fun _ _ => True)) :
    Leads (do return report (← apart action)) taped (Adds backend handle taped)
      (fun _ => Adds backend handle taped []) := by
  rw [leads_bind, apart, leads_within]
  apply hlines.mono
  · intro value world hvalue
    exact adds_nothing rfl hvalue.1 hvalue.2
  · intro error world _
    exact adds_nothing rfl (LogLine.allAbout_of_none _ (by simp)) (by simp)

/-- A transfer is noted also if it fails, and then nothing is logged of it. -/
theorem adds_taping (handle : Handle) (direction : Direction) (bytes : α → List UInt8) :
    Leads (do return handle.packets backend direction (bytes (← taping direction bytes action)))
      taped (Adds backend handle taped) (fun _ => Adds backend handle taped []) := by
  rw [leads_bind]
  apply (leads_taping direction bytes action taped).mono
  · intro value after htape
    exact ⟨LogLine.allAbout_of_none _ (handle.about_packets backend direction _), _, htape,
      handle.filter_packets backend direction (bytes value)⟩
  · intro error after htape
    refine ⟨LogLine.allAbout_of_none _ (by simp), _, htape, ?_⟩
    cases handle.packetLogging <;> rfl

theorem leads_ask {transport : Transport σ} (hsilent : transport.ReportsNoPackets)
    (handle : Handle) (operation : Operation) (taped : Taped σ) :
    Leads ((Taped.transport transport).ask handle operation) taped
      (Adds transport.backend handle taped) (fun _ => Adds transport.backend handle taped []) := by
  have hquiet : ∀ {β : Type} (action : LinkM σ β) (lines : List LogLine),
      LogLine.AllAbout handle.connection lines → (∀ line ∈ lines, line.isPacket = false) →
      Leads (do let _ ← apart action; return lines) taped
        (Adds transport.backend handle taped) (fun _ => Adds transport.backend handle taped []) := by
    intro β action lines habout hlines
    exact adds_apart (leads_of_forall (fun _ _ => ⟨habout, hlines⟩) fun _ _ => trivial)
  cases operation with
  | openLink mode =>
      apply adds_apart
      apply (hsilent mode taped.world).mono
      · intro lines world hlines
        have hopened : ∀ line ∈ [LogLine.opened handle.connection mode transport.backend],
            line.isPacket = false ∧ line.about? = none := by simp [LogLine.isPacket, LogLine.about?]
        have hall := List.forall_mem_append.mpr ⟨hlines, hopened⟩
        exact ⟨LogLine.allAbout_of_none _ fun line hline => (hall line hline).2,
          fun line hline => (hall line hline).1⟩
      · intro _ _ _
        trivial
  | write bytes mode => exact adds_taping handle .send fun accepted => bytes.take accepted
  | read room mode => exact adds_taping handle .receive id
  | setLineParams params =>
      apply hquiet
      · intro line hline other habout
        rw [List.mem_singleton.mp hline] at habout
        exact (Option.some.inj habout).symm
      · intro line hline
        rw [List.mem_singleton.mp hline]
        rfl
  | closeLink =>
      apply hquiet
      · exact LogLine.allAbout_of_none _ (by simp [LogLine.about?])
      · simp [LogLine.isPacket]
  | _ => exact hquiet _ _ (LogLine.allAbout_of_none _ (by simp)) (by simp)

end Taped

/-! ### Stations -/

namespace Station

variable {σ : Type}

def tape (station : Station (Recorded (Taped σ))) : List Transfer := station.world.world.transfers

/-- What was moved is in the log, if packets are logged; which they are as they were, and the
connection is the same. -/
structure Transcribed (backend : String) (before after : Station (Recorded (Taped σ))) : Prop where
  logging_eq : after.handle.packetLogging = before.handle.packetLogging
  connection_eq : after.handle.connection = before.handle.connection
  exists_lines : ∃ lines, after.log = before.log ++ lines ∧
    Taped.Adds backend before.handle before.world.world lines after.world.world

variable {backend : String} {before between after : Station (Recorded (Taped σ))}

theorem transcribed_of_eq (hlogging : after.handle.packetLogging = before.handle.packetLogging)
    (hconnection : after.handle.connection = before.handle.connection)
    (htape : after.tape = before.tape) (hlog : after.log = before.log) :
    Transcribed backend before after where
  logging_eq := hlogging
  connection_eq := hconnection
  exists_lines :=
    ⟨[], by rw [hlog, List.append_nil],
      Taped.adds_nothing htape (LogLine.allAbout_of_none _ (by simp)) (by simp)⟩

theorem Transcribed.trans (hfirst : Transcribed backend before between)
    (hthen : Transcribed backend between after) : Transcribed backend before after where
  logging_eq := hthen.logging_eq.trans hfirst.logging_eq
  connection_eq := hthen.connection_eq.trans hfirst.connection_eq
  exists_lines := by
    obtain ⟨first, hbetween, habout, moved, htape, hpackets⟩ := hfirst.exists_lines
    obtain ⟨more, hafter, hmore, later, hlater, hmorePackets⟩ := hthen.exists_lines
    rw [hfirst.connection_eq] at hmore
    rw [hfirst.logging_eq] at hmorePackets
    refine ⟨first ++ more, by rw [hafter, hbetween, List.append_assoc], habout.append hmore,
      moved ++ later, by rw [hlater, htape, List.append_assoc], ?_⟩
    rw [List.filter_append, hpackets, hmorePackets, Transfer.marked_append, Transfer.logged_append,
      List.map_append]

variable {transport : Transport σ} {number : Nat}

theorem packetLogging_settle (handle : Handle) (operation : Operation) (succeeded : Bool) :
    (operation.settle handle succeeded).packetLogging = handle.packetLogging := by
  cases operation <;> cases succeeded <;> rfl

theorem connection_settle (handle : Handle) (operation : Operation) (succeeded : Bool) :
    (operation.settle handle succeeded).connection = handle.connection := by
  cases operation <;> cases succeeded <;> rfl

theorem transcribed_called (hsilent : transport.ReportsNoPackets) (operation : Operation)
    (station : Station (Recorded (Taped σ))) :
    Transcribed transport.backend station
      (station.called (Recorded.transport number (Taped.transport transport)) operation) := by
  let taped := station.world.world
  have hasked : Leads ((Recorded.transport number (Taped.transport transport)).ask station.handle
      operation) station.world
      (fun lines after => Taped.Adds transport.backend station.handle taped lines after.world)
      (fun _ after => Taped.Adds transport.backend station.handle taped [] after.world) := by
    rw [Recorded.ask_transport, Recorded.leads_noting_iff]
    exact Taped.leads_ask hsilent station.handle operation taped
  rw [Leads] at hasked
  rw [called]
  split at hasked
  · next lines world hask =>
      rw [hask]
      exact ⟨packetLogging_settle _ _ true, connection_settle _ _ true, lines, rfl, hasked⟩
  · next error world hask =>
      rw [hask]
      exact ⟨packetLogging_settle _ _ false, connection_settle _ _ false, _, rfl,
        hasked.complaint operation error⟩

/-- What becomes of a station that opens or closes its link, or refuses to. -/
theorem transcribed_of_call (hsilent : transport.ReportsNoPackets) {operation : Operation}
    (hcall : after = before ∨ operation.Permitted before.handle.mode ∧
      after = before.called (Recorded.transport number (Taped.transport transport)) operation) :
    Transcribed transport.backend before after := by
  rcases hcall with rfl | ⟨-, rfl⟩
  · exact transcribed_of_eq rfl rfl rfl rfl
  · exact transcribed_called hsilent operation before

theorem transcribed_of_moves (hsilent : transport.ReportsNoPackets)
    (hmoves : Moves (Recorded.transport number (Taped.transport transport)) before after) :
    Transcribed transport.backend before after := by
  induction hmoves with
  | refl => exact transcribed_of_eq rfl rfl rfl rfl
  | tail _ hmove ih =>
      cases hmove with
      | call _ _ => exact ih.trans (transcribed_called hsilent _ _)
      | adjust events => exact ih.trans (transcribed_of_eq rfl rfl rfl rfl)

end Station

namespace Use

variable {σ : Type}

def logging (on : Bool) : Use σ → Bool
  | logPackets wanted => wanted
  | _ => on

def transfers (transport : Transport (Recorded (Taped σ)))
    (attached : Attached (Recorded (Taped σ))) (use : Use (Taped σ)) : List Transfer :=
  (use.after transport attached).station.tape.drop attached.station.tape.length

/-- All transfers of a run, use by use, each with whether packets were to be logged when it was
made. -/
def ledger (transport : Transport (Recorded (Taped σ))) (on : Bool)
    (attached : Attached (Recorded (Taped σ))) : List (Use (Taped σ)) → List (Bool × Transfer)
  | [] => []
  | use :: rest =>
      Transfer.marked on (use.transfers transport attached) ++
        ledger transport (use.logging on) (use.after transport attached) rest

variable {transport : Transport σ} {number : Nat} {attached : Attached (Recorded (Taped σ))}

/-- A use that does not turn the packet log on or off. -/
theorem transcribed_after (hsilent : transport.ReportsNoPackets) {use : Use (Taped σ)}
    (hlogs : ∀ on, use ≠ .logPackets on)
    (hmeanwhile : ∀ change, use = .meanwhile change → ∀ taped : Taped σ,
      (change taped).transfers = taped.transfers) :
    Transcribed transport.backend attached.station
      (use.after (Recorded.transport number (Taped.transport transport)) attached).station := by
  by_cases hmoves : use.MakesMoves
  · exact transcribed_of_moves hsilent (moves_after _ attached hmoves)
  · cases use with
    | openLink mode =>
        rw [after, station_onHandle]
        exact transcribed_of_call hsilent (Handle.after_openLink _ mode attached.station)
    | closeLink =>
        rw [after, station_onHandle]
        exact transcribed_of_call hsilent (Handle.after_closeLink _ attached.station)
    | logPackets on => exact absurd rfl (hlogs on)
    | meanwhile change =>
        rw [after, station_onHandle]
        exact transcribed_of_eq rfl rfl (hmeanwhile change rfl attached.station.world.world) rfl
    | _ => exact absurd trivial hmoves

variable (number) (attached)

/-- What a use adds to the tape and to the log, and what it leaves of the handle. -/
theorem logged_after (hsilent : transport.ReportsNoPackets) (use : Use (Taped σ))
    (hmeanwhile : ∀ change, use = .meanwhile change → ∀ taped : Taped σ,
      (change taped).transfers = taped.transfers) :
    let link := Recorded.transport number (Taped.transport transport)
    let station := (use.after link attached).station
    let handle := attached.station.handle
    let transfers := use.transfers link attached
    station.handle.packetLogging = use.logging handle.packetLogging ∧
      station.handle.connection = handle.connection ∧
      station.tape = attached.station.tape ++ transfers ∧
      ∃ lines, station.log = attached.station.log ++ lines ∧
        LogLine.AllAbout handle.connection lines ∧
        lines.filter LogLine.isPacket =
          (Transfer.logged (Transfer.marked handle.packetLogging transfers)).map
            (Packet.line transport.backend) := by
  intro link station handle transfers
  by_cases hlogs : ∃ wanted, use = .logPackets wanted
  · obtain ⟨wanted, rfl⟩ := hlogs
    have hnone : transfers = [] := List.drop_length
    rw [hnone]
    exact ⟨rfl, rfl, (List.append_nil _).symm, [], (List.append_nil _).symm,
      LogLine.allAbout_of_none _ (by simp), rfl⟩
  · rw [not_exists] at hlogs
    have hstep : Transcribed transport.backend attached.station station :=
      transcribed_after hsilent hlogs hmeanwhile
    have hon : use.logging handle.packetLogging = handle.packetLogging := by
      cases use with
      | logPackets wanted => exact absurd rfl (hlogs wanted)
      | _ => rfl
    obtain ⟨lines, hlog, habout, moved, htape, hpackets⟩ := hstep.exists_lines
    have htransfers : transfers = moved := by
      rw [show transfers = station.tape.drop attached.station.tape.length from rfl,
        show station.tape = attached.station.tape ++ moved from htape, List.drop_left]
    rw [htransfers]
    exact ⟨hstep.logging_eq.trans hon.symm, hstep.connection_eq, htape, lines, hlog, habout,
      hpackets⟩

/-- The induction is on the uses: each of them adds its transfers to the tape, and those that
are to be logged to the log. -/
theorem logged_run (hsilent : transport.ReportsNoPackets) {uses : List (Use (Taped σ))}
    (hmeanwhile : ∀ change, .meanwhile change ∈ uses → ∀ taped : Taped σ,
      (change taped).transfers = taped.transfers) :
    let link := Recorded.transport number (Taped.transport transport)
    let station := (run link attached uses).station
    let handle := attached.station.handle
    let entries := ledger link handle.packetLogging attached uses
    station.tape = attached.station.tape ++ entries.map Prod.snd ∧
      ∃ lines, station.log = attached.station.log ++ lines ∧
        LogLine.AllAbout handle.connection lines ∧
        lines.filter LogLine.isPacket =
          (Transfer.logged entries).map (Packet.line transport.backend) := by
  intro link
  induction uses generalizing attached with
  | nil =>
      exact ⟨(List.append_nil _).symm, [], (List.append_nil _).symm,
        LogLine.allAbout_of_none _ (by simp), rfl⟩
  | cons use rest ih =>
      obtain ⟨hon, hconnection, htape, first, hlog, habout, hpackets⟩ :=
        logged_after number attached hsilent use
          fun change huse => hmeanwhile change (huse ▸ List.mem_cons_self)
      obtain ⟨hmoved, more, hlines, hmore, hmorePackets⟩ := ih (use.after link attached)
        fun change hchange => hmeanwhile change (List.mem_cons_of_mem use hchange)
      rw [hon, htape, List.append_assoc] at hmoved
      rw [hlog, List.append_assoc] at hlines
      rw [hconnection] at hmore
      rw [hon] at hmorePackets
      refine ⟨hmoved.trans (congrArg _ ?_), first ++ more, hlines, habout.append hmore, ?_⟩
      · rw [ledger, List.map_append, Transfer.snd_marked]
      · rw [List.filter_append, hpackets, hmorePackets, ← List.map_append, ← Transfer.logged_append]
        rfl

end Use

section Opening

theorem Scripted.reportsNoPackets : Scripted.transport.ReportsNoPackets := by
  intro mode state
  rw [Leads, Scripted.transport]
  dsimp only
  cases state.refusesOpen with
  | false => exact List.forall_mem_nil _
  | true => trivial

variable {τ : Type}

theorem Socket.reportsNoPackets (network : Network τ) (host port : String) :
    (Socket.transport network host port).ReportsNoPackets := by
  intro mode socket
  simp only [Socket.transport, onNetwork, leads_bind, leads_within, leads_modify, leads_pure]
  exact leads_of_forall (fun _ _ => List.forall_mem_singleton.mpr ⟨rfl, rfl⟩) fun _ _ => trivial

theorem SerialPort.reportsNoPackets (system : PortSystem τ) (path : String) :
    (SerialPort.transport system path).ReportsNoPackets := by
  intro mode port
  simp only [SerialPort.transport, onSystem, leads_bind, leads_within, leads_modify, leads_pure]
  exact leads_of_forall (fun _ _ => List.forall_mem_singleton.mpr ⟨rfl, rfl⟩) fun _ _ => trivial

/-- A fault reports nothing. -/
theorem Transport.ReportsNoPackets.faulty {transport : Transport τ}
    (hsilent : transport.ReportsNoPackets) (sleep : Nat → τ → τ) (settle : τ → τ) :
    (transport.faulty sleep settle).ReportsNoPackets := by
  intro mode faulty
  simp only [Transport.faulty, Faulty.guarded, Faulty.inner, leads_bind, leads_within]
  exact leads_of_forall (fun _ met => hsilent mode met.world) fun _ _ => trivial

end Opening

namespace Use

variable {σ : Type}

/-- The packet log is a transcript.  Whatever is done with a handle whose connection does not
look like a packet, every line that it adds to the log and that looks like a packet can be
read, and these lines tell what its transport moved while packets were to be logged: each
transfer that moved bytes, in order and with exactly the bytes that were accepted or returned,
and nothing else.  Whatever the connection looks like, the same holds of the lines that can be
read as packets, if there is no colon in the name of the backend.  A dump has two digits for
each byte and a blank between two bytes, and no two lists of bytes have the same one.  The
transport must not report packets of its own when it is opened, and none of the links here
does. -/
theorem packet_log_is_transcript :
    (∀ (transport : Transport σ) (number : Nat) (attached : Attached (Recorded (Taped σ)))
        (uses : List (Use (Taped σ))),
      transport.ReportsNoPackets →
      (∀ change, .meanwhile change ∈ uses → ∀ taped : Taped σ,
        (change taped).transfers = taped.transfers) →
      let link := Recorded.transport number (Taped.transport transport)
      let station := (run link attached uses).station
      let entries := ledger link attached.station.handle.packetLogging attached uses
      station.tape = attached.station.tape ++ entries.map Prod.snd ∧
        (¬attached.station.handle.connection.Imitates →
          packetsTold transport.backend station.log =
            packetsTold transport.backend attached.station.log ++
              (Transfer.logged entries).map some) ∧
        (':' ∉ transport.backend.toList →
          packetsRead transport.backend station.log =
            packetsRead transport.backend attached.station.log ++ Transfer.logged entries)) ∧
    (∀ bytes : List UInt8, bytes ≠ [] → (Hex.packet bytes).length = 3 * bytes.length - 1) ∧
    Function.Injective Hex.packet ∧
    Scripted.transport.ReportsNoPackets ∧
    (∀ (network : Network σ) (host port : String),
      (Socket.transport network host port).ReportsNoPackets) ∧
    (∀ (system : PortSystem σ) (path : String),
      (SerialPort.transport system path).ReportsNoPackets) ∧
    ∀ (transport : Transport σ) (sleep : Nat → σ → σ) (settle : σ → σ),
      transport.ReportsNoPackets → (transport.faulty sleep settle).ReportsNoPackets := by
  refine ⟨?_, fun bytes => Hex.length_packet, Hex.packet_injective, Scripted.reportsNoPackets,
    Socket.reportsNoPackets, SerialPort.reportsNoPackets, fun _ sleep settle hsilent =>
      hsilent.faulty sleep settle⟩
  intro transport number attached uses hsilent hmeanwhile link station entries
  obtain ⟨htape, lines, hlog, habout, hpackets⟩ := logged_run number attached hsilent hmeanwhile
  refine ⟨htape, ?_, ?_⟩
  · intro hplain
    rw [show station.log = attached.station.log ++ lines from hlog]
    exact packetsTold_append hplain habout hpackets
  · intro hname
    rw [show station.log = attached.station.log ++ lines from hlog]
    exact packetsRead_append hname hpackets

/-- Packets before they are logged and after, a write that is cut short, a read that
returns nothing and one that fails, and a request that is answered. -/
theorem packet_log_is_transcript_faulty :
    let request : List UInt8 := [0x01, 0x03, 0x00, 0x00, 0x00, 0x01, 0x84, 0x0A]
    let reply : List UInt8 := [0x01, 0x03, 0x02, 0x12, 0x34, 0xB5, 0x33]
    let transport :=
      Scripted.transport.faulty (fun time state => state.sleep time) Scripted.State.settle
    let uses : List (Use (Taped (Faulty Scripted.State))) :=
      [.openLink .readWrite, .write [0x7F] .nonBlocking, .logPackets true,
        .writeAll [0xA0, 0x0B, 0xFF] 50,
        .meanwhile fun taped =>
          { taped with world := { taped.world with world := taped.world.world.push [0x00, 0x10] } },
        .read 8 .nonBlocking, .read 8 .nonBlocking, .read 8 .nonBlocking,
        .transact (.readRegisters 0 1), .logPackets false, .write [0x7F] .nonBlocking, .closeLink]
    let faulty : Faulty Scripted.State :=
      { world := { script := [⟨some request, reply⟩] }
        faults :=
          [(.write, {}), (.write, { short := some 2 }), (.read, { short := some 0 }),
            (.read, { error := some (.transport (.other "unplugged")) })] }
    let attached : Attached (Recorded (Taped (Faulty Scripted.State))) :=
      { device := { config := {} }
        station :=
          { handle := { key := 0, connection := .serial "/dev/ttyMOCK0" }
            world := { world := { world := faulty } } } }
    let told : List Packet :=
      [⟨.send, [0xA0, 0x0B]⟩, ⟨.send, [0xFF]⟩, ⟨.receive, [0x00, 0x10]⟩, ⟨.send, request⟩,
        ⟨.receive, [0x01]⟩, ⟨.receive, [0x03]⟩, ⟨.receive, [0x02, 0x12, 0x34]⟩,
        ⟨.receive, [0xB5, 0x33]⟩]
    let log := (run (Recorded.transport 0 (Taped.transport transport)) attached uses).station.log
    transport.ReportsNoPackets ∧
      (∀ change, .meanwhile change ∈ uses → ∀ taped : Taped (Faulty Scripted.State),
        (change taped).transfers = taped.transfers) ∧
      ¬attached.station.handle.connection.Imitates ∧ ':' ∉ transport.backend.toList ∧
      packetsTold transport.backend log = told.map some ∧
      packetsRead transport.backend log = told := by
  intro request reply transport uses faulty attached told log
  obtain ⟨-, -, -, hscripted, -⟩ := packet_log_is_transcript (σ := Scripted.State)
  have hsilent : transport.ReportsNoPackets := hscripted.faulty _ _
  have hmeanwhile : ∀ change, .meanwhile change ∈ uses → ∀ taped : Taped (Faulty Scripted.State),
      (change taped).transfers = taped.transfers := by
    intro change hchange taped
    simp only [uses, List.mem_cons, reduceCtorEq, Use.meanwhile.injEq, false_or,
      List.not_mem_nil, or_false] at hchange
    rw [hchange]
  have hplain : ¬attached.station.handle.connection.Imitates := by
    decide
  have hname : ':' ∉ transport.backend.toList := by
    decide
  obtain ⟨hrun, -⟩ := packet_log_is_transcript (σ := Faulty Scripted.State)
  obtain ⟨-, htold, hread⟩ := hrun transport 0 attached uses hsilent hmeanwhile
  refine ⟨hsilent, hmeanwhile, hplain, hname, ?_, ?_⟩
  · rw [show packetsTold transport.backend log = _ from htold hplain]
    decide +kernel
  · rw [show packetsRead transport.backend log = _ from hread hname]
    decide +kernel

/-- A serial device whose path looks like a packet: once line parameters were applied, a line
of the log begins like a packet that was received, although nothing was moved and packets were
not to be logged. -/
theorem imitated_packet :
    let attached : Attached (Recorded (Taped Scripted.State)) :=
      { device := { config := {} }
        station :=
          { handle := { key := 0, connection := .serial "[LINK-mock] recv 01" }
            world := { world := { world := {} } } } }
    let uses : List (Use (Taped Scripted.State)) := [.openLink .readWrite, .setLineParams {}]
    let link := Recorded.transport 0 (Taped.transport Scripted.transport)
    let station := (run link attached uses).station
    Scripted.transport.ReportsNoPackets ∧ station.handle.packetLogging = false ∧
      ledger link false attached uses = [] ∧
      packetTexts station.log = ["DEBUG [LINK-mock] recv 01: frame parameters 9600/8n1"] ∧
      packetsTold Scripted.transport.backend station.log ≠ [] := by
  intro attached uses link station
  refine ⟨Scripted.reportsNoPackets, rfl, rfl, ?_, ?_⟩
  · decide +kernel
  · decide +kernel

end Use

end InstrumentLink
