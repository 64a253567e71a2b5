import InstrumentLink.Proofs.Conversation
import InstrumentLink.Proofs.RequestLayout
import InstrumentLink.Proofs.Silence
import InstrumentLink.Proofs.StreamedReception

/-!
# Transactions in a row

A transaction that fails discards what is left of its reply, and one that is
answered takes exactly its frame.  So on a link that brings nothing but the
reply to each request, every transaction of a sequence ends as it would on a
device of its own.
-/

namespace InstrumentLink

open LinkM

namespace Request

/-- What a reception makes of `input` if nothing else is to come. -/
def reception (request : Request) (config : LinkConfig) (input : List UInt8) :
    Except LinkError Reply :=
  if request.decisive config.address input ≤ input.length then
    request.decodeFront config.address input
  else .error (.timeout (request.awaits input) config.readTimeout)

end Request

namespace Device

variable {σ : Type} {transport : Transport σ} {request : Request}

/-- What a transaction comes to, for each of several requests in turn. -/
def transactions (transport : Transport σ) :
    List Request → Attached σ → List (Except LinkError Reply × Attached σ)
  | [], _ => []
  | request :: rest, attached =>
      (transact transport request).outcome attached ::
        transactions transport rest ((transact transport request).outcome attached).2

/-- Discarding unread bytes does not change the result of a reception. -/
theorem result_of_receive (transport : Transport σ) (request : Request) (attached : Attached σ) :
    ((receive transport request).outcome attached).1 =
      ((readReply transport request).outcome
        { attached with device := { attached.device with outstanding := false } }).1 := by
  refine (leads_iff_outcome _ _ fun result (_ : Attached σ) => result =
    ((readReply transport request).outcome
      { attached with device := { attached.device with outstanding := false } }).1).mp ?_
  simp only [receive, setOutstanding, leads_bind, leads_modify, leads_attempt]
  apply ((leads_iff_outcome (readReply transport request) _ fun result _ => result =
    ((readReply transport request).outcome
      { attached with device := { attached.device with outstanding := false } }).1).mpr rfl).mono
  · intro reply _ hresult
    exact hresult
  · intro error _ hresult
    split
    · next hreply => cases hreply
    · next hdevice =>
        cases hdevice
        exact hresult
    · next hfailure =>
        cases hfailure
        simp only [setState, onStation, leads_bind, leads_modify, leads_attempt, leads_within,
          leads_throw]
        exact (leads_iff_world _ _ fun _ => _).mpr hresult

end Device

namespace Scripted

open Device State

variable {request : Request} {config : LinkConfig} {before after : State}

theorem failsAloud : transport.FailsAloud := by
  intro room mode before error after hread
  exact (read_ne_error hread).elim

namespace State

variable {window : Nat} {state : State}

theorem stream_of_no_arrivals (hnone : state.arrivals = []) :
    state.stream window = state.input := by
  rw [stream_of_timely (by rw [hnone]; exact .nil), hnone, List.flatMap_nil, List.append_nil]

theorem readable_of_no_arrivals (hnone : state.arrivals = []) : state.readable = state.input := by
  rw [readable, settle_of_quiet hnone]

end State

/-- The script is the same, and a link that brings nothing of its own accord
still does not. -/
structure Undisturbed (before after : State) : Prop where
  script : after.script = before.script
  arrivals : before.arrivals = [] → after.arrivals = []

theorem Undisturbed.trans {between : State} (hfirst : Undisturbed before between)
    (hmore : Undisturbed between after) : Undisturbed before after :=
  ⟨hmore.script.trans hfirst.script, hmore.arrivals ∘ hfirst.arrivals⟩

theorem undisturbed_settle (state : State) : Undisturbed state state.settle := by
  refine ⟨rfl, ?_⟩
  intro hnone
  rw [settle_of_quiet hnone, hnone]

theorem undisturbed_of_read {room window : Nat} {bytes : List UInt8}
    (hread : read room (.blocking window) before = .ok bytes after) :
    Undisturbed before after := by
  have hsettled := undisturbed_settle before
  cases readEnd_of_read hread with
  | delivered _ => exact ⟨hsettled.script, hsettled.arrivals⟩
  | silent _ => exact ⟨hsettled.script, hsettled.arrivals⟩

def scriptTrail (timeout : Nat) : transport.Trail (FramedLink.window timeout) where
  Took before _ after := Undisturbed before after
  nothing _ := ⟨rfl, id⟩
  append := Undisturbed.trans
  read := undisturbed_of_read
  room := (trail timeout).room
  failure hread := (read_ne_error hread).elim

theorem undisturbed_of_flush (station : Station State) :
    ((Handle.flush transport).outcome station).2.handle = station.handle ∧
      Undisturbed station.world ((Handle.flush transport).outcome station).2.world := by
  apply Handle.flush_relates transport Undisturbed
  · intro _
    exact ⟨rfl, id⟩
  · intro world
    have hsettled := undisturbed_settle world
    exact ⟨hsettled.script, hsettled.arrivals⟩

/-- A reception changes neither the handle nor the script. -/
theorem undisturbed_of_receive (hvalid : request.validate = .ok ()) (attached : Attached State) :
    ((receive transport request).outcome attached).2.station.handle = attached.station.handle ∧
      Undisturbed attached.station.world
        ((receive transport request).outcome attached).2.station.world := by
  refine (leads_iff_world _ _ fun after : Attached State =>
    after.station.handle = attached.station.handle ∧
      Undisturbed attached.station.world after.station.world).mp ?_
  apply (receive_leads hvalid attached (scriptTrail _)).mono
  · intro reply after hdone
    obtain ⟨hhandle, taken, htook, _⟩ := hdone
    exact ⟨hhandle, htook⟩
  · intro error after hfailed
    obtain ⟨unread, hunread, hafter⟩ := hfailed
    obtain ⟨taken, htook⟩ := hunread.took
    rw [hafter]
    split
    · exact ⟨hunread.1, htook⟩
    · obtain ⟨hhandle, hflush⟩ := undisturbed_of_flush unread
      exact ⟨hhandle.trans hunread.1, Undisturbed.trans htook hflush⟩

/-- With everything there that is to come, a reading falls silent only at the end
of it, and names what would have had to follow. -/
theorem readReply_names_end (hvalid : request.validate = .ok ()) (attached : Attached State)
    (hopen : attached.station.handle.isOpen = true)
    (hqueued : attached.station.world.Queued
      (FramedLink.window attached.device.config.readTimeout)) :
    Leads (readReply transport request) attached (fun _ _ => True)
      (fun error _ => error.isTimeout = true → error = .timeout
        (request.awaits (attached.station.world.stream
          (FramedLink.window attached.device.config.readTimeout)))
        attached.device.config.readTimeout) := by
  apply ((readReply_leads hvalid attached (trail _)).and
    (readReply_names hvalid failsAloud attached (trail _))).mono
  · intro _ _ _
    trivial
  · intro error after hfailed htimeout
    obtain ⟨⟨hhandle, all, hend⟩, hnamed⟩ := hfailed
    obtain ⟨taken, awaited, htook, rfl, herror⟩ := hnamed htimeout
    rcases hend with ⟨_, _, hdecoded⟩ | ⟨_, hinterrupted⟩
    · have hspoken : ¬Device.TimedOut (request.decodeFront attached.device.config.address all) :=
        Request.not_timedOut_decodeFront all
      rw [hdecoded] at hspoken
      exact absurd htimeout hspoken
    · have hopenAfter : after.station.handle.isOpen = true := by rw [hhandle, hopen]
      obtain ⟨_, between, hall, hquiet⟩ := silent_of_interrupted hopenAfter hinterrupted
      have hnothing : between.stream _ = [] := (hall.queued hqueued).symm.trans hquiet
      have hwhole := hall.stream
      rw [hnothing, List.append_nil] at hwhole
      have hrest := hinterrupted.took.stream
      rw [hwhole, List.self_eq_append_right] at hrest
      rw [herror, htook.stream, hrest, List.append_nil]

/-- With everything there that is to come, a reception has only one end. -/
theorem result_of_queued (hvalid : request.validate = .ok ()) {attached : Attached State}
    (hopen : attached.station.handle.isOpen = true)
    (hqueued : attached.station.world.Queued
      (FramedLink.window attached.device.config.readTimeout)) :
    ((receive transport request).outcome attached).1 =
      request.reception attached.device.config
        (attached.station.world.stream (FramedLink.window attached.device.config.readTimeout)) := by
  have hreceived := received_of_receive hvalid hopen
  have htimedOut := hreceived.timedOut_iff hqueued
  rw [Request.reception]
  split
  · next henough =>
      rcases hreceived.decoded with htimeout | ⟨_, hdecoded⟩
      · exact absurd henough (Nat.not_le_of_lt (htimedOut.mp htimeout))
      · exact hdecoded
  · next hshort =>
      have htimeout := htimedOut.mpr (Nat.lt_of_not_le hshort)
      have hnames := readReply_names_end hvalid
        { attached with device := { attached.device with outstanding := false } } hopen hqueued
      rw [result_of_receive] at htimeout ⊢
      cases hresult : ((readReply transport request).outcome
          { attached with device := { attached.device with outstanding := false } }).1 with
      | ok reply =>
          rw [hresult] at htimeout
          cases htimeout
      | error error =>
          rw [hresult] at htimeout
          rw [hnames.of_error hresult htimeout]

/-- A scripted link takes a buffer in one write. -/
theorem writeAll_leads {station : Station State} {bytes : List UInt8} {limit : Nat}
    (hmode : station.handle.mode = some .readWrite) (hbytes : bytes ≠ []) (hlimit : 0 < limit) :
    Leads (Handle.writeAll transport bytes limit) station
      (fun _ after => after.handle = station.handle ∧ after.world = station.world.accept bytes)
      (fun _ _ => False) := by
  have hsome : ¬bytes.isEmpty = true := by simpa using hbytes
  have hremaining : transport.now station.world + limit - transport.now station.world ≠ 0 := by
    omega
  simp only [Handle.writeAll, leads_bind, leads_get]
  rw [Handle.writeRest]
  simp only [if_neg hsome, leads_bind, leads_get, if_neg hremaining]
  apply (Handle.write_leads_of_writable transport hmode hbytes _).mono
  · intro count after hdone
    obtain ⟨hhandle, hwrite⟩ := hdone
    obtain ⟨rfl, hworld⟩ := EStateM.Result.ok.inj hwrite
    rw [List.drop_length]
    unfold Handle.writeRest
    exact ⟨hhandle, hworld.symm⟩
  · intro _ _ hfailed
    cases hfailed.2

/-- A device that awaits nothing, over a link that is open for reading and
writing, with time to write. -/
structure Usable (attached : Attached State) : Prop where
  resting : attached.device.outstanding = false
  access : attached.station.handle.mode = some .readWrite
  time : 0 < attached.device.config.writeTimeout

/-- A valid request goes out in one write. -/
theorem outcome_send_of_usable {attached : Attached State} (husable : Usable attached)
    (hvalid : request.validate = .ok ()) :
    ∃ frame sent, request.frame attached.device.config.address = .ok frame ∧
      (Device.send transport request).outcome attached = (.ok (), sent) ∧
      sent.device.config = attached.device.config ∧
      sent.station.handle = attached.station.handle ∧
      sent.station.world = attached.station.world.accept frame := by
  obtain ⟨frame, hframe⟩ := Request.exists_frame hvalid attached.device.config.address
  obtain ⟨_, written, hwrite, hhandle, hworld⟩ :=
    (writeAll_leads husable.access (Request.ne_nil_of_frame hframe) husable.time).exists_ok
  have hsent := outcome_send_of_frame transport husable.resting hframe
  rw [hwrite] at hsent
  exact ⟨frame, _, hframe, hsent, rfl, hhandle, hworld⟩

/-- A device at rest, on a link open for reading and writing that holds no
input, and brings only what its script answers. -/
structure Ready (config : LinkConfig) (script : List Exchange) (attached : Attached State) :
    Prop where
  config : attached.device.config = config
  resting : attached.device.outstanding = false
  access : attached.station.handle.mode = some .readWrite
  script : attached.station.world.script = script
  input : attached.station.world.input = []
  arrivals : attached.station.world.arrivals = []

def Exchange.Serves (exchange : Exchange) (request : Request) (address : UInt8) : Prop :=
  ∀ frame, request.frame address = .ok frame → exchange.answers frame = true

variable {script : List Exchange} {exchange : Exchange} {attached : Attached State}

/-- A request that is sent finds its answer waiting. -/
theorem outcome_send (hready : Ready config (exchange :: script) attached)
    (hwrite : 0 < config.writeTimeout) (hvalid : request.validate = .ok ())
    (hserves : exchange.Serves request config.address) :
    ∃ sent, (Device.send transport request).outcome attached = (.ok (), sent) ∧
      sent.device.config = config ∧ sent.station.handle = attached.station.handle ∧
      sent.station.world.script = script ∧ sent.station.world.input = exchange.reply ∧
      sent.station.world.arrivals = [] := by
  rw [← hready.config] at hwrite
  obtain ⟨frame, sent, hframe, hsent, hconfig, hhandle, hworld⟩ :=
    outcome_send_of_usable ⟨hready.resting, hready.access, hwrite⟩ hvalid
  rw [hready.config] at hframe hconfig
  rw [accept_of_answers hready.arrivals hready.script (hserves frame hframe), hready.input,
    List.nil_append] at hworld
  refine ⟨sent, hsent, hconfig, hhandle, ?_⟩
  rw [hworld]
  exact ⟨rfl, rfl, hready.arrivals⟩

/-- A transaction on a ready device ends as its reply alone decides.  It leaves
the device ready for the next one, unless the reply goes on behind the frame
with which it was answered. -/
theorem transaction_of_ready (hready : Ready config (exchange :: script) attached)
    (hwrite : 0 < config.writeTimeout) (hvalid : request.validate = .ok ())
    (hserves : exchange.Serves request config.address) :
    ((transact transport request).outcome attached).1 =
        request.reception config exchange.reply ∧
      ((transact transport request).outcome attached).2.device.state =
        settledState (request.reception config exchange.reply) ∧
      ((Answered (request.reception config exchange.reply) →
          exchange.reply.length ≤ request.frameLength exchange.reply) →
        Ready config script ((transact transport request).outcome attached).2) := by
  obtain ⟨sent, hsent, hconfig, hhandle, hscript, hinput, harrivals⟩ :=
    outcome_send hready hwrite hvalid hserves
  have haccess : sent.station.handle.mode = some .readWrite := by rw [hhandle, hready.access]
  have hopen : sent.station.handle.isOpen = true := by rw [Handle.isOpen, haccess]; rfl
  have hstream : ∀ window, sent.station.world.stream window = exchange.reply := fun window => by
    rw [stream_of_no_arrivals harrivals, hinput]
  have hqueued : ∀ window, sent.station.world.Queued window := fun window => by
    rw [Queued, hstream, readable_of_no_arrivals harrivals, hinput]
  have hresult := result_of_queued hvalid hopen (hqueued _)
  have hreceived := received_of_receive hvalid hopen
  have hdevice := device_of_receive sparesDevice request sent
  obtain ⟨hhandleAfter, hundisturbed⟩ := undisturbed_of_receive hvalid sent
  rw [hstream, hconfig] at hresult
  rw [outcome_transact (congrArg Prod.fst hsent), hsent]
  rw [hresult] at hreceived hdevice
  refine ⟨hresult, congrArg Device.state hdevice, ?_⟩
  intro hexact
  have hnone := hundisturbed.arrivals harrivals
  refine ⟨?_, congrArg Device.outstanding hdevice, ?_, ?_, ?_, hnone⟩
  · rw [congrArg Device.config hdevice, hconfig]
  · rw [hhandleAfter, haccess]
  · rw [hundisturbed.script, hscript]
  · by_cases hanswered : Answered (request.reception config exchange.reply)
    · have hrest := (hreceived.answered hanswered).2
      rw [hstream, stream_of_no_arrivals hnone,
        List.drop_eq_nil_of_le (hexact hanswered)] at hrest
      exact hrest
    · rw [← readable_of_no_arrivals hnone]
      exact hreceived.discarded hanswered

structure Turn where
  request : Request
  exchange : Exchange

def Turn.alone (turn : Turn) (config : LinkConfig) (chunk : Option Nat) :
    Except LinkError Reply × Attached State :=
  (transact transport turn.request).outcome
    (.opened config { script := [turn.exchange], chunk := chunk })

/-- A valid request with its answer, which holds nothing behind the frame that
the device accepts, if it accepts one. -/
structure Turn.Proper (turn : Turn) (config : LinkConfig) (chunk : Option Nat) : Prop where
  valid : turn.request.validate = .ok ()
  serves : turn.exchange.Serves turn.request config.address
  exact : Answered (turn.alone config chunk).1 →
    turn.exchange.reply.length ≤ turn.request.frameLength turn.exchange.reply

theorem ready_opened (config : LinkConfig) (script : List Exchange) (chunk : Option Nat) :
    Ready config script (.opened config { script := script, chunk := chunk }) :=
  ⟨rfl, rfl, rfl, rfl, rfl, rfl⟩

/-- Each of several transactions in a row ends as it does alone, leaves the
device in the same state, and leaves nothing to read, however the earlier ones
failed. -/
theorem transactions_end_as_alone {chunk : Option Nat} {turns : List Turn}
    (hwrite : 0 < config.writeTimeout) (hproper : ∀ turn ∈ turns, turn.Proper config chunk)
    (hready : Ready config (turns.map Turn.exchange ++ script) attached) :
    (transactions transport (turns.map Turn.request) attached).map (fun ended =>
        (ended.1, ended.2.device.state, ended.2.station.world.input)) =
      turns.map fun turn =>
        ((turn.alone config chunk).1, (turn.alone config chunk).2.device.state, []) := by
  induction turns generalizing attached with
  | nil => rfl
  | cons turn turns ih =>
      obtain ⟨hturn, hrest⟩ := List.forall_mem_cons.mp hproper
      obtain ⟨haloneResult, haloneState, _⟩ := transaction_of_ready
        (ready_opened config [turn.exchange] chunk) hwrite hturn.valid hturn.serves
      obtain ⟨hresult, hstate, hnext⟩ :=
        transaction_of_ready hready hwrite hturn.valid hturn.serves
      have hexact := hturn.exact
      rw [Turn.alone, haloneResult] at hexact
      have hafter := hnext hexact
      simp only [List.map_cons, transactions, hresult, hstate, hafter.input, ih hrest hafter,
        Turn.alone, haloneResult, haloneState]

def mixedTurns : List Turn :=
  [⟨.readRegisters 0 1, ⟨none, [1, 3]⟩⟩,
    ⟨.readRegisters 7 1, ⟨none, [9, 9, 9, 9, 9, 9, 9, 9, 9]⟩⟩,
    ⟨.readRegisters 9 1, ⟨none, [1, 131, 2, 192, 241]⟩⟩,
    ⟨.readRegisters 5 1, ⟨none, [1, 3, 2, 0, 42, 57, 155]⟩⟩]

theorem transactions_end_as_alone_mixed :
    0 < LinkConfig.writeTimeout { readTimeout := 20 } ∧
    (∀ turn ∈ mixedTurns, turn.Proper { readTimeout := 20 } (some 1)) ∧
    (transactions transport (mixedTurns.map Turn.request)
        (.opened { readTimeout := 20 }
          { script := mixedTurns.map Turn.exchange ++ [], chunk := some 1 })).map (fun ended =>
      (ended.1, ended.2.device.state, ended.2.station.world.input)) =
      [(.error (.timeout (.reading "reply data" 0 3) 20), .timedOut, []),
        (.error (.protocol (.wrongAddress 9 1)), .idle, []),
        (.error (.device 3 .illegalDataAddress), .complete, []),
        (.ok (.registers [42]), .complete, [])] := by
  have hproper : ∀ turn ∈ mixedTurns, turn.Proper { readTimeout := 20 } (some 1) := by
    have hnoise : (Turn.alone ⟨.readRegisters 7 1, ⟨none, [9, 9, 9, 9, 9, 9, 9, 9, 9]⟩⟩
        { readTimeout := 20 } (some 1)).1 = .error (.protocol (.wrongAddress 9 1)) := by
      decide +kernel
    simp only [mixedTurns, List.forall_mem_cons]
    refine ⟨⟨rfl, fun _ _ => rfl, fun _ => by decide⟩, ⟨rfl, fun _ _ => rfl, ?_⟩,
      ⟨rfl, fun _ _ => rfl, fun _ => by decide⟩, ⟨rfl, fun _ _ => rfl, fun _ => by decide⟩,
      List.forall_mem_nil _⟩
    rw [hnoise]
    intro hanswered
    cases hanswered
  have hends := transactions_end_as_alone (by decide) hproper
    (ready_opened { readTimeout := 20 } (mixedTurns.map Turn.exchange ++ []) (some 1))
  exact ⟨by decide, hproper, hends.trans (by decide +kernel)⟩

end Scripted

end InstrumentLink
