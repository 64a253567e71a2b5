import InstrumentLink.Proofs.IsolatedTransactions
import InstrumentLink.Proofs.ReplyDecoding

/-!
# The errors of a transaction

A request that is out of range fails as the fault of the caller before anything
is touched.  From then on the caller is never to blame: over a link that is open
and works, a valid request is answered, or fails through the far end of the link
alone, whatever bytes it sends.
-/

namespace InstrumentLink

open LinkM

namespace Request

def InRange (request : Request) : Prop :=
  1 ≤ request.items ∧ request.items ≤ request.function.maxQuantity

instance (request : Request) : Decidable request.InRange :=
  inferInstanceAs (Decidable (_ ∧ _))

/-- How a request out of range is refused. -/
def rangeError (request : Request) : LinkError :=
  .argument (.quantityRange request.function request.items)

variable {request : Request}

theorem validate_of_inRange (hrange : request.InRange) : request.validate = .ok () :=
  (validate_eq_ok_iff request).mpr hrange

theorem validate_of_not_inRange (hrange : ¬request.InRange) :
    request.validate = .error request.rangeError := by
  rw [validate]
  exact if_neg hrange

theorem encode_of_not_inRange (hrange : ¬request.InRange) :
    request.encode = .error request.rangeError := by
  rw [encode, validate_of_not_inRange hrange]
  rfl

theorem checked_of_not_inRange (hrange : ¬request.InRange) :
    request.checked = .error request.rangeError := by
  rw [checked, validate_of_not_inRange hrange]
  rfl

theorem checked_of_inRange (hrange : request.InRange) : request.checked = .ok request := by
  rw [checked, validate_of_inRange hrange]
  rfl

end Request

namespace Request

open LinkError

variable {request : Request} {address : UInt8} {stream : List UInt8}

theorem remote_decodeFront (hvalid : request.validate = .ok ()) (address : UInt8)
    (stream : List UInt8) : Blames Remote (request.decodeFront address stream) := by
  rw [decodeFront]
  split
  · exact (blames_error _).mpr (.protocol trivial)
  · apply ((Frame.refusal_decode _).mono fun _ => Refusal.isRemote).bind
    intro frame
    exact remote_decodeReply hvalid frame.2

/-- A reply at the front of a stream is one that some bytes of it say. -/
theorem says_of_decodeFront {reply : Reply} (hvalid : request.validate = .ok ())
    (haccepted : request.decodeFront address stream = .ok reply) :
    ∃ bytes, Says request bytes reply := by
  rw [decodeFront] at haccepted
  split at haccepted
  · cases haccepted
  · cases hframe : Frame.decode (stream.take (request.frameLength stream)) with
    | error error =>
        rw [hframe] at haccepted
        cases haccepted
    | ok frame =>
        rw [hframe] at haccepted
        exact ⟨frame.2, (decodeReply_eq_ok_iff hvalid).mp haccepted⟩

end Request

def Primitive.asks : Primitive → Request
  | readCoils address count => .readCoils address count
  | readRegisters address count => .readRegisters address count
  | writeCoil address value => .writeCoil address value
  | writeRegisters address values => .writeRegisters address values

def Primitive.result {σ : Type} (transport : Transport σ) (attached : Attached σ) :
    Primitive → Except LinkError Unit
  | readCoils address count =>
      ((Device.readCoils transport address count).outcome attached).1.map fun _ => ()
  | readRegisters address count =>
      ((Device.readRegisters transport address count).outcome attached).1.map fun _ => ()
  | writeCoil address value =>
      ((Device.writeCoil transport address value).outcome attached).1.map fun _ => ()
  | writeRegisters address values =>
      ((Device.writeRegisters transport address values).outcome attached).1.map fun _ => ()

def Primitive.sort : Primitive → Reply → Except LinkError Unit
  | readCoils _ _, .coils _ => .ok ()
  | readRegisters _ _, .registers _ => .ok ()
  | writeCoil _ _, .coilWritten _ _ => .ok ()
  | writeRegisters _ _, .registersWritten _ _ => .ok ()
  | _, _ => .error (.protocol .unexpectedKind)

theorem Primitive.request_eq (primitive : Primitive) :
    primitive.request = primitive.asks.checked := by
  cases primitive <;> rfl

/-- A reply that was said in answer to its request is what a primitive waits for. -/
theorem Primitive.sort_of_says {primitive : Primitive} {bytes : List UInt8} {reply : Reply}
    (hsaid : Request.Says primitive.asks bytes reply) : primitive.sort reply = .ok () := by
  cases primitive <;> cases hsaid <;> rfl

namespace Device

variable {σ : Type} {transport : Transport σ} {request : Request} {attached : Attached σ}

/-- A request out of range is refused before anything is touched. -/
theorem send_of_not_inRange (hresting : attached.device.outstanding = false)
    (hrange : ¬request.InRange) :
    (send transport request).outcome attached = (.error request.rangeError, attached) := by
  have hframe : request.frame attached.device.config.address = .error request.rangeError := by
    rw [Request.frame, Request.encode_of_not_inRange hrange]
    rfl
  exact outcome_send_of_frame_error transport hresting hframe

theorem transact_of_not_inRange (hresting : attached.device.outstanding = false)
    (hrange : ¬request.InRange) :
    (transact transport request).outcome attached = (.error request.rangeError, attached) := by
  rw [transact, outcome_bind, send_of_not_inRange hresting hrange]

/-- The result of sorting out a reply follows from that of the transaction. -/
theorem result_of_sorted {α : Type} (asked : Except LinkError Request)
    {sort : Reply → LinkM (Attached σ) α} {sorted : Reply → Except LinkError Unit}
    (hsort : ∀ reply attached, ((sort reply).outcome attached).1.map (fun _ => ()) = sorted reply)
    (attached : Attached σ) :
    ((do
      let request ← LinkM.ofExcept asked
      let reply ← transact transport request
      sort reply).outcome attached).1.map (fun _ => ()) = (do
        let request ← asked
        let reply ← ((transact transport request).outcome attached).1
        sorted reply) := by
  cases asked with
  | error error => rfl
  | ok request =>
      -- An answer that is there already is no step of its own, on either side.
      change ((transact transport request >>= sort).outcome attached).1.map (fun _ => ()) =
        ((transact transport request).outcome attached).1 >>= sorted
      rw [outcome_bind]
      cases htransact : (transact transport request).outcome attached with
      | mk result after =>
          cases result with
          | ok reply => exact hsort reply after
          | error error => rfl

theorem result_of_primitive (primitive : Primitive) :
    primitive.result transport attached = (do
      let request ← primitive.request
      let reply ← ((transact transport request).outcome attached).1
      primitive.sort reply) := by
  cases primitive with
  | readCoils address count =>
      exact result_of_sorted _ (fun reply _ => by cases reply <;> rfl) attached
  | readRegisters address count =>
      exact result_of_sorted _ (fun reply _ => by cases reply <;> rfl) attached
  | writeCoil address value =>
      exact result_of_sorted (.ok _) (fun reply _ => by cases reply <;> rfl) attached
  | writeRegisters address values =>
      exact result_of_sorted _ (fun reply _ => by cases reply <;> rfl) attached

/-- A primitive checks its request before it begins a transaction. -/
theorem primitive_of_not_inRange {primitive : Primitive} (hrange : ¬primitive.asks.InRange) :
    primitive.result transport attached = .error primitive.asks.rangeError ∧
      primitive.after transport attached = attached := by
  have hrequest : primitive.request = .error primitive.asks.rangeError := by
    rw [primitive.request_eq, Request.checked_of_not_inRange hrange]
  constructor
  · rw [result_of_primitive, hrequest]
    rfl
  · rcases after_primitive transport primitive attached with hsame | ⟨request, hasked, _⟩
    · exact hsame
    · rw [hrequest] at hasked
      cases hasked

/-- A primitive succeeds if its transaction does, and fails as it does. -/
theorem blames_primitive {kind : LinkError → Prop} {primitive : Primitive}
    (hrange : primitive.asks.InRange)
    (htransact : Blames kind ((transact transport primitive.asks).outcome attached).1)
    (hsaid : ∀ reply, ((transact transport primitive.asks).outcome attached).1 = .ok reply →
      ∃ bytes, Request.Says primitive.asks bytes reply) :
    Blames kind (primitive.result transport attached) := by
  rw [result_of_primitive, primitive.request_eq, Request.checked_of_inRange hrange]
  change Blames kind (((transact transport primitive.asks).outcome attached).1 >>= primitive.sort)
  cases hresult : ((transact transport primitive.asks).outcome attached).1 with
  | error error =>
      rw [hresult, blames_error] at htransact
      exact (blames_error _).mpr htransact
  | ok reply =>
      obtain ⟨bytes, hbytes⟩ := hsaid reply hresult
      change Blames kind (primitive.sort reply)
      rw [Primitive.sort_of_says hbytes]
      exact blames_ok _

end Device

/-- Wherever a transaction looks into a buffer by position, the buffer is large
enough; the link is a scripted one where it takes part. -/
structure Request.BuffersSuffice (request : Request) : Prop where
  /-- There is room for a reply, which has a first byte. -/
  reply : ∀ first, 1 ≤ request.replyLength first ∧ request.replyLength first ≤ maxPduSize
  /-- The header to be repeated is a part of the request. -/
  header : ∀ pdu, request.encode = .ok pdu → headerLength ≤ pdu.bytes.length
  /-- Every item lies in the data that came. -/
  items : ∀ width declared data reply,
    Reply.decodeCounted request width (declared :: data) = .ok reply →
      ∀ position < request.quantity.toNat,
        match width with
        | .bit => position / 8 < data.length
        | .word => 2 * position + 1 < data.length
  /-- A part that is complete is as long as was asked for, and none is longer. -/
  parts : ∀ (timeout : Nat) (part : String) (total : Nat) (station : Station Scripted.State),
    Leads (FramedLink.receivePart Scripted.transport timeout part total) station
      (fun received _ => received.bytes.length ≤ total ∧
        (received.failure = none → received.bytes.length = total))
      (fun _ _ => False)
  written : ∀ (bytes : List UInt8) (mode : IoMode) (world : Scripted.State),
    Leads (Scripted.transport.write bytes mode) world
      (fun accepted _ => accepted ≤ bytes.length) (fun _ _ => False)

namespace Scripted

open Device State Request

variable {request : Request} {attached : Attached State}

/-- Whatever bytes come, and however they come, a transaction ends in a reply
that some of them say, or in an error of the far end. -/
theorem transact_of_usable (husable : Usable attached) (hrange : request.InRange) :
    Blames LinkError.Remote ((transact transport request).outcome attached).1 ∧
      ∀ reply, ((transact transport request).outcome attached).1 = .ok reply →
        ∃ bytes, Says request bytes reply := by
  have hvalid := validate_of_inRange hrange
  obtain ⟨_, sent, _, hsent, _, hhandle, _⟩ := outcome_send_of_usable husable hvalid
  have hopen : sent.station.handle.isOpen = true := by
    rw [hhandle, Handle.isOpen, husable.access]
    rfl
  rw [outcome_transact (congrArg Prod.fst hsent), hsent]
  rcases (received_of_receive hvalid hopen).decoded with htimeout | ⟨_, hdecoded⟩
  · cases hresult : ((receive transport request).outcome sent).1 with
    | ok reply =>
        rw [hresult] at htimeout
        exact htimeout.elim
    | error error =>
        rw [hresult] at htimeout
        refine ⟨(blames_error _).mpr ?_, fun _ hreply => by cases hreply⟩
        cases error with
        | timeout awaited limit => exact .timeout awaited limit
        | _ => cases htimeout
  · rw [hdecoded]
    exact ⟨remote_decodeFront hvalid _ _, fun _ hreply => says_of_decodeFront hvalid hreply⟩

theorem buffersSuffice_of_inRange (hrange : request.InRange) : request.BuffersSuffice where
  reply first := by
    have hbounds := replyLength_bounds (validate_of_inRange hrange) first
    omega
  header pdu hencode := by
    have hlength : headerLength ≤ request.wireLength := by
      cases request with
      | writeRegisters address values => exact Nat.le_trans (Nat.le_succ 5) (Nat.le_add_right 6 _)
      | _ => exact Nat.le_refl 5
    rwa [(encoded_of_encode hencode).length]
  items width declared data reply haccepted position hposition := by
    obtain ⟨_, _, hbody, _, hlength, _⟩ := Reply.decodeCounted_eq_ok_iff.mp haccepted
    obtain ⟨rfl, rfl⟩ := List.cons.inj hbody
    cases width with
    | bit =>
        simp only [ItemWidth.dataLength] at hlength
        omega
    | word =>
        simp only [ItemWidth.dataLength] at hlength
        omega
  parts timeout part total station := by
    apply (FramedLink.receivePart_leads (trail timeout) part total station).mono
    · intro received after hreceived
      obtain ⟨_, taken, _, hend⟩ := hreceived
      cases hfailure : received.failure with
      | none =>
          rw [hfailure] at hend
          exact ⟨Nat.le_of_eq hend.1, fun _ => hend.1⟩
      | some error =>
          rw [hfailure] at hend
          exact ⟨Nat.le_of_lt hend.1, fun hnone => by cases hnone⟩
    · intro _ _ hfalse
      exact hfalse
  written bytes mode world := Nat.le_refl _

end Scripted

open Device Scripted

/-- What can go wrong with a transaction.  Out of range, it is refused as the
fault of the caller, through any transport, and nothing is written or changed.
In range, over a scripted link that is usable, it is answered by what some bytes
say or fails by a breach of the protocol, an exception of the device or silence,
and no buffer is too small. -/
theorem transaction_errors (request : Request) :
    (¬request.InRange → ∀ {σ : Type} (transport : Transport σ) (attached : Attached σ),
      attached.device.outstanding = false →
        (send transport request).outcome attached = (.error request.rangeError, attached) ∧
        (transact transport request).outcome attached = (.error request.rangeError, attached) ∧
        ∀ primitive : Primitive, primitive.asks = request →
          primitive.result transport attached = .error request.rangeError ∧
            primitive.after transport attached = attached) ∧
    (request.InRange → request.BuffersSuffice ∧
      ∀ attached : Attached Scripted.State, Usable attached →
        Blames LinkError.Remote ((transact Scripted.transport request).outcome attached).1 ∧
        (∀ reply, ((transact Scripted.transport request).outcome attached).1 = .ok reply →
          ∃ bytes, request.Says bytes reply) ∧
        ∀ primitive : Primitive, primitive.asks = request →
          Blames LinkError.Remote (primitive.result Scripted.transport attached)) := by
  constructor
  · intro hrange σ transport attached hresting
    refine ⟨send_of_not_inRange hresting hrange, transact_of_not_inRange hresting hrange, ?_⟩
    rintro primitive rfl
    exact primitive_of_not_inRange hrange
  · intro hrange
    refine ⟨buffersSuffice_of_inRange hrange, ?_⟩
    intro attached husable
    obtain ⟨hremote, hsaid⟩ := transact_of_usable husable hrange
    refine ⟨hremote, hsaid, ?_⟩
    rintro primitive rfl
    exact blames_primitive hrange hremote hsaid

def noisy : Scripted.State :=
  { arrivals := [⟨3, [1, 3, 3, 0, 42, 104, 91]⟩], chunk := some 2 }

theorem transaction_errors_noise :
    ¬(Request.readRegisters 0 126).InRange ∧
      (send Scripted.transport (.readRegisters 0 126)).outcome (.opened {} {}) =
        (.error (.argument (.quantityRange .readRegisters 126)), .opened {} {}) ∧
      (Request.readRegisters 0 1).InRange ∧
      Usable (.opened {} noisy) ∧
      (Primitive.readRegisters 0 1).result Scripted.transport (.opened {} noisy) =
        .error (.protocol (.byteCount 3 2)) ∧
      Blames LinkError.Remote
        ((Primitive.readRegisters 0 1).result Scripted.transport (.opened {} noisy)) := by
  have hout : ¬(Request.readRegisters 0 126).InRange := by decide
  have hin : (Request.readRegisters 0 1).InRange := by decide
  have husable : Usable (.opened {} noisy) := ⟨rfl, rfl, Nat.succ_pos _⟩
  obtain ⟨hrefused, _⟩ := transaction_errors (.readRegisters 0 126)
  obtain ⟨_, hworks⟩ := transaction_errors (.readRegisters 0 1)
  exact ⟨hout, (hrefused hout Scripted.transport (.opened {} {}) rfl).1, hin, husable,
    by decide +kernel, ((hworks hin).2 _ husable).2.2 (.readRegisters 0 1) rfl⟩

end InstrumentLink
