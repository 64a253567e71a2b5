import InstrumentLink.Proofs.Blame
import InstrumentLink.Proofs.Sending

/-!
# The status of a device after an operation

How far a reply has come is noted in several places while it is read, and a
reading can fail between any two of them.  The statements here say what is
noted when an operation is over, for any transport whose reads do not report
exceptions of the device on their own account.
-/

namespace InstrumentLink

open LinkM

variable {σ : Type} {transport : Transport σ}

/-- A read that fails does not speak for the device. -/
def Transport.SparesDevice (transport : Transport σ) : Prop :=
  ∀ {room mode before error after},
    transport.read room mode before = .error error after → error.exceptionCode? = none

namespace FramedLink

/-- The induction is on the reads in hand, as in `gather`. -/
theorem gather_spares (hread : transport.SparesDevice) (timeout : Nat) (part : String)
    (total calls since : Nat) (got : List UInt8) (station : Station σ) :
    Leads (gather transport timeout part total calls since got) station
      (fun received _ => ∀ error, received.failure = some error → error.exceptionCode? = none)
      (fun _ _ => False) := by
  have hnone : ∀ bytes : List UInt8, ∀ error,
      (Received.mk bytes none).failure = some error → error.exceptionCode? = none := by
    intro _ error hfailure
    cases hfailure
  induction calls generalizing since got station with
  | zero =>
      rw [gather]
      split
      · exact hnone got
      · intro error hfailure
        cases hfailure
        rfl
  | succ calls ih =>
      rw [gather]
      split
      · exact hnone got
      · simp only [leads_bind, leads_attempt, leads_get]
        apply (Handle.read_leads transport _ _ station).mono
        · intro bytes after _
          cases bytes with
          | nil =>
              dsimp only
              split
              · intro error hfailure
                cases hfailure
                rfl
              · exact ih since got after
          | cons first more => exact ih _ _ after
        · intro error after hfailed other hfailure
          cases hfailure
          cases hfailed with
          | closed _ => rfl
          | noRoom _ => rfl
          | transport hfailedRead => exact hread hfailedRead

theorem readExact_spares (hread : transport.SparesDevice) (timeout : Nat) (part : String)
    (total : Nat) (station : Station σ) :
    Leads (readExact transport timeout part total) station (fun _ _ => True)
      (fun error _ => error.exceptionCode? = none) := by
  simp only [readExact, receivePart, leads_bind, leads_get]
  apply (gather_spares hread timeout part total _ _ [] station).mono
  · intro received after hspared
    cases hfailure : received.failure with
    | none => trivial
    | some error => exact hspared error hfailure
  · intro _ _ hfalse
    exact hfalse.elim

theorem readAddress_spares (hread : transport.SparesDevice) (config : LinkConfig)
    (station : Station σ) :
    Leads (readAddress transport config) station (fun _ _ => True)
      (fun error _ => error.exceptionCode? = none) := by
  simp only [readAddress, leads_bind]
  apply (readExact_spares hread _ _ _ station).mono
  · intro bytes after _
    split
    · rfl
    · trivial
  · intro error after hspared
    exact hspared

theorem readChecksum_spares (hread : transport.SparesDevice) (config : LinkConfig)
    (pdu : List UInt8) (station : Station σ) :
    Leads (readChecksum transport config pdu) station (fun _ _ => True)
      (fun error _ => error.exceptionCode? = none) := by
  simp only [readChecksum, leads_bind]
  apply (readExact_spares hread _ _ _ station).mono
  · intro bytes after _
    apply (leads_ofExcept _ _ _ _).mpr
    constructor
    · intro _ _
      trivial
    · intro error hverify
      exact (Frame.blames_verify _ _ _ error hverify).2
  · intro error after hspared
    exact hspared

end FramedLink

namespace Device

/-- Reading the message body notes its completion, and nothing else once it is
over. -/
theorem accumulate_status (hread : transport.SparesDevice) (request : Request)
    (attached : Attached σ) :
    Leads (accumulate transport request) attached
      (fun _ after => after.device = { attached.device with state := .complete })
      (fun error after => error.exceptionCode? = none ∧
        ∃ state, after.device = { attached.device with state }) := by
  simp only [accumulate, setState, onStation, leads_bind, leads_get, leads_modify, leads_within]
  apply (FramedLink.readExact_spares hread _ _ _ attached.station).mono
  · intro bytes station _
    split
    · exact ⟨rfl, _, rfl⟩
    · simp only [leads_bind, leads_modify, leads_within]
      apply (FramedLink.readExact_spares hread _ _ _ station).mono
      · intro rest last _
        apply (leads_ofExcept _ _ _ _).mpr
        constructor
        · intro _ _
          rfl
        · intro error hlong
          exact ⟨(Pdu.blames_ofBytes _ error hlong).isLocal.2, _, rfl⟩
      · intro error last hspared
        exact ⟨hspared, _, rfl⟩
  · intro error station hspared
    exact ⟨hspared, _, rfl⟩

/-- Only a complete reply is refused as an exception of the device. -/
theorem readReply_status (hread : transport.SparesDevice) (request : Request)
    (attached : Attached σ) :
    Leads (readReply transport request) attached
      (fun _ after => after.device = { attached.device with state := .complete })
      (fun error after => ∃ state, after.device = { attached.device with state } ∧
        (error.exceptionCode?.isSome = true → state = .complete)) := by
  have hspared : ∀ {error : LinkError} {state : ReplyState}, error.exceptionCode? = none →
      error.exceptionCode?.isSome = true → state = .complete := by
    intro error state hnone hsome
    rw [hnone] at hsome
    cases hsome
  simp only [readReply, onStation, leads_bind, leads_get, leads_within]
  apply (FramedLink.readAddress_spares hread _ attached.station).mono
  · intro _ station _
    apply (accumulate_status hread request { attached with station }).mono
    · intro pdu complete hcomplete
      apply (FramedLink.readChecksum_spares hread _ pdu.bytes complete.station).mono
      · intro _ last _
        apply (leads_ofExcept _ _ _ _).mpr
        constructor
        · intro _ _
          exact hcomplete
        · intro error _
          exact ⟨.complete, hcomplete, fun _ => rfl⟩
      · intro error last hnone
        exact ⟨.complete, hcomplete, fun _ => rfl⟩
    · intro error after hfailed
      obtain ⟨hnone, state, hdevice⟩ := hfailed
      exact ⟨state, hdevice, hspared hnone⟩
  · intro error station hnone
    exact ⟨attached.device.state, rfl, hspared hnone⟩

def settledState : Except LinkError Reply → ReplyState
  | .ok _ => .complete
  | .error (.device _ _) => .complete
  | .error (.timeout _ _) => .timedOut
  | .error _ => .idle

theorem settledState_of_spared {error : LinkError} (hnone : error.exceptionCode? = none) :
    settledState (.error error) = failedState error := by
  cases error with
  | device _ _ => cases hnone
  | _ => rfl

theorem receive_status (hread : transport.SparesDevice) (request : Request)
    (attached : Attached σ) :
    Leads (receive transport request) attached
      (fun reply after => after.device =
        { attached.device with outstanding := false, state := settledState (.ok reply) })
      (fun error after => after.device =
        { attached.device with outstanding := false, state := settledState (.error error) }) := by
  simp only [receive, setOutstanding, leads_bind, leads_modify, leads_attempt]
  apply (readReply_status hread request
    { attached with device := { attached.device with outstanding := false } }).mono
  · intro reply after hdevice
    exact hdevice
  · intro error after hfailed
    obtain ⟨state, hdevice, hcomplete⟩ := hfailed
    split
    · next hreply => cases hreply
    · next hexception =>
        cases hexception
        obtain rfl := hcomplete rfl
        exact hdevice
    · next other hother hfailure =>
        cases hfailure
        have hnone : error.exceptionCode? = none := by
          cases error with
          | device function code => exact (hother function code rfl).elim
          | _ => rfl
        rw [← settledState_of_spared hnone]
        simp only [setState, onStation, leads_bind, leads_modify, leads_attempt, leads_within,
          leads_throw]
        refine (leads_iff_world _ _ fun _ => _).mpr ?_
        rw [hdevice]

/-- The status after a reception follows from its result. -/
theorem device_of_receive (hread : transport.SparesDevice) (request : Request)
    (attached : Attached σ) :
    ((receive transport request).outcome attached).2.device =
      { attached.device with
        outstanding := false
        state := settledState ((receive transport request).outcome attached).1 } :=
  (leads_iff_outcome _ _ fun result (after : Attached σ) => after.device =
    { attached.device with outstanding := false, state := settledState result }).mp
      (receive_status hread request attached)

/-- Giving up on a reply is noted before the link is touched. -/
theorem device_of_cancel (transport : Transport σ) (attached : Attached σ) :
    ((cancel transport).outcome attached).2.device =
      { attached.device with outstanding := false, state := .idle } := by
  refine (leads_iff_world _ _ fun after : Attached σ => after.device =
    { attached.device with outstanding := false, state := .idle }).mp ?_
  simp only [cancel, setOutstanding, setState, onStation, leads_bind, leads_modify, leads_within]
  exact (leads_iff_world _ _ fun _ => True).mpr trivial

end Device

end InstrumentLink
