import InstrumentLink.Proofs.Blame
import InstrumentLink.Proofs.ReplyReading

/-!
# Listening for a reply

The parts of a reply are read one after the other, each with a window of its
own.  Towards the link this is one series of reads: a silent read is repeated
while the read timeout has not passed since the last byte, and every byte that
comes starts the wait anew.  A part ends with a byte, so the part behind it
starts to wait when that byte came.
-/

namespace InstrumentLink

variable {σ τ α : Type}

namespace FramedLink

open LinkM

/-- The reads of a reception so far.  The last byte came at `since`, or the
reception began then; `taken` is all that came. -/
inductive Listening (transport : Transport σ) (timeout : Nat) (start : σ) :
    Nat → List UInt8 → σ → Prop
  | begun : Listening transport timeout start (transport.now start) [] start
  | silence {since room : Nat} {taken : List UInt8} {before after : σ}
      (hlistening : Listening transport timeout start since taken before) (hroom : 0 < room)
      (hread : transport.read room (.blocking (window timeout)) before = .ok [] after)
      (hwaiting : transport.now after - since < timeout) :
      Listening transport timeout start since taken after
  | delivery {since room : Nat} {taken more : List UInt8} {first : UInt8} {before after : σ}
      (hlistening : Listening transport timeout start since taken before) (hroom : 0 < room)
      (hread : transport.read room (.blocking (window timeout)) before =
        .ok (first :: more) after) :
      Listening transport timeout start (transport.now after) (taken ++ first :: more) after

/-- Nothing but the bytes taken has happened since the last of them. -/
def Heard (transport : Transport σ) (timeout : Nat) (start world : σ) : Prop :=
  ∃ taken, Listening transport timeout start (transport.now world) taken world

/-- How listening ends with a failure. -/
inductive Unheard (transport : Transport σ) (timeout : Nat) (start : σ) : LinkError → σ → Prop
  | silent {since room : Nat} {taken : List UInt8} {between after : σ} {awaited : Awaited}
      (hlistening : Listening transport timeout start since taken between) (hroom : 0 < room)
      (hread : transport.read room (.blocking (window timeout)) between = .ok [] after)
      (hover : timeout ≤ transport.now after - since) :
      Unheard transport timeout start (.timeout awaited timeout) after
  | broken {since room : Nat} {taken : List UInt8} {between after : σ} {error : LinkError}
      (hlistening : Listening transport timeout start since taken between)
      (hread : transport.read room (.blocking (window timeout)) between = .error error after) :
      Unheard transport timeout start error after
  /-- It is not for a silence. -/
  | spoken {since : Nat} {taken : List UInt8} {after : σ} {error : LinkError}
      (hlistening : Listening transport timeout start since taken after) (hspoken : error.Spoken) :
      Unheard transport timeout start error after

variable {transport : Transport σ} {timeout : Nat} {start : σ}

theorem heard_begun (start : σ) : Heard transport timeout start start :=
  ⟨[], .begun⟩

theorem Heard.spoken {world : σ} {error : LinkError} (hheard : Heard transport timeout start world)
    (hspoken : error.Spoken) : Unheard transport timeout start error world := by
  obtain ⟨taken, hlistening⟩ := hheard
  exact .spoken hlistening hspoken

/-- An answer is worked out from the bytes that came. -/
theorem Heard.ofExcept {view : τ → σ} {world : τ} {result : Except LinkError α}
    (hheard : Heard transport timeout start (view world))
    (hspoken : Blames LinkError.Spoken result) :
    Leads (LinkM.ofExcept result) world
      (fun _ after => Heard transport timeout start (view after))
      (fun error after => Unheard transport timeout start error (view after)) := by
  apply (leads_ofExcept _ _ _ _).mpr
  constructor
  · intro _ _
    exact hheard
  · intro error herror
    exact hheard.spoken (hspoken error herror)

/-- The induction is on the reads in hand, as in `gather`.  A part is complete as
soon as its last byte has come. -/
theorem gather_listens (part : String) (total calls : Nat) {since : Nat} {got taken : List UInt8}
    {station : Station σ} (hlistening : Listening transport timeout start since taken station.world)
    (hcomplete : total ≤ got.length → since = transport.now station.world) :
    Leads (gather transport timeout part total calls since got) station
      (fun received after =>
        match received.failure with
        | none => Heard transport timeout start after.world
        | some error => Unheard transport timeout start error after.world)
      (fun _ _ => False) := by
  induction calls generalizing since got taken station with
  | zero =>
      rw [gather]
      split
      · next hfull => exact ⟨taken, hcomplete hfull ▸ hlistening⟩
      · exact .spoken hlistening rfl
  | succ calls ih =>
      rw [gather]
      split
      · next hfull => exact ⟨taken, hcomplete hfull ▸ hlistening⟩
      · next hshort =>
          have hroom : 0 < total - got.length := Nat.sub_pos_of_lt (Nat.lt_of_not_le hshort)
          simp only [leads_bind, leads_attempt, leads_get]
          apply (Handle.read_leads transport _ _ station).mono
          · intro bytes after hdone
            obtain ⟨_, hread⟩ := hdone
            cases bytes with
            | nil =>
                dsimp only
                split
                · next hover => exact .silent hlistening hroom hread hover
                · next hwaiting =>
                    exact ih (.silence hlistening hroom hread (Nat.lt_of_not_le hwaiting))
                      fun hfull => absurd hfull hshort
            | cons first more => exact ih (.delivery hlistening hroom hread) fun _ => rfl
          · intro error after hfailed
            cases hfailed with
            | closed _ => exact .spoken hlistening rfl
            | noRoom _ => exact .spoken hlistening rfl
            | transport hread => exact .broken hlistening hread

/-- A part waits from the byte in front of it. -/
theorem readExact_listens (part : String) (total : Nat) {station : Station σ}
    (hheard : Heard transport timeout start station.world) :
    Leads (readExact transport timeout part total) station
      (fun _ after => Heard transport timeout start after.world)
      (fun error after => Unheard transport timeout start error after.world) := by
  obtain ⟨taken, hlistening⟩ := hheard
  simp only [readExact, receivePart, leads_bind, leads_get]
  apply (gather_listens part total _ hlistening fun _ => rfl).mono
  · intro received after hends
    cases hfailure : received.failure with
    | none =>
        rw [hfailure] at hends
        exact hends
    | some error =>
        rw [hfailure] at hends
        exact hends
  · intro _ _ hfalse
    exact hfalse.elim

theorem readAddress_listens {config : LinkConfig} {station : Station σ}
    (hheard : Heard transport config.readTimeout start station.world) :
    Leads (readAddress transport config) station
      (fun _ after => Heard transport config.readTimeout start after.world)
      (fun error after => Unheard transport config.readTimeout start error after.world) := by
  simp only [readAddress, leads_bind]
  apply (readExact_listens "reply address" 1 hheard).mono
  · intro bytes after hheard
    split
    · exact hheard.spoken rfl
    · exact hheard
  · intro _ _ hfailed
    exact hfailed

theorem readChecksum_listens {config : LinkConfig} (pdu : List UInt8) {station : Station σ}
    (hheard : Heard transport config.readTimeout start station.world) :
    Leads (readChecksum transport config pdu) station
      (fun _ after => Heard transport config.readTimeout start after.world)
      (fun error after => Unheard transport config.readTimeout start error after.world) := by
  simp only [readChecksum, leads_bind]
  apply (readExact_listens "reply CRC" 2 hheard).mono
  · intro bytes after hheard
    exact Heard.ofExcept hheard fun error hverify => (Frame.blames_verify _ _ _ error hverify).1
  · intro _ _ hfailed
    exact hfailed

end FramedLink

namespace Device

open LinkM FramedLink

variable {transport : Transport σ} {start : σ} {request : Request}

theorem accumulate_listens (attached : Attached σ)
    (hheard : Heard transport attached.device.config.readTimeout start attached.station.world) :
    Leads (accumulate transport request) attached
      (fun _ after =>
        Heard transport attached.device.config.readTimeout start after.station.world)
      (fun error after =>
        Unheard transport attached.device.config.readTimeout start error after.station.world) := by
  simp only [accumulate, setState, onStation, leads_bind, leads_get, leads_modify, leads_within]
  apply (readExact_listens "reply function code" 1 hheard).mono
  · intro first afterFirst hfirst
    split
    · exact hfirst.spoken rfl
    · simp only [leads_bind, leads_modify, leads_within]
      apply (readExact_listens "reply data" _ hfirst).mono
      · intro rest afterRest hrest
        exact Heard.ofExcept hrest fun error hlong => (Pdu.blames_ofBytes _ error hlong).isLocal.1
      · intro _ _ hfailed
        exact hfailed
  · intro _ _ hfailed
    exact hfailed

/-- All reads of a reply are one series. -/
theorem readReply_listens (attached : Attached σ) :
    Leads (readReply transport request) attached
      (fun _ after => Heard transport attached.device.config.readTimeout attached.station.world
        after.station.world)
      (fun error after => Unheard transport attached.device.config.readTimeout
        attached.station.world error after.station.world) := by
  simp only [readReply, onStation, leads_bind, leads_get, leads_within]
  apply (readAddress_listens (heard_begun attached.station.world)).mono
  · intro _ afterAddress hheard
    apply (accumulate_listens { attached with station := afterAddress } hheard).mono
    · intro pdu afterPdu hheard
      apply (readChecksum_listens pdu.bytes hheard).mono
      · intro _ after hheard
        exact Heard.ofExcept hheard (request.blames_decodeReply _)
      · intro _ _ hfailed
        exact hfailed
    · intro _ _ hfailed
      exact hfailed
  · intro _ _ hfailed
    exact hfailed

/-- A reception that failed may have discarded what was unread, after it listened. -/
theorem receive_listens (attached : Attached σ) :
    Leads (receive transport request) attached
      (fun _ after => Heard transport attached.device.config.readTimeout attached.station.world
        after.station.world)
      (fun error after => ∃ unread : Attached σ,
        Unheard transport attached.device.config.readTimeout attached.station.world error
          unread.station.world ∧
        after.station = if error.exceptionCode?.isSome then unread.station
          else ((Handle.flush transport).outcome unread.station).2) :=
  receive_leads_of_readReply (readReply_listens _)

end Device

end InstrumentLink
