import InstrumentLink.Proofs.BodyRoom
import InstrumentLink.Proofs.StreamDecoding

/-!
# Reading a reply part by part

Address, function code, remainder and checksum are read one after the other,
and the length of the remainder is fixed in the middle of it.  Whatever the
transport does, the outcome is the one of decoding the bytes taken at one go,
unless the reading was interrupted before those bytes decided.
-/

namespace InstrumentLink.Device

open LinkM FramedLink

variable {σ : Type} {transport : Transport σ} {request : Request}

theorem accumulate_leads (hvalid : request.validate = .ok ()) (attached : Attached σ)
    (trail : transport.Trail (window attached.device.config.readTimeout)) :
    Leads (accumulate transport request) attached
      (fun pdu after => after.station.handle = attached.station.handle ∧ ∃ first rest,
        pdu.bytes = first :: rest ∧ (first :: rest).length = request.replyLength first ∧
          trail.Took attached.station.world (first :: rest) after.station.world)
      (fun error after => after.station.handle = attached.station.handle ∧ ∃ taken,
        taken.length < request.replyLength (taken.headD 0) ∧
          Interrupted trail attached.station.world taken after.station error) := by
  simp only [accumulate, setState, onStation, leads_bind, leads_get, leads_modify, leads_within]
  apply (readExact_leads trail "reply function code" 1 attached.station).mono
  · intro bytes afterFirst hfirst
    obtain ⟨hhandleFirst, hlength, htookFirst⟩ := hfirst
    obtain ⟨first, rfl⟩ := List.length_eq_one_iff.mp hlength
    have hbounds := Request.replyLength_bounds hvalid first
    have hfits : ¬maxPduSize < request.replyLength first := by omega
    rw [List.headD_cons, if_neg hfits]
    simp only [leads_bind, leads_modify, leads_within]
    apply (readExact_leads trail "reply data" _ afterFirst).mono
    · intro rest afterRest hrest
      obtain ⟨hhandleRest, hlengthRest, htookRest⟩ := hrest
      have htotal : (first :: rest).length = request.replyLength first := by
        rw [List.length_cons]
        omega
      obtain ⟨pdu, hbuilt, _, hbytes⟩ := Pdu.exists_build (Pdu.appends_extend (first :: rest))
        (htotal ▸ hbounds.2)
      rw [Pdu.ofBytes, hbuilt, leads_ofExcept_ok]
      exact ⟨hhandleRest.trans hhandleFirst, first, rest, hbytes, htotal,
        trail.append htookFirst htookRest⟩
    · intro error afterRest hfailed
      obtain ⟨hhandleRest, taken, hlengthRest, hinterrupted⟩ := hfailed
      have hshort : (first :: taken).length < request.replyLength first := by
        rw [List.length_cons]
        omega
      exact ⟨hhandleRest.trans hhandleFirst, first :: taken, hshort,
        hinterrupted.prepend htookFirst⟩
  · intro error afterFirst hfailed
    obtain ⟨hhandle, taken, hlength, hinterrupted⟩ := hfailed
    obtain rfl : taken = [] := by simpa using hlength
    have hbounds := Request.replyLength_bounds hvalid 0
    exact ⟨hhandle, [], Nat.lt_of_lt_of_le Nat.two_pos hbounds.1, hinterrupted⟩

/-- The bytes taken decide about the reply, and `result` is what decoding them
at one go makes of it. -/
def Decided (request : Request) (address : UInt8) (taken : List UInt8)
    (result : Except LinkError Reply) : Prop :=
  taken.length = request.decisive address taken ∧ request.decodeFront address taken = result

theorem decided_of_foreign {address first : UInt8} (hforeign : first ≠ address) :
    Decided request address [first] (.error (.protocol (.wrongAddress first address))) := by
  constructor
  · rw [Request.decisive_of_foreign hforeign, List.length_singleton]
  · exact Request.decodeFront_of_foreign hforeign

theorem decided_frame (address low high : UInt8) {first : UInt8} {rest : List UInt8}
    (hlength : (first :: rest).length = request.replyLength first) :
    Decided request address (address :: first :: rest ++ [low, high]) (do
      Frame.verify (address :: first :: rest) low high
      request.decodeReply (first :: rest)) :=
  ⟨(Request.decisive_frame address low high hlength).symm,
    Request.decodeFront_frame address low high hlength⟩

/-- The reading of a reply ended in `error`, which decoding the bytes taken at
one go gives as well, or which broke off the reading before they decided. -/
def Unread (request : Request) (before : Attached σ)
    (trail : transport.Trail (window before.device.config.readTimeout)) (error : LinkError)
    (after : Station σ) : Prop :=
  after.handle = before.station.handle ∧ ∃ taken,
    (trail.Took before.station.world taken after.world ∧
        Decided request before.device.config.address taken (.error error)) ∨
      (taken.length < request.decisive before.device.config.address taken ∧
        Interrupted trail before.station.world taken after error)

theorem Unread.took {before : Attached σ}
    {trail : transport.Trail (window before.device.config.readTimeout)} {error : LinkError}
    {after : Station σ} (h : Unread request before trail error after) :
    ∃ taken, trail.Took before.station.world taken after.world := by
  obtain ⟨_, taken, hend⟩ := h
  rcases hend with ⟨htook, _⟩ | ⟨_, hinterrupted⟩
  · exact ⟨taken, htook⟩
  · exact ⟨taken, hinterrupted.took⟩

/-- A reply that was read is the one that decoding the bytes taken at one go
gives; so is a failure, unless it broke off the reading. -/
theorem readReply_leads (hvalid : request.validate = .ok ()) (attached : Attached σ)
    (trail : transport.Trail (window attached.device.config.readTimeout)) :
    Leads (readReply transport request) attached
      (fun reply after => after.station.handle = attached.station.handle ∧ ∃ taken,
        trail.Took attached.station.world taken after.station.world ∧
          Decided request attached.device.config.address taken (.ok reply))
      (fun error after => Unread request attached trail error after.station) := by
  simp only [readReply, onStation, leads_bind, leads_get, leads_within]
  apply (readAddress_leads trail attached.station).mono
  · intro _ afterAddress hread
    obtain ⟨hhandleAddress, htookAddress⟩ := hread
    apply (accumulate_leads hvalid { attached with station := afterAddress } trail).mono
    · intro pdu afterPdu haccumulated
      obtain ⟨hhandlePdu, first, rest, hpdu, hlength, htookPdu⟩ := haccumulated
      have htookBody := trail.append htookAddress htookPdu
      have hhandleBody := hhandlePdu.trans hhandleAddress
      rw [hpdu]
      apply (readChecksum_leads trail (first :: rest) afterPdu.station).mono
      · intro _ after hchecked
        obtain ⟨hhandle, low, high, htook, hverify⟩ := hchecked
        have hdecided := decided_frame attached.device.config.address low high hlength
        rw [hverify] at hdecided
        apply (leads_ofExcept _ _ _ _).mpr
        constructor
        · intro reply hreply
          rw [hreply] at hdecided
          exact ⟨hhandle.trans hhandleBody, _, trail.append htookBody htook, hdecided⟩
        · intro error herror
          rw [herror] at hdecided
          exact ⟨hhandle.trans hhandleBody, _, .inl ⟨trail.append htookBody htook, hdecided⟩⟩
      · intro error after hfailed
        obtain ⟨hhandle, hend⟩ := hfailed
        rcases hend with ⟨low, high, htook, hverify⟩ | ⟨taken, hshort, hinterrupted⟩
        · have hdecided := decided_frame attached.device.config.address low high hlength
          rw [hverify] at hdecided
          exact ⟨hhandle.trans hhandleBody, _, .inl ⟨trail.append htookBody htook, hdecided⟩⟩
        · have hundecided : (attached.device.config.address :: (first :: rest ++ taken)).length <
              request.decisive attached.device.config.address
                (attached.device.config.address :: (first :: rest ++ taken)) := by
            apply Request.lt_decisive
            rw [List.length_append, hlength, List.cons_append, List.headD_cons]
            omega
          exact ⟨hhandle.trans hhandleBody, _, .inr ⟨hundecided, hinterrupted.prepend htookBody⟩⟩
    · intro error after hfailed
      obtain ⟨hhandle, taken, hlength, hinterrupted⟩ := hfailed
      have hundecided : (attached.device.config.address :: taken).length <
          request.decisive attached.device.config.address
            (attached.device.config.address :: taken) :=
        Request.lt_decisive (Nat.lt_add_right 2 hlength)
      exact ⟨hhandle.trans hhandleAddress, _,
        .inr ⟨hundecided, hinterrupted.prepend htookAddress⟩⟩
  · intro error after hfailed
    obtain ⟨hhandle, hend⟩ := hfailed
    rcases hend with ⟨first, hforeign, htook, rfl⟩ | hinterrupted
    · exact ⟨hhandle, [first], .inl ⟨htook, decided_of_foreign hforeign⟩⟩
    · have hundecided : ([] : List UInt8).length <
          request.decisive attached.device.config.address [] := by
        simp [Request.decisive, Request.frameLength, Frame.overhead]
      exact ⟨hhandle, [], .inr ⟨hundecided, hinterrupted⟩⟩

/-- Receiving a reply is reading it, and discarding what is unread if that
failed without an exception of the device. -/
theorem receive_leads_of_readReply {attached : Attached σ} {done : Reply → Attached σ → Prop}
    {failed : LinkError → Attached σ → Prop}
    (hread : Leads (readReply transport request)
      { attached with device := { attached.device with outstanding := false } } done failed) :
    Leads (receive transport request) attached done
      (fun error after => ∃ unread, failed error unread ∧
        after.station = if error.exceptionCode?.isSome then unread.station
          else ((Handle.flush transport).outcome unread.station).2) := by
  simp only [receive, setOutstanding, leads_bind, leads_modify, leads_attempt]
  apply hread.mono
  · intro reply after hdone
    exact hdone
  · intro error after hfailed
    cases hcode : error.exceptionCode? with
    | some code =>
        cases error with
        | device function code => exact ⟨after, hfailed, rfl⟩
        | _ => cases hcode
    | none =>
        split
        · next hreply => cases hreply
        · next hdevice =>
            cases hdevice
            cases hcode
        · next hother hfailure =>
            cases hfailure
            simp only [setState, onStation, leads_bind, leads_modify, leads_attempt, leads_within,
              leads_throw]
            apply (leads_iff_world _ _ _).mpr
            refine ⟨after, hfailed, ?_⟩
            rw [hcode]
            rfl

theorem receive_leads (hvalid : request.validate = .ok ()) (attached : Attached σ)
    (trail : transport.Trail (window attached.device.config.readTimeout)) :
    Leads (receive transport request) attached
      (fun reply after => after.station.handle = attached.station.handle ∧ ∃ taken,
        trail.Took attached.station.world taken after.station.world ∧
          Decided request attached.device.config.address taken (.ok reply))
      (fun error after => ∃ unread, Unread request attached trail error unread ∧
        after.station = if error.exceptionCode?.isSome then unread
          else ((Handle.flush transport).outcome unread).2) := by
  have hread := readReply_leads hvalid
    { attached with device := { attached.device with outstanding := false } } trail
  apply (receive_leads_of_readReply hread).mono
  · intro reply after hdone
    exact hdone
  · intro error after hfailed
    obtain ⟨unread, hunread, hafter⟩ := hfailed
    exact ⟨unread.station, hunread, hafter⟩

end InstrumentLink.Device
