import InstrumentLink.Proofs.StreamedReception

/-!
# Replies of another length than the request implies

The request and the first byte of the reply decide how much of it is read, and
the reply is looked at only then.  So a reply that does not match its request
is refused as such if it is as long as expected.  A shorter one is waited for
in vain, and of a longer one the front is taken for the whole frame.
-/

namespace InstrumentLink

namespace Request

variable {request : Request} {address : UInt8} {pdu frame : List UInt8}

theorem decisive_of_encode (request : Request) (hencode : Frame.encode address pdu = .ok frame) :
    request.decisive address frame = request.replyLength (pdu.headD 0) + Frame.overhead := by
  obtain ⟨hpdu, rfl⟩ := Frame.eq_of_encode hencode
  obtain ⟨first, body, rfl⟩ := List.exists_cons_of_ne_nil hpdu
  rw [decisive, if_neg (fun h => h rfl)]
  rfl

/-- A whole frame of the expected length is validated as it was made. -/
theorem decodeFront_of_encode (hencode : Frame.encode address pdu = .ok frame)
    (hlength : pdu.length = request.replyLength (pdu.headD 0)) :
    request.decodeFront address frame = request.decodeReply pdu := by
  obtain ⟨hpdu, rfl⟩ := Frame.eq_of_encode hencode
  obtain ⟨first, body, rfl⟩ := List.exists_cons_of_ne_nil hpdu
  have hframe := decodeFront_frame address (checksum (address :: first :: body)).toUInt8
    (checksum (address :: first :: body) >>> 8).toUInt8 hlength
  rw [Frame.verify_trailer] at hframe
  exact hframe

/-- Of a frame that is too long the front is taken for the whole: the two bytes
behind the expected length are read as its checksum. -/
theorem decodeFront_of_long (hencode : Frame.encode address pdu = .ok frame)
    (hvalid : request.validate = .ok ())
    (hlength : request.replyLength (pdu.headD 0) < pdu.length) :
    ∃ low high rest,
      frame = address :: pdu.take (request.replyLength (pdu.headD 0)) ++ low :: high :: rest ∧
      request.decodeFront address frame = (do
        Frame.verify (address :: pdu.take (request.replyLength (pdu.headD 0))) low high
        request.decodeReply (pdu.take (request.replyLength (pdu.headD 0)))) := by
  obtain ⟨hpdu, rfl⟩ := Frame.eq_of_encode hencode
  obtain ⟨first, body, rfl⟩ := List.exists_cons_of_ne_nil hpdu
  rw [List.headD_cons] at hlength ⊢
  obtain ⟨wanted, hwanted⟩ := Nat.exists_eq_succ_of_ne_zero
    (Nat.ne_of_gt (Nat.lt_of_lt_of_le Nat.two_pos (replyLength_bounds hvalid first).1))
  rw [hwanted, List.take_succ_cons]
  have hlong : wanted < body.length := by
    rw [hwanted, List.length_cons] at hlength
    omega
  have hfront : (first :: body.take wanted).length = request.replyLength first := by
    rw [hwanted, List.length_cons, List.length_take, Nat.min_eq_left hlong.le]
  -- Behind the front there is at least one byte of the body, and the trailer.
  have htwo : 2 ≤ (body.drop wanted ++ Frame.trailer (address :: first :: body)).length := by
    rw [List.length_append, List.length_drop]
    exact Nat.le_add_left _ _
  obtain ⟨low, high, rest, hrest⟩ : ∃ low high rest,
      body.drop wanted ++ Frame.trailer (address :: first :: body) = low :: high :: rest := by
    match hbehind : body.drop wanted ++ Frame.trailer (address :: first :: body) with
    | [] => simp [hbehind] at htwo
    | [_] => simp [hbehind] at htwo
    | low :: high :: rest => exact ⟨low, high, rest, rfl⟩
  have hsplit : address :: (first :: body) ++ Frame.trailer (address :: first :: body) =
      address :: (first :: body.take wanted) ++ low :: high :: rest := by
    calc address :: (first :: body) ++ Frame.trailer (address :: first :: body)
        = address :: (first :: (body.take wanted ++ body.drop wanted)) ++
            Frame.trailer (address :: first :: body) := by rw [List.take_append_drop]
      _ = address :: (first :: body.take wanted) ++
            (body.drop wanted ++ Frame.trailer (address :: first :: body)) := by
              rw [← List.cons_append, ← List.cons_append, List.append_assoc]
      _ = address :: (first :: body.take wanted) ++ low :: high :: rest := by rw [hrest]
  have hfrontDecoded := decodeFront_frame address low high hfront
  have hdecisive := decisive_frame address low high hfront
  have hstable := (decodeFront_append hdecisive.le rest).1
  refine ⟨low, high, rest, hsplit, ?_⟩
  rw [hsplit, ← hfrontDecoded, ← hstable, List.append_assoc]
  rfl

end Request

namespace Scripted

open Device State

/-- A whole frame with two registers fewer than requested is taken for the
beginning of a longer one. -/
theorem short_mismatch_times_out :
    Frame.encode 1 [3, 2, 0, 42] = .ok [1, 3, 2, 0, 42, 57, 155] ∧
      isExceptionByte 3 = false ∧
      (Request.readRegisters 0 2).decodeReply [3, 2, 0, 42] =
        .error (.protocol (.byteCount 2 4)) ∧
      ((send transport (.readRegisters 0 2)).outcome
        (.opened {} { script := [⟨none, [1, 3, 2, 0, 42, 57, 155]⟩] })).1 = .ok () ∧
      ((transact transport (.readRegisters 0 2)).outcome
        (.opened {} { script := [⟨none, [1, 3, 2, 0, 42, 57, 155]⟩] })).1 =
          .error (.timeout (.reading "reply CRC" 0 2) 1000) := by
  decide +kernel

/-- What becomes of a frame whose message body does not match the request
depends on how its length compares with the expected one. -/
theorem reception_of_mismatch {request : Request} {sender : Attached State}
    (hsent : ((send transport request).outcome sender).1 = .ok ())
    (attached : Attached State) (hopen : attached.station.handle.isOpen = true)
    {pdu frame : List UInt8} {cause : ProtocolCause}
    (hencode : Frame.encode attached.device.config.address pdu = .ok frame)
    (hsuccess : isExceptionByte (pdu.headD 0) = false)
    (hmismatch : request.decodeReply pdu = .error (.protocol cause))
    (hstream : attached.station.world.stream
      (FramedLink.window attached.device.config.readTimeout) = frame)
    {result : Except LinkError Reply}
    (hresult : ((receive transport request).outcome attached).1 = result) :
    (pdu.length < request.successLength → TimedOut result) ∧
    (pdu.length = request.successLength →
      TimedOut result ∨ result = .error (.protocol cause)) ∧
    (request.successLength < pdu.length → TimedOut result ∨ ∃ low high rest,
      frame = attached.device.config.address :: pdu.take request.successLength ++
        low :: high :: rest ∧
      result = (do
        Frame.verify (attached.device.config.address :: pdu.take request.successLength) low high
        request.decodeReply (pdu.take request.successLength))) ∧
    (attached.station.world.readable = frame →
      (TimedOut result ↔ pdu.length < request.successLength)) := by
  have hvalid := validate_of_sent hsent
  have hreceived := received_of_receive hvalid hopen
  rw [hresult] at hreceived
  have hlength : request.replyLength (pdu.headD 0) = request.successLength := by
    rw [Request.replyLength, hsuccess]
    rfl
  have hdecisive := Request.decisive_of_encode request hencode
  have hframe : frame.length = pdu.length + Frame.overhead := by
    rw [(Frame.eq_of_encode hencode).2, List.length_append]
    rfl
  have hdecoded := hreceived.decoded
  rw [hstream, hdecisive, hframe, hlength] at hdecoded
  refine ⟨?_, ?_, ?_, ?_⟩
  · intro hshort
    rcases hdecoded with htimeout | ⟨henough, _⟩
    · exact htimeout
    · omega
  · intro hexact
    rcases hdecoded with htimeout | ⟨_, hfront⟩
    · exact .inl htimeout
    · rw [Request.decodeFront_of_encode hencode (hexact.trans hlength.symm), hmismatch] at hfront
      exact .inr hfront
  · intro hlong
    rcases hdecoded with htimeout | ⟨_, hfront⟩
    · exact .inl htimeout
    · rw [← hlength] at hlong
      obtain ⟨low, high, rest, hsplit, hdecode⟩ :=
        Request.decodeFront_of_long hencode hvalid hlong
      rw [hlength] at hsplit hdecode
      exact .inr ⟨low, high, rest, hsplit, hfront.trans hdecode⟩
  · intro hreadable
    have hqueued := hreceived.timedOut_iff (hreadable.trans hstream.symm)
    rw [hstream, hdecisive, hframe, hlength] at hqueued
    rw [hqueued]
    omega

/-- A frame that is refused as a whole, and whose front is a valid reply. -/
theorem reception_of_mismatch_long :
    Frame.encode 1 [3, 2, 0, 42, 57, 155] = .ok [1, 3, 2, 0, 42, 57, 155, 0, 0] ∧
      (Request.readRegisters 0 1).decodeReply [3, 2, 0, 42, 57, 155] =
        .error (.protocol (.dataLength 4 2)) ∧
      ((receive transport (.readRegisters 0 1)).outcome
        (.opened {} { input := [1, 3, 2, 0, 42, 57, 155, 0, 0] })).1 = .ok (.registers [42]) ∧
      (4 < 6 → TimedOut (.ok (.registers [42])) ∨ ∃ low high rest,
        [1, 3, 2, 0, 42, 57, 155, 0, 0] = 1 :: [3, 2, 0, 42] ++ low :: high :: rest ∧
        .ok (.registers [42]) = (do
          Frame.verify (1 :: [3, 2, 0, 42]) low high
          (Request.readRegisters 0 1).decodeReply [3, 2, 0, 42])) := by
  have hsent : ((send transport (.readRegisters 0 1)).outcome (.opened {} {})).1 = .ok () := by
    decide +kernel
  have hencode : Frame.encode 1 [3, 2, 0, 42, 57, 155] = .ok [1, 3, 2, 0, 42, 57, 155, 0, 0] := by
    decide +kernel
  have hmismatch : (Request.readRegisters 0 1).decodeReply [3, 2, 0, 42, 57, 155] =
      .error (.protocol (.dataLength 4 2)) := by
    decide +kernel
  have hresult : ((receive transport (.readRegisters 0 1)).outcome
      (.opened {} { input := [1, 3, 2, 0, 42, 57, 155, 0, 0] })).1 = .ok (.registers [42]) := by
    decide +kernel
  have hend := reception_of_mismatch hsent
    (.opened {} { input := [1, 3, 2, 0, 42, 57, 155, 0, 0] }) rfl hencode (by decide) hmismatch
    (by decide +kernel) hresult
  exact ⟨hencode, hmismatch, hresult, hend.2.2.1⟩

end Scripted

end InstrumentLink
