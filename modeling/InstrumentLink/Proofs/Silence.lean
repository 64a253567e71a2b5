import InstrumentLink.Proofs.Blame
import InstrumentLink.Proofs.ReplyReading

/-!
# What a silence is blamed on

A reception that ends in silence names the part of the reply that it was
waiting for, and how many bytes of that part had come.  Both follow from the
bytes that were taken until then, whatever the transport is.
-/

namespace InstrumentLink

variable {σ : Type} {transport : Transport σ} {timeout : Nat}

/-- A read that fails is no silence. -/
def Transport.FailsAloud (transport : Transport σ) : Prop :=
  ∀ {room mode before error after}, transport.read room mode before = .error error after → error.Spoken

/-- What is awaited of a reply once `taken` is all of it that has come. -/
def Request.awaits (request : Request) : List UInt8 → Awaited
  | [] => .reading "reply address" 0 1
  | [_] => .reading "reply function code" 0 1
  | _ :: first :: rest =>
      if (first :: rest).length < request.replyLength first then
        .reading "reply data" rest.length (request.replyLength first - 1)
      else .reading "reply CRC" ((first :: rest).length - request.replyLength first) 2

namespace Request

variable {request : Request} {first : UInt8} {rest : List UInt8}

theorem awaits_of_short (address : UInt8)
    (hshort : (first :: rest).length < request.replyLength first) :
    request.awaits (address :: first :: rest) =
      .reading "reply data" rest.length (request.replyLength first - 1) := by
  rw [awaits, if_pos hshort]

theorem awaits_of_complete (address : UInt8)
    (hlength : (first :: rest).length = request.replyLength first) (taken : List UInt8) :
    request.awaits (address :: first :: rest ++ taken) = .reading "reply CRC" taken.length 2 := by
  have hbehind : (first :: (rest ++ taken)).length = request.replyLength first + taken.length := by
    rw [← List.cons_append, List.length_append, hlength]
  simp [awaits, -List.length_cons, hbehind]

end Request

namespace FramedLink

open LinkM

/-- A failure that is a silence names what it awaited, as it follows from the
bytes that were taken. -/
def Named (trail : transport.Trail (window timeout)) (names : List UInt8 → Awaited → Prop)
    (before : σ) (error : LinkError) (after : σ) : Prop :=
  error.isTimeout = true → ∃ taken awaited,
    trail.Took before taken after ∧ names taken awaited ∧ error = .timeout awaited timeout

variable {trail : transport.Trail (window timeout)} {names : List UInt8 → Awaited → Prop}

theorem named_of_spoken {before after : σ} {error : LinkError} (hspoken : error.Spoken) :
    Named trail names before error after := by
  intro htimeout
  exact absurd htimeout hspoken.not_isTimeout

/-- What was taken earlier counts as well. -/
theorem Named.prepend {before between after : σ} {error : LinkError} {first : List UInt8}
    {names' : List UInt8 → Awaited → Prop} (hfirst : trail.Took before first between)
    (h : Named trail names between error after)
    (hnames : ∀ taken awaited, names taken awaited → names' (first ++ taken) awaited) :
    Named trail names' before error after := by
  intro htimeout
  obtain ⟨taken, awaited, htook, hnamed, herror⟩ := h htimeout
  exact ⟨first ++ taken, awaited, trail.append hfirst htook, hnames taken awaited hnamed, herror⟩

/-- The induction is on the reads in hand, as in `gather`. -/
theorem gather_names (haloud : transport.FailsAloud) (part : String)
    (total calls since : Nat) (got : List UInt8) (station : Station σ) :
    Leads (gather transport timeout part total calls since got) station
      (fun received _ => ∀ error, received.failure = some error → error.isTimeout = true →
        error = .timeout (.reading part received.bytes.length total) timeout)
      (fun _ _ => False) := by
  have hfull : ∀ bytes error, (Received.mk bytes none).failure = some error →
      error.isTimeout = true → error = .timeout (.reading part bytes.length total) timeout := by
    intro _ _ hnone
    cases hnone
  induction calls generalizing since got station with
  | zero =>
      rw [gather]
      split
      · exact hfull got
      · intro error hstalled htimeout
        cases hstalled
        cases htimeout
  | succ calls ih =>
      rw [gather]
      split
      · exact hfull got
      · simp only [leads_bind, leads_attempt, leads_get]
        apply (Handle.read_leads transport _ _ station).mono
        · intro bytes after _
          cases bytes with
          | nil =>
              dsimp only
              split
              · intro error hsilent _
                cases hsilent
                rfl
              · exact ih since got after
          | cons first more => exact ih _ _ after
        · intro error after hfailed other hfailure htimeout
          cases hfailure
          cases hfailed with
          | closed _ => cases htimeout
          | noRoom _ => cases htimeout
          | transport hread =>
              rw [show error.isTimeout = false from haloud hread] at htimeout
              cases htimeout

/-- A part that falls silent is named, with the number of its bytes that came. -/
theorem readExact_names (haloud : transport.FailsAloud)
    (trail : transport.Trail (window timeout)) (part : String) (total : Nat)
    (station : Station σ) :
    Leads (readExact transport timeout part total) station (fun _ _ => True)
      (fun error after => Named trail
        (fun taken awaited => taken.length < total ∧ awaited = .reading part taken.length total)
        station.world error after.world) := by
  have hcalls : callsNeeded transport timeout (total - List.length ([] : List UInt8))
      (transport.now station.world) station.world ≤
        (total + 1) * (timeout + 1) + transport.patience station.world := by
    simp only [callsNeeded, List.length_nil, Nat.sub_zero, Nat.sub_self, Nat.succ_mul]
    omega
  simp only [readExact, receivePart, leads_bind, leads_get]
  apply ((gather_leads trail part total _ _ [] (Nat.zero_le _) station
    fun _ => ⟨Nat.le_refl _, hcalls⟩).and (gather_names haloud part total _ _ [] station)).mono
  · intro received after hgathered
    obtain ⟨⟨_, taken, hbytes, hend⟩, hnames⟩ := hgathered
    obtain rfl : received.bytes = taken := hbytes
    cases hfailure : received.failure with
    | none => trivial
    | some error =>
        rw [hfailure] at hend
        intro htimeout
        exact ⟨received.bytes, _, hend.2.took, ⟨hend.1, rfl⟩, hnames error hfailure htimeout⟩
  · intro _ _ hfalse
    exact hfalse.1.elim

theorem readAddress_names (haloud : transport.FailsAloud) {config : LinkConfig}
    (trail : transport.Trail (window config.readTimeout)) (request : Request)
    (station : Station σ) :
    Leads (readAddress transport config) station (fun _ _ => True)
      (fun error after => Named trail (fun taken awaited => awaited = request.awaits taken)
        station.world error after.world) := by
  simp only [readAddress, leads_bind]
  apply (readExact_names haloud trail "reply address" 1 station).mono
  · intro bytes after _
    split
    · exact named_of_spoken rfl
    · trivial
  · intro error after hnamed
    apply hnamed.prepend (trail.nothing _)
    intro taken awaited hawaited
    obtain ⟨hlength, rfl⟩ := hawaited
    obtain rfl : taken = [] := by simpa using hlength
    rfl

theorem readChecksum_names (haloud : transport.FailsAloud) {config : LinkConfig}
    (trail : transport.Trail (window config.readTimeout)) (pdu : List UInt8)
    (station : Station σ) :
    Leads (readChecksum transport config pdu) station (fun _ _ => True)
      (fun error after => Named trail
        (fun taken awaited => awaited = .reading "reply CRC" taken.length 2)
        station.world error after.world) := by
  simp only [readChecksum, leads_bind]
  apply (readExact_names haloud trail "reply CRC" 2 station).mono
  · intro bytes after _
    apply (leads_ofExcept _ _ _ _).mpr
    constructor
    · intro _ _
      trivial
    · intro error hverify
      exact named_of_spoken (Frame.blames_verify _ _ _ error hverify).1
  · intro error after hnamed
    exact hnamed.prepend (trail.nothing _) fun _ _ hawaited => hawaited.2

end FramedLink

namespace Device

open LinkM FramedLink

variable {request : Request}

/-- The address has come before the message body. -/
theorem accumulate_names (haloud : transport.FailsAloud) (attached : Attached σ)
    (trail : transport.Trail (window attached.device.config.readTimeout)) (address : UInt8) :
    Leads (accumulate transport request) attached (fun _ _ => True)
      (fun error after => Named trail
        (fun taken awaited => awaited = request.awaits (address :: taken))
        attached.station.world error after.station.world) := by
  simp only [accumulate, setState, onStation, leads_bind, leads_get, leads_modify, leads_within]
  apply ((readExact_leads trail "reply function code" 1 attached.station).and
    (readExact_names haloud trail "reply function code" 1 attached.station)).mono
  · intro bytes afterFirst hfirst
    obtain ⟨⟨_, hlength, htookFirst⟩, _⟩ := hfirst
    obtain ⟨first, rfl⟩ := List.length_eq_one_iff.mp hlength
    rw [List.headD_cons]
    split
    · exact named_of_spoken rfl
    · simp only [leads_bind, leads_modify, leads_within]
      apply (readExact_names haloud trail "reply data" _ afterFirst).mono
      · intro rest afterRest _
        apply (leads_ofExcept _ _ _ _).mpr
        constructor
        · intro _ _
          trivial
        · intro error hlong
          exact named_of_spoken (Pdu.blames_ofBytes _ error hlong).isLocal.1
      · intro error afterRest hnamed
        apply hnamed.prepend htookFirst
        intro taken awaited hawaited
        obtain ⟨hshort, rfl⟩ := hawaited
        have hmissing : (first :: taken).length < request.replyLength first := by
          rw [List.length_cons]
          omega
        exact (Request.awaits_of_short address hmissing).symm
  · intro error afterFirst hfailed
    apply hfailed.2.prepend (trail.nothing _)
    intro taken awaited hawaited
    obtain ⟨hlength, rfl⟩ := hawaited
    obtain rfl : taken = [] := by simpa using hlength
    rfl

/-- A reply that breaks off in silence names the part that was awaited. -/
theorem readReply_names (hvalid : request.validate = .ok ()) (haloud : transport.FailsAloud)
    (attached : Attached σ)
    (trail : transport.Trail (window attached.device.config.readTimeout)) :
    Leads (readReply transport request) attached (fun _ _ => True)
      (fun error after => Named trail (fun taken awaited => awaited = request.awaits taken)
        attached.station.world error after.station.world) := by
  simp only [readReply, onStation, leads_bind, leads_get, leads_within]
  apply ((readAddress_leads trail attached.station).and
    (readAddress_names haloud trail request attached.station)).mono
  · intro _ afterAddress hread
    obtain ⟨⟨_, htookAddress⟩, _⟩ := hread
    apply ((accumulate_leads hvalid { attached with station := afterAddress } trail).and
      (accumulate_names haloud { attached with station := afterAddress } trail
        attached.device.config.address)).mono
    · intro pdu afterPdu haccumulated
      obtain ⟨⟨_, first, rest, hpdu, hlength, htookPdu⟩, _⟩ := haccumulated
      have htookBody := trail.append htookAddress htookPdu
      rw [hpdu]
      apply (readChecksum_names haloud trail (first :: rest) afterPdu.station).mono
      · intro _ after _
        apply (leads_ofExcept _ _ _ _).mpr
        constructor
        · intro _ _
          trivial
        · intro error hrefused
          exact named_of_spoken (request.blames_decodeReply _ error hrefused)
      · intro error after hnamed
        apply hnamed.prepend htookBody
        intro taken awaited hawaited
        rw [hawaited]
        exact (Request.awaits_of_complete _ hlength taken).symm
    · intro error after hfailed
      exact hfailed.2.prepend htookAddress fun _ _ hawaited => hawaited
  · intro error after hfailed
    exact hfailed.2

end Device

end InstrumentLink
