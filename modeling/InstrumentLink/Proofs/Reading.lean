import InstrumentLink.FramedLink
import InstrumentLink.Proofs.HandleRules

/-!
# Reading a part of known length

Parts of a reply are gathered by reads of any size.  What a sequence of reads
takes from a link is followed by a trail, a relation between the world before,
the bytes taken, and the world after.  A part of `total` bytes is complete when
exactly that many were taken; otherwise it was interrupted, and what was taken
until then is known as well.
-/

namespace InstrumentLink

variable {σ : Type}

/-- Follows what blocking reads of one window take from a link. -/
structure Transport.Trail (transport : Transport σ) (window : Nat) where
  Took : σ → List UInt8 → σ → Prop
  nothing : ∀ world, Took world [] world
  append : ∀ {before between after first more},
    Took before first between → Took between more after → Took before (first ++ more) after
  read : ∀ {room before bytes after},
    transport.read room (.blocking window) before = .ok bytes after → Took before bytes after
  room : ∀ {room before bytes after},
    transport.read room (.blocking window) before = .ok bytes after → bytes.length ≤ room
  failure : ∀ {room before error after},
    transport.read room (.blocking window) before = .error error after → Took before [] after

/-- Silence passes time or uses up patience: a read of a positive window that
brings nothing does one of the two, and no read undoes either. -/
structure Transport.Patient (transport : Transport σ) (window : Nat) : Prop where
  onwards : ∀ {room before bytes after},
    transport.read room (.blocking window) before = .ok bytes after →
      transport.now before ≤ transport.now after ∧
        transport.patience after ≤ transport.patience before
  silence : ∀ {room before after}, 0 < window →
    transport.read room (.blocking window) before = .ok [] after →
      transport.now before < transport.now after ∨
        transport.patience after < transport.patience before

namespace FramedLink

open LinkM

/-- The longest single read of a link with the given read timeout. -/
def window (timeout : Nat) : Nat := min pollInterval timeout

variable {transport : Transport σ} {timeout : Nat}
variable {trail : transport.Trail (window timeout)}

inductive Interrupted (trail : transport.Trail (window timeout)) (before : σ)
    (taken : List UInt8) (after : Station σ) : LinkError → Prop
  | stalled {part : String} (hpatient : ¬transport.Patient (window timeout))
      (htook : trail.Took before taken after.world) :
      Interrupted trail before taken after (.stalled part)
  | failed {between : Station σ} {room : Nat} {error : LinkError} (hroom : 0 < room)
      (htook : trail.Took before taken between.world)
      (hfailure :
        Handle.ReadFailure transport room (.blocking (window timeout)) between error after) :
      Interrupted trail before taken after error
  | silent {between : σ} {room received total : Nat} {part : String} (hroom : 0 < room)
      (htook : trail.Took before taken between)
      (hread : transport.read room (.blocking (window timeout)) between = .ok [] after.world) :
      Interrupted trail before taken after (.timeout (.reading part received total) timeout)

/-- A read that failed took nothing. -/
theorem took_of_readFailure {room : Nat} {station after : Station σ} {error : LinkError}
    (h : Handle.ReadFailure transport room (.blocking (window timeout)) station error after) :
    trail.Took station.world [] after.world := by
  cases h with
  | closed _ => exact trail.nothing _
  | noRoom _ => exact trail.nothing _
  | transport hread => exact trail.failure hread

theorem Interrupted.took {before : σ} {taken : List UInt8} {after : Station σ}
    {error : LinkError} (h : Interrupted trail before taken after error) :
    trail.Took before taken after.world := by
  cases h with
  | stalled _ htook => exact htook
  | failed _ htook hfailure => simpa using trail.append htook (took_of_readFailure hfailure)
  | silent _ htook hread => simpa using trail.append htook (trail.read hread)

/-- What was taken earlier counts as well. -/
theorem Interrupted.prepend {before between : σ} {first taken : List UInt8}
    {after : Station σ} {error : LinkError} (hfirst : trail.Took before first between)
    (h : Interrupted trail between taken after error) :
    Interrupted trail before (first ++ taken) after error := by
  cases h with
  | stalled hpatient htook => exact .stalled hpatient (trail.append hfirst htook)
  | failed hroom htook hfailure => exact .failed hroom (trail.append hfirst htook) hfailure
  | silent hroom htook hread => exact .silent hroom (trail.append hfirst htook) hread

/-- The reads that may still be needed: a whole window of silence for every
byte that is missing, and what is left of the window that has begun. -/
def callsNeeded (transport : Transport σ) (timeout missing since : Nat) (world : σ) : Nat :=
  missing * (timeout + 1) + (timeout - (transport.now world - since)) + 1 +
    transport.patience world

/-- A silent read is paid for by a millisecond of the window, or by patience. -/
theorem callsNeeded_of_silence (hpatient : transport.Patient (window timeout))
    (missing since : Nat) {room : Nat} {before after : σ}
    (hread : transport.read room (.blocking (window timeout)) before = .ok [] after)
    (hsince : since ≤ transport.now before)
    (hwaiting : ¬timeout ≤ transport.now after - since) :
    callsNeeded transport timeout missing since after <
      callsNeeded transport timeout missing since before := by
  have hwindow : 0 < window timeout := by
    simp only [window, pollInterval]
    omega
  have honwards := hpatient.onwards hread
  have hsilence := hpatient.silence hwindow hread
  rw [callsNeeded, callsNeeded]
  omega

/-- Bytes that arrive pay for the window they start. -/
theorem callsNeeded_of_progress (hpatient : transport.Patient (window timeout))
    (since : Nat) {room missing arrived : Nat} {before after : σ} {bytes : List UInt8}
    (hread : transport.read room (.blocking (window timeout)) before = .ok bytes after)
    (harrived : 0 < arrived) (hmissing : arrived ≤ missing) :
    callsNeeded transport timeout (missing - arrived) (transport.now after) after <
      callsNeeded transport timeout missing since before := by
  obtain ⟨left, rfl⟩ := Nat.exists_eq_add_of_le' hmissing
  have honwards := hpatient.onwards hread
  have hpaid : left * (timeout + 1) + (timeout + 1) ≤ (left + arrived) * (timeout + 1) := by
    rw [← Nat.succ_mul]
    exact Nat.mul_le_mul_right _ (by omega)
  rw [callsNeeded, callsNeeded]
  rw [Nat.add_sub_cancel]
  omega

/-- A patient link needs no more reads than are in hand. -/
def Supplied (transport : Transport σ) (timeout missing since calls : Nat) (world : σ) : Prop :=
  transport.Patient (window timeout) → since ≤ transport.now world ∧
    callsNeeded transport timeout missing since world ≤ calls

theorem Supplied.of_silence {missing since calls room : Nat} {before after : σ}
    (hsupplied : Supplied transport timeout missing since (calls + 1) before)
    (hread : transport.read room (.blocking (window timeout)) before = .ok [] after)
    (hwaiting : ¬timeout ≤ transport.now after - since) :
    Supplied transport timeout missing since calls after := by
  intro hpatient
  obtain ⟨hsince, hcalls⟩ := hsupplied hpatient
  have hfewer := callsNeeded_of_silence hpatient missing since hread hsince hwaiting
  exact ⟨Nat.le_trans hsince (hpatient.onwards hread).1, by omega⟩

theorem Supplied.of_progress {missing arrived since calls room : Nat} {before after : σ}
    {bytes : List UInt8}
    (hsupplied : Supplied transport timeout missing since (calls + 1) before)
    (hread : transport.read room (.blocking (window timeout)) before = .ok bytes after)
    (harrived : 0 < arrived) (hmissing : arrived ≤ missing) :
    Supplied transport timeout (missing - arrived) (transport.now after) calls after := by
  intro hpatient
  obtain ⟨_, hcalls⟩ := hsupplied hpatient
  have hfewer := callsNeeded_of_progress hpatient since hread harrived hmissing
  exact ⟨Nat.le_refl _, by omega⟩

/-- Without reads in hand only an impatient link is supplied. -/
theorem Supplied.not_patient {missing since : Nat} {world : σ}
    (hsupplied : Supplied transport timeout missing since 0 world) :
    ¬transport.Patient (window timeout) := by
  intro hpatient
  obtain ⟨_, hcalls⟩ := hsupplied hpatient
  simp [callsNeeded] at hcalls

/-- How far a part of `total` bytes came when `taken` was read of it. -/
def Gathered (trail : transport.Trail (window timeout)) (total : Nat) (before : σ)
    (got taken : List UInt8) (received : Received) (after : Station σ) : Prop :=
  received.bytes = got ++ taken ∧
    match received.failure with
    | none => received.bytes.length = total ∧ trail.Took before taken after.world
    | some error => received.bytes.length < total ∧ Interrupted trail before taken after error

theorem Gathered.prepend {total : Nat} {before between : σ} {got first taken : List UInt8}
    {received : Received} {after : Station σ} (hfirst : trail.Took before first between)
    (h : Gathered trail total between (got ++ first) taken received after) :
    Gathered trail total before got (first ++ taken) received after := by
  obtain ⟨hbytes, hend⟩ := h
  refine ⟨by rw [hbytes, List.append_assoc], ?_⟩
  cases hfailure : received.failure with
  | none =>
      rw [hfailure] at hend
      exact ⟨hend.1, trail.append hfirst hend.2⟩
  | some error =>
      rw [hfailure] at hend
      exact ⟨hend.1, hend.2.prepend hfirst⟩

theorem gathered_full {total : Nat} {station : Station σ} {got : List UInt8}
    (hgot : got.length = total) :
    Gathered trail total station.world got [] { bytes := got } station :=
  ⟨(List.append_nil got).symm, hgot, trail.nothing _⟩

theorem gathered_interrupted {total : Nat} {before : σ} {got : List UInt8} {error : LinkError}
    {after : Station σ} (hgot : got.length < total)
    (hinterrupted : Interrupted trail before [] after error) :
    Gathered trail total before got [] { bytes := got, failure := some error } after :=
  ⟨(List.append_nil got).symm, hgot, hinterrupted⟩

/-- Gathering keeps the handle, and takes from the link what it adds to the
bytes it has got.  With enough reads in hand a patient link is never found
stalled.  The induction is on the reads in hand; every read that goes on
gathering is followed by one that needs fewer. -/
theorem gather_leads (trail : transport.Trail (window timeout)) (part : String)
    (total calls since : Nat) (got : List UInt8) (hgot : got.length ≤ total)
    (station : Station σ)
    (hsupplied : Supplied transport timeout (total - got.length) since calls station.world) :
    Leads (gather transport timeout part total calls since got) station
      (fun received after => after.handle = station.handle ∧
        ∃ taken, Gathered trail total station.world got taken received after)
      (fun _ _ => False) := by
  induction calls generalizing since got station with
  | zero =>
      rw [gather]
      split
      · next hfull => exact ⟨rfl, [], gathered_full (Nat.le_antisymm hgot hfull)⟩
      · next hshort =>
          exact ⟨rfl, [], gathered_interrupted (Nat.lt_of_not_le hshort)
            (.stalled hsupplied.not_patient (trail.nothing _))⟩
  | succ calls ih =>
      rw [gather]
      split
      · next hfull => exact ⟨rfl, [], gathered_full (Nat.le_antisymm hgot hfull)⟩
      · next hshort =>
          have hmissing : got.length < total := Nat.lt_of_not_le hshort
          have hroom : 0 < total - got.length := Nat.sub_pos_of_lt hmissing
          simp only [leads_bind, leads_attempt, leads_get]
          apply (Handle.read_leads transport _ _ station).mono
          · intro bytes after hdone
            obtain ⟨hhandle, hread⟩ := hdone
            cases bytes with
            | nil =>
                dsimp only
                split
                · exact ⟨hhandle, [], gathered_interrupted hmissing
                    (.silent hroom (trail.nothing _) hread)⟩
                · next hwaiting =>
                    apply (ih since got hgot after (hsupplied.of_silence hread hwaiting)).mono
                    · intro received last hgathered
                      obtain ⟨hlast, taken, hgathered⟩ := hgathered
                      rw [← List.append_nil got] at hgathered
                      exact ⟨hlast.trans hhandle, [] ++ taken,
                        hgathered.prepend (trail.read hread)⟩
                    · intro _ _ hfalse
                      exact hfalse
            | cons first more =>
                have harrived : (first :: more).length ≤ total - got.length := trail.room hread
                have hlength : (got ++ first :: more).length ≤ total := by
                  rw [List.length_append]
                  omega
                have hfirst : 0 < (first :: more).length := Nat.succ_pos _
                have hleft := hsupplied.of_progress hread hfirst harrived
                rw [← Nat.sub_add_eq, ← List.length_append] at hleft
                apply (ih _ _ hlength after hleft).mono
                · intro received last hgathered
                  obtain ⟨hlast, taken, hgathered⟩ := hgathered
                  exact ⟨hlast.trans hhandle, first :: more ++ taken,
                    hgathered.prepend (trail.read hread)⟩
                · intro _ _ hfalse
                  exact hfalse
          · intro error after hfailure
            exact ⟨hfailure.handle_eq, [], gathered_interrupted hmissing
              (.failed hroom (trail.nothing _) hfailure)⟩

/-- Enough reads are in hand for a part from its first byte on. -/
theorem receivePart_leads (trail : transport.Trail (window timeout)) (part : String)
    (total : Nat) (station : Station σ) :
    Leads (receivePart transport timeout part total) station
      (fun received after => after.handle = station.handle ∧
        ∃ taken, Gathered trail total station.world [] taken received after)
      (fun _ _ => False) := by
  have hcalls : callsNeeded transport timeout (total - List.length ([] : List UInt8))
      (transport.now station.world) station.world ≤
        (total + 1) * (timeout + 1) + transport.patience station.world := by
    simp only [callsNeeded, List.length_nil, Nat.sub_zero, Nat.sub_self, Nat.succ_mul]
    omega
  simp only [receivePart, leads_bind, leads_get]
  exact gather_leads trail part total _ _ [] (Nat.zero_le _) station
    fun _ => ⟨Nat.le_refl _, hcalls⟩

/-- A part is read in full, or it was interrupted before it was complete. -/
theorem readExact_leads (trail : transport.Trail (window timeout)) (part : String)
    (total : Nat) (station : Station σ) :
    Leads (readExact transport timeout part total) station
      (fun bytes after => after.handle = station.handle ∧ bytes.length = total ∧
        trail.Took station.world bytes after.world)
      (fun error after => after.handle = station.handle ∧ ∃ taken,
        taken.length < total ∧ Interrupted trail station.world taken after error) := by
  simp only [readExact, leads_bind]
  apply (receivePart_leads trail part total station).mono
  · intro received after hgathered
    obtain ⟨hhandle, taken, hbytes, hend⟩ := hgathered
    obtain rfl : received.bytes = taken := hbytes
    cases hfailure : received.failure with
    | none =>
        rw [hfailure] at hend
        exact ⟨hhandle, hend⟩
    | some error =>
        rw [hfailure] at hend
        exact ⟨hhandle, received.bytes, hend⟩
  · intro _ _ hfalse
    exact hfalse.elim

end FramedLink

end InstrumentLink
