import InstrumentLink.Proofs.Handover
import InstrumentLink.Proofs.TimedReception

/-!
# Writing all of a buffer by short writes

A loop of short writes ends, unless the link answers at once for ever without taking
anything: each write takes a byte or some time, or is one of finitely many that do
neither.  A link that only has so much patience is an example, and the scripted link
with any faults is one of these.
-/

namespace InstrumentLink

open LinkM WriteCall

variable {σ : Type}

/-- Writing does not turn the clock back. -/
def Transport.WritesOnward (transport : Transport σ) : Prop :=
  ∀ bytes mode before count after, transport.write bytes mode before = .ok count after →
    transport.now before ≤ transport.now after

structure Pending (σ : Type) where
  rest : List UInt8
  world : σ

namespace Pending

variable (transport : Transport σ) (deadline : Nat)

def next (pending : Pending σ) : Option (Pending σ) :=
  if pending.rest = [] ∨ deadline ≤ transport.now pending.world then none
  else
    match transport.write pending.rest (.blocking (deadline - transport.now pending.world))
        pending.world with
    | .ok count world => some { rest := pending.rest.drop count, world }
    | .error _ _ => none

def afterWrites : Nat → Pending σ → Option (Pending σ)
  | 0, pending => some pending
  | writes + 1, pending => (pending.next transport deadline).bind (afterWrites writes)

/-- Sooner or later something is taken, time passes, or the loop has ended. -/
def Lively (start : Pending σ) : Prop :=
  ∀ writes pending, start.afterWrites transport deadline writes = some pending →
    ∃ more, ∀ later, start.afterWrites transport deadline (writes + more) = some later →
      later.rest.length < pending.rest.length ∨
        transport.now pending.world < transport.now later.world

variable {transport deadline} {start pending later : Pending σ}

theorem afterWrites_add (writes more : Nat) (start : Pending σ) :
    start.afterWrites transport deadline (writes + more) =
      (start.afterWrites transport deadline writes).bind (afterWrites transport deadline more) := by
  induction writes generalizing start with
  | zero => rw [Nat.zero_add, afterWrites, Option.bind_some]
  | succ writes ih =>
      rw [Nat.succ_add, afterWrites, afterWrites, Option.bind_assoc]
      exact Option.bind_congr fun between _ => ih between

theorem next_of_late (hlate : deadline ≤ transport.now pending.world) :
    pending.next transport deadline = none := if_pos (.inr hlate)

/-- A write leaves no more than there was, and no earlier time. -/
theorem onward_of_next (honward : transport.WritesOnward)
    (hnext : pending.next transport deadline = some later) :
    later.rest.length ≤ pending.rest.length ∧
      transport.now pending.world ≤ transport.now later.world := by
  rw [next] at hnext
  split at hnext
  · cases hnext
  · split at hnext
    · next count world hwrite =>
        cases hnext
        exact ⟨(List.drop_sublist _ _).length_le, honward _ _ _ _ _ hwrite⟩
    · cases hnext

theorem onward_of_afterWrites (honward : transport.WritesOnward) {writes : Nat}
    (hlater : pending.afterWrites transport deadline writes = some later) :
    later.rest.length ≤ pending.rest.length ∧
      transport.now pending.world ≤ transport.now later.world := by
  induction writes generalizing pending with
  | zero =>
      cases hlater
      exact ⟨Nat.le_refl _, Nat.le_refl _⟩
  | succ writes ih =>
      obtain ⟨between, hnext, hmore⟩ := Option.bind_eq_some_iff.mp hlater
      obtain ⟨hleft, htime⟩ := onward_of_next honward hnext
      obtain ⟨hleft', htime'⟩ := ih hmore
      exact ⟨hleft'.trans hleft, htime.trans htime'⟩

/-- A loop that never idles for ever ends.  The induction is on what is left to write
and the time that is left to do it. -/
theorem Lively.ends (honward : transport.WritesOnward) (hlively : Lively transport deadline start) :
    ∃ writes, start.afterWrites transport deadline writes = none := by
  have hends : ∀ left writes pending, start.afterWrites transport deadline writes = some pending →
      pending.rest.length + (deadline - transport.now pending.world) = left →
      ∃ writes, start.afterWrites transport deadline writes = none := by
    intro left
    induction left using Nat.strong_induction_on with
    | _ left ih =>
        rintro writes pending hpending rfl
        -- Past the deadline the time that is left says nothing, but there is no next write.
        by_cases hlate : deadline ≤ transport.now pending.world
        · refine ⟨writes + 1, ?_⟩
          rw [afterWrites_add, hpending, Option.bind_some, afterWrites, next_of_late hlate,
            Option.bind_none]
        · obtain ⟨more, hmore⟩ := hlively writes pending hpending
          cases hlater : start.afterWrites transport deadline (writes + more) with
          | none => exact ⟨_, hlater⟩
          | some later =>
              have hprogress := hmore later hlater
              refine ih _ ?_ (writes + more) later hlater rfl
              rw [afterWrites_add, hpending] at hlater
              obtain ⟨hleft, htime⟩ := onward_of_afterWrites honward hlater
              omega
  exact hends _ 0 start rfl rfl

end Pending

/-- A loop makes no more writes than it takes to its end, however many are in hand. -/
theorem Handover.length_le {transport : Transport σ} {total limit deadline inHand writes : Nat}
    {rest : List UInt8} {world after : σ} {calls : List WriteCall} {result : Except LinkError Unit}
    (h : Handover transport total limit deadline inHand rest world calls result after)
    (hends : Pending.afterWrites transport deadline writes ⟨rest, world⟩ = none) :
    calls.length ≤ writes := by
  induction h generalizing writes with
  | done => exact Nat.zero_le _
  | stalled _ => exact Nat.zero_le _
  | expired _ _ => exact Nat.zero_le _
  | broken _ _ _ =>
      cases writes with
      | zero => cases hends
      | succ writes => exact Nat.le_add_left 1 writes
  | @more _ count rest world between _ _ _ hrest hearly hwrite _ ih =>
      cases writes with
      | zero => cases hends
      | succ writes =>
          have hnext : Pending.next transport deadline ⟨rest, world⟩ =
              some ⟨rest.drop count, between⟩ := by
            rw [Pending.next, if_neg (not_or.mpr ⟨hrest, Nat.not_le.mpr hearly⟩), hwrite]
          rw [Pending.afterWrites, hnext] at hends
          exact Nat.succ_le_succ (ih hends)

/-- Writing turns neither the clock nor the patience back up, and a write that has time
and takes nothing uses some of either. -/
structure Transport.PatientWrites (transport : Transport σ) : Prop where
  onward : transport.WritesOnward
  patience_le : ∀ bytes mode before count after,
    transport.write bytes mode before = .ok count after →
      transport.patience after ≤ transport.patience before
  idle : ∀ bytes mode before after, bytes ≠ [] → transport.write bytes mode before = .ok 0 after →
    transport.now before < transport.now after ∨
      transport.patience after < transport.patience before

/-- A write of a patient link takes a byte, some time, or some patience. -/
theorem Pending.progress_of_next {transport : Transport σ} {deadline : Nat}
    {pending later : Pending σ} (hpatient : transport.PatientWrites)
    (hnext : pending.next transport deadline = some later) :
    (later.rest.length < pending.rest.length ∨
        transport.now pending.world < transport.now later.world) ∨
      transport.patience later.world < transport.patience pending.world := by
  rw [next] at hnext
  split at hnext
  · cases hnext
  · next hgoing =>
      have hrest : pending.rest ≠ [] := fun hnone => hgoing (.inl hnone)
      split at hnext
      · next count world hwrite =>
          cases hnext
          rcases Nat.eq_zero_or_pos count with rfl | hcount
          · exact (hpatient.idle _ _ _ _ hrest hwrite).imp_left .inr
          · refine .inl (.inl ?_)
            have hsome := List.length_pos_iff.mpr hrest
            rw [List.length_drop]
            omega
      · cases hnext

/-- Without progress, and at one point of time, a link is soon out of patience.  The
induction is on the patience that is left. -/
theorem Pending.lively_of_patient {transport : Transport σ} (hpatient : transport.PatientWrites)
    (deadline : Nat) (start : Pending σ) : Lively transport deadline start := by
  have hprogress : ∀ patience (pending : Pending σ), transport.patience pending.world = patience →
      ∃ more, ∀ later, pending.afterWrites transport deadline more = some later →
        later.rest.length < pending.rest.length ∨
          transport.now pending.world < transport.now later.world := by
    intro patience
    induction patience using Nat.strong_induction_on with
    | _ patience ih =>
        rintro pending rfl
        cases hnext : pending.next transport deadline with
        | none =>
            refine ⟨1, fun later hlater => ?_⟩
            rw [afterWrites, hnext] at hlater
            cases hlater
        | some between =>
            obtain ⟨hleft, htime⟩ := onward_of_next hpatient.onward hnext
            rcases progress_of_next hpatient hnext with hprogress | hused
            · refine ⟨1, fun later hlater => ?_⟩
              rw [afterWrites, hnext] at hlater
              cases hlater
              exact hprogress
            · obtain ⟨more, hmore⟩ := ih _ hused between rfl
              refine ⟨more + 1, fun later hlater => ?_⟩
              rw [afterWrites, hnext] at hlater
              have hgone := hmore later hlater
              exact hgone.imp (fun hless => hless.trans_le hleft)
                (fun hlate => htime.trans_lt hlate)
  intro writes pending hpending
  obtain ⟨more, hmore⟩ := hprogress _ pending rfl
  refine ⟨more, fun later hlater => hmore later ?_⟩
  rwa [afterWrites_add, hpending] at hlater

/-- A loop on a patient link makes no more writes than it has bytes, time and patience. -/
theorem Handover.length_le_of_patient {transport : Transport σ}
    {total limit deadline inHand : Nat} {rest : List UInt8} {world after : σ}
    {calls : List WriteCall} {result : Except LinkError Unit} (hpatient : transport.PatientWrites)
    (h : Handover transport total limit deadline inHand rest world calls result after) :
    calls.length ≤ rest.length + (deadline - transport.now world) + transport.patience world := by
  induction h with
  | done => exact Nat.zero_le _
  | stalled _ => exact Nat.zero_le _
  | expired _ _ => exact Nat.zero_le _
  | broken hrest _ _ =>
      have hsome := List.length_pos_iff.mpr hrest
      rw [List.length_singleton]
      omega
  | @more _ count rest world between _ _ _ hrest hearly hwrite _ ih =>
      have hsome := List.length_pos_iff.mpr hrest
      have htime := hpatient.onward _ _ _ _ _ hwrite
      have hpatience := hpatient.patience_le _ _ _ _ _ hwrite
      rw [List.length_cons]
      rw [List.length_drop] at ih
      rcases Nat.eq_zero_or_pos count with rfl | hcount
      · have hused := hpatient.idle _ _ _ _ hrest hwrite
        omega
      · omega

namespace Posted

variable {transport : Transport σ}

open Handle

/-- A loop that leaves a write in hand has no use for another one.  The induction is on
the writes in hand; the record counts those that were made. -/
theorem writeRest_of_spare (total limit deadline inHand : Nat) (rest : List UInt8)
    {station : Station (Posted σ)} (hwritable : station.handle.mode = some .readWrite)
    (hspare : ((writeRest (link transport) total limit deadline inHand rest).outcome
      station).2.world.calls.length < station.world.calls.length + inHand) :
    (writeRest (link transport) total limit deadline (inHand + 1) rest).outcome station =
      (writeRest (link transport) total limit deadline inHand rest).outcome station := by
  induction inHand generalizing rest station with
  | zero =>
      rcases eq_or_ne rest [] with rfl | hrest
      · rw [writeRest_of_nil, writeRest_of_nil]
      · rw [writeRest_of_none_in_hand hrest] at hspare
        exact absurd hspare (Nat.lt_irrefl _)
  | succ inHand ih =>
      rcases eq_or_ne rest [] with rfl | hrest
      · rw [writeRest_of_nil, writeRest_of_nil]
      · rcases Nat.lt_or_ge (transport.now station.world.world) deadline with hearly | hlate
        · rw [writeRest_of_early hrest hearly, outcome_bind, now_link] at hspare
          rw [writeRest_of_early hrest hearly, writeRest_of_early hrest hearly, outcome_bind,
            outcome_bind, now_link]
          rcases outcome_write transport hwritable hrest
              (.blocking (deadline - transport.now station.world.world)) with
            ⟨count, between, houtcome, hhandle, _, hposted⟩ | ⟨error, after, houtcome, _⟩
          · simp only [houtcome] at hspare ⊢
            apply ih (rest.drop count) (hhandle ▸ hwritable)
            rw [hposted, List.length_append, List.length_singleton]
            omega
          · rw [houtcome]
        · rw [writeRest_of_late hrest hlate, writeRest_of_late hrest hlate]

/-- All of a buffer is written by offering what is left of it for the time that is left,
until nothing is.  That takes every byte once and in its place; it succeeds if, and only
if, all was taken, whatever the time, and otherwise it ends because the time is over or
because a write failed.  With any number of writes in hand it is the same; and unless the
link idles for ever there is a number that is never used up, so that more of them change
nothing.  On a patient link, there are always as many.  That writes are recorded changes
nothing either. -/
theorem short_writes_deliver (transport : Transport σ) (data : List UInt8) (limit : Nat)
    (station : Station (Posted σ)) (hwritable : station.handle.mode = some .readWrite)
    (hfresh : station.world.calls = []) :
    let start := station.world.world
    let deadline := transport.now start + limit
    let inHand := data.length + limit + transport.patience start + 1
    let loop (inHand : Nat) :=
      (writeRest (link transport) data.length limit deadline inHand data).outcome station
    Mirrors (Station.seen Posted.world) (writeAll (link transport) data limit)
        (writeAll transport data limit) station ∧
      (writeAll (link transport) data limit).outcome station = loop inHand ∧
      (∀ inHand result after, loop inHand = (result, after) →
        Handed transport data limit deadline inHand after.world.calls result
          after.world.world) ∧
      (transport.WritesOnward → Pending.Lively transport deadline ⟨data, start⟩ →
        ∃ bound, ∀ inHand, (loop inHand).2.world.calls.length < bound ∧
          (bound ≤ inHand → loop inHand = loop bound)) ∧
      (transport.PatientWrites → ∀ more, inHand ≤ more → loop more = loop inHand) := by
  intro start deadline inHand loop
  -- A loop with enough writes in hand leaves one, so that another one changes nothing.
  have hloop : ∀ bound, (∀ inHand, (loop inHand).2.world.calls.length < bound) →
      ∀ inHand, bound ≤ inHand → loop inHand = loop bound := by
    intro bound hbound inHand hle
    induction inHand, hle using Nat.le_induction with
    | base => rfl
    | succ inHand hle ih =>
        rw [← ih]
        refine writeRest_of_spare _ _ _ _ _ hwritable ?_
        rw [hfresh, List.length_nil, Nat.zero_add]
        exact (hbound inHand).trans_le hle
  refine ⟨mirrors_writeAll (link_observesWrites transport) data limit station, rfl, ?_, ?_, ?_⟩
  · intro inHand result after houtcome
    exact (handover_of_outcome hwritable hfresh houtcome).handed
  · intro honward hlively
    obtain ⟨writes, hends⟩ := hlively.ends honward
    have hbound : ∀ inHand, (loop inHand).2.world.calls.length < writes + 1 := by
      intro inHand
      exact Nat.lt_succ_of_le ((handover_of_outcome hwritable hfresh rfl).length_le hends)
    exact ⟨writes + 1, fun inHand => ⟨hbound inHand, hloop _ hbound inHand⟩⟩
  · intro hpatient
    apply hloop
    intro more
    have hhandover : Handover transport data.length limit deadline more data start
        (loop more).2.world.calls (loop more).1 (loop more).2.world.world :=
      handover_of_outcome hwritable hfresh rfl
    have hle := hhandover.length_le_of_patient hpatient
    rw [Nat.add_sub_cancel_left] at hle
    exact Nat.lt_succ_of_le hle

end Posted

namespace Faulty

theorem length_of_next? {point : FaultPoint} {faults rest : List (FaultPoint × Fault)}
    {fault : Fault} (hnext : next? point faults = some (fault, rest)) :
    rest.length < faults.length := by
  induction faults generalizing rest with
  | nil => cases hnext
  | cons queued faults ih =>
      obtain ⟨other, first⟩ := queued
      rw [next?] at hnext
      split at hnext
      · cases hnext
        exact Nat.lt_succ_self _
      · obtain ⟨⟨found, left⟩, hfound, hrest⟩ := Option.map_eq_some_iff.mp hnext
        cases hrest
        exact Nat.succ_lt_succ (ih hfound)

/-- A fault is met once. -/
theorem meet_uses (sleep : Nat → σ → σ) (point : FaultPoint) (faulty : Faulty σ) :
    Leads (meet sleep point) faulty
      (fun limit after => after.faults.length ≤ faulty.faults.length ∧
        (limit ≠ none → after.faults.length < faulty.faults.length))
      (fun _ _ => True) := by
  simp only [meet, leads_bind, leads_get]
  split
  · exact ⟨Nat.le_refl _, fun hlimit => absurd rfl hlimit⟩
  · next fault rest hnext =>
      have hless := length_of_next? hnext
      simp only [leads_bind, leads_set]
      split
      · trivial
      · exact ⟨hless.le, fun _ => hless⟩

end Faulty

namespace Scripted

open Faulty

theorem clock_accept (state : State) (bytes : List UInt8) :
    (state.accept bytes).clock = state.clock := by
  simp only [State.accept]
  split
  · rfl
  · split <;> rfl

/-- A write takes what it is offered, or meets a fault. -/
theorem faultyWrite_leads (bytes : List UInt8) (mode : IoMode) (faulty : Faulty State) :
    Leads (faultyLink.write bytes mode) faulty
      (fun count after => faulty.world.clock ≤ after.world.clock ∧
        after.faults.length ≤ faulty.faults.length ∧
        (bytes ≠ [] → count = 0 → after.faults.length < faulty.faults.length))
      (fun _ _ => True) := by
  have hinner (offered : List UInt8) (between : Faulty State) :
      Leads (Faulty.inner (transport.write offered mode)) between
        (fun count after => count = offered.length ∧ after.world.clock = between.world.clock ∧
          after.faults = between.faults)
        (fun _ _ => True) := by
    rw [Faulty.inner, leads_within]
    exact ⟨rfl, clock_accept _ _, rfl⟩
  simp only [faultyLink, Transport.faulty, leads_bind]
  apply ((meet_leads .write faulty).and (meet_uses _ .write faulty)).mono
  · intro limit between hmet
    obtain ⟨⟨hclock, _⟩, hfaults, hused⟩ := hmet
    split
    · apply (hinner bytes between).mono
      · intro count after hdone
        obtain ⟨hcount, hsame, hleft⟩ := hdone
        rw [hsame, hleft]
        refine ⟨hclock, hfaults, fun hbytes hnone => ?_⟩
        exact absurd (List.length_eq_zero_iff.mp (hcount.symm.trans hnone)) hbytes
      · intro _ _ _
        trivial
    · exact ⟨hclock, hfaults, fun _ _ => hused (Option.some_ne_none _)⟩
    · apply (hinner (bytes.take _) between).mono
      · intro count after hdone
        obtain ⟨_, hsame, hleft⟩ := hdone
        rw [hsame, hleft]
        exact ⟨hclock, hfaults, fun _ _ => hused (Option.some_ne_none _)⟩
      · intro _ _ _
        trivial
  · intro _ _ _
    trivial

theorem faultyLink_patientWrites : faultyLink.PatientWrites where
  onward bytes mode before count after hwrite := by
    have hends := faultyWrite_leads bytes mode before
    rw [Leads, hwrite] at hends
    exact hends.1
  patience_le bytes mode before count after hwrite := by
    have hends := faultyWrite_leads bytes mode before
    rw [Leads, hwrite] at hends
    exact Nat.add_le_add_left hends.2.1 _
  idle bytes mode before after hbytes hwrite := by
    have hends := faultyWrite_leads bytes mode before
    rw [Leads, hwrite] at hends
    exact .inr (Nat.add_lt_add_left (hends.2.2 hbytes rfl) _)

/-- A link that takes two bytes late, then none, and the others after the time is over. -/
def hesitant : Station (Posted (Faulty State)) :=
  (Attached.opened {} {
    world := {
      world := {}
      faults := [(.write, { delay := 10, short := some 2 }),
        (.write, { delay := 5, short := some 0 }), (.write, { delay := 40 })] } }).station

end Scripted

open Scripted in
/-- Five bytes in three writes, the last of which comes back after the deadline. -/
theorem Posted.short_writes_deliver_late :
    let data : List UInt8 := [1, 2, 3, 4, 5]
    let loop (inHand : Nat) :=
      (Handle.writeRest (link faultyLink) 5 30 30 inHand data).outcome hesitant
    hesitant.handle.mode = some .readWrite ∧ hesitant.world.calls = [] ∧
      faultyLink.WritesOnward ∧ Pending.Lively faultyLink 30 ⟨data, hesitant.world.world⟩ ∧
      faultyLink.PatientWrites ∧
      (∃ ended, (Handle.writeAll (link faultyLink) data 30).outcome hesitant = ended ∧
        ended.1 = .ok () ∧ ended.2.world.world.world.clock = 55 ∧
        ended.2.world.calls =
          [⟨[1, 2, 3, 4, 5], .blocking 30, 0, .ok 2⟩, ⟨[3, 4, 5], .blocking 20, 10, .ok 0⟩,
            ⟨[3, 4, 5], .blocking 15, 15, .ok 3⟩] ∧
        Handed faultyLink data 30 30 39 ended.2.world.calls ended.1 ended.2.world.world) ∧
      (∃ bound, ∀ inHand, (loop inHand).2.world.calls.length < bound ∧
        (bound ≤ inHand → loop inHand = loop bound)) ∧
      loop 100 = loop 39 := by
  intro data loop
  have honward := faultyLink_patientWrites.onward
  have hlively := Pending.lively_of_patient faultyLink_patientWrites 30
    ⟨data, hesitant.world.world⟩
  obtain ⟨_, hall, hdelivers, hends, hpatient⟩ :=
    short_writes_deliver faultyLink data 30 hesitant rfl rfl
  exact ⟨rfl, rfl, honward, hlively, faultyLink_patientWrites,
    ⟨_, rfl, by decide +kernel, by decide +kernel, by decide +kernel,
      hdelivers 39 _ _ hall.symm⟩,
    hends honward hlively, hpatient faultyLink_patientWrites 100 (by decide)⟩

end InstrumentLink
