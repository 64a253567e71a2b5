import InstrumentLink.Proofs.ObservedLink
import InstrumentLink.Proofs.PacedSilence
import InstrumentLink.Proofs.TransactionErrors
import InstrumentLink.Transport.Faulty

/-!
# How long a reception waits

To say how long a reception waited, the reads that delivered something are
recorded, each with the time at which it was over.  A silence is given up after
whole windows, at the first of them that reaches the read timeout; and never
earlier than the timeout, even if reads are delayed.
-/

namespace InstrumentLink

open LinkM FramedLink

variable {σ : Type}

structure Reading where
  time : Nat
  bytes : List UInt8
  deriving DecidableEq, Repr

structure Timed (σ : Type) where
  world : σ
  readings : List Reading := []

namespace Timed

def taken (timed : Timed σ) : List UInt8 := timed.readings.flatMap Reading.bytes

/-- When the last byte was read; without one, when the reading began. -/
def last (begun : Nat) (timed : Timed σ) : Nat :=
  (timed.readings.getLast?.map Reading.time).getD begun

def link (transport : Transport σ) : Transport (Timed σ) :=
  { transport.within Timed.world (fun timed world => { timed with world }) with
    read := fun room mode timed =>
      match transport.read room mode timed.world with
      | .ok [] world => .ok [] { timed with world }
      | .ok (first :: more) world =>
          .ok (first :: more)
            { world, readings := timed.readings ++ [⟨transport.now world, first :: more⟩] }
      | .error error world => .error error { timed with world } }

variable {transport : Transport σ} {room : Nat} {mode : IoMode} {before after : Timed σ}

theorem silence_of_link (hread : (link transport).read room mode before = .ok [] after) :
    transport.read room mode before.world = .ok [] after.world ∧
      after.readings = before.readings := by
  simp only [link] at hread
  split at hread
  · next hinner =>
      cases hread
      exact ⟨hinner, rfl⟩
  · cases hread
  · cases hread

theorem delivery_of_link {first : UInt8} {more : List UInt8}
    (hread : (link transport).read room mode before = .ok (first :: more) after) :
    transport.read room mode before.world = .ok (first :: more) after.world ∧
      after.readings =
        before.readings ++ [⟨transport.now after.world, first :: more⟩] := by
  simp only [link] at hread
  split at hread
  · cases hread
  · next hinner =>
      cases hread
      exact ⟨hinner, rfl⟩
  · cases hread

theorem failure_of_link {error : LinkError}
    (hread : (link transport).read room mode before = .error error after) :
    transport.read room mode before.world = .error error after.world := by
  simp only [link] at hread
  split at hread
  · cases hread
  · cases hread
  · next hinner =>
      cases hread
      exact hinner

/-- The record changes nothing on the link. -/
theorem link_observes (transport : Transport σ) :
    (link transport).Observes Timed.world transport where
  backend := rfl
  now _ := rfl
  patience _ := rfl
  read room mode timed := by
    simp only [Mirrors, outcome, link]
    cases transport.read room mode timed.world with
    | ok bytes world => cases bytes <;> rfl
    | error error world => rfl
  flush timed := mirrors_within (fun _ _ => rfl) transport.flush timed

/-- What was taken, and since when there is silence, is on record. -/
theorem recorded_of_listening {timeout since : Nat} {start world : Timed σ} {taken : List UInt8}
    (hstart : start.readings = [])
    (hlistening : Listening (link transport) timeout start since taken world) :
    Listening transport timeout start.world since taken world.world ∧
      world.taken = taken ∧ world.last (transport.now start.world) = since := by
  induction hlistening with
  | begun => exact ⟨.begun, by rw [Timed.taken, hstart]; rfl, by rw [last, hstart]; rfl⟩
  | silence _ hroom hread hwaiting ih =>
      obtain ⟨hinner, hreadings⟩ := silence_of_link hread
      obtain ⟨hlistening, htaken, hlast⟩ := ih
      refine ⟨.silence hlistening hroom hinner hwaiting, ?_, ?_⟩
      · rw [Timed.taken, hreadings]
        exact htaken
      · rw [last, hreadings]
        exact hlast
  | delivery _ hroom hread ih =>
      obtain ⟨hinner, hreadings⟩ := delivery_of_link hread
      obtain ⟨hlistening, htaken, _⟩ := ih
      refine ⟨.delivery hlistening hroom hinner, ?_, ?_⟩
      · rw [Timed.taken, hreadings, List.flatMap_append, ← Timed.taken, htaken]
        simp
      · rw [last, hreadings, List.getLast?_concat]
        rfl

/-- Discarding records nothing. -/
theorem flush_of_link (transport : Transport σ) (related : σ → σ → Prop)
    (hrefl : ∀ world, related world world)
    (hflush : ∀ world, related world (transport.flush.outcome world).2)
    (station : Station (Timed σ)) :
    ((Handle.flush (link transport)).outcome station).2.world.readings = station.world.readings ∧
      related station.world.world
        ((Handle.flush (link transport)).outcome station).2.world.world := by
  refine (Handle.flush_relates (link transport) (fun before after =>
    after.readings = before.readings ∧ related before.world after.world) ?_ ?_ station).2
  · intro timed
    exact ⟨rfl, hrefl timed.world⟩
  · intro timed
    have hends := hflush timed.world
    rw [(link_observes transport).flush timed] at hends
    refine ⟨?_, hends⟩
    simp only [outcome, link, Transport.within, LinkM.within]
    cases transport.flush timed.world <;> rfl

end Timed

namespace Scripted

open Device State Timed

variable {timeout : Nat}

/-- A timed link falls silent when the scripted link does. -/
theorem link_failsAloud : (link transport).FailsAloud := by
  intro room mode before error after hread
  exact (read_ne_error (failure_of_link hread)).elim

theorem link_patient (timeout : Nat) : (link transport).Patient (window timeout) where
  onwards {room before bytes after} hread := by
    cases bytes with
    | nil => exact (patient timeout).onwards (silence_of_link hread).1
    | cons first more => exact (patient timeout).onwards (delivery_of_link hread).1
  silence hpos hread := (patient timeout).silence hpos (silence_of_link hread).1

def takenTrail (timeout : Nat) : (link transport).Trail (window timeout) where
  Took before bytes after := after.taken = before.taken ++ bytes
  nothing timed := (List.append_nil timed.taken).symm
  append hfirst hmore := by rw [hmore, hfirst, List.append_assoc]
  read {room before bytes after} hread := by
    cases bytes with
    | nil => rw [Timed.taken, (silence_of_link hread).2, List.append_nil, Timed.taken]
    | cons first more =>
        rw [Timed.taken, (delivery_of_link hread).2, List.flatMap_append, Timed.taken]
        simp
  room {room before bytes after} hread := by
    cases bytes with
    | nil => exact Nat.zero_le _
    | cons first more => exact length_le_of_read (delivery_of_link hread).1
  failure hread := (read_ne_error (failure_of_link hread)).elim

/-- What is left of a reception of a timed link, however it ended. -/
structure TimedEnd (request : Request) (timeout : Nat) (call : Nat)
    (result : Except LinkError Reply) (after : Timed State) : Prop where
  /-- There are always enough reads in hand. -/
  not_stalled : ∀ part, result ≠ .error (.stalled part)
  /-- A silence is given up after the longest one, and names what was awaited. -/
  timedOut : TimedOut result → result = .error (.timeout (request.awaits after.taken) timeout) ∧
    after.world.clock = after.last call + longestSilence timeout
  /-- Every byte, and the end, is waited for no longer than that. -/
  clock_le : after.world.clock ≤ call + (after.taken.length + 1) * longestSilence timeout

theorem clock_of_heard {start world : Timed State} (hstart : start.readings = [])
    (hheard : Heard (link transport) timeout start world) :
    world.world.clock ≤
      start.world.clock + (world.taken.length + 1) * longestSilence timeout := by
  obtain ⟨taken, hlistening⟩ := hheard
  obtain ⟨hinner, rfl, _⟩ := recorded_of_listening hstart hlistening
  obtain ⟨_, hpaced⟩ := paced_of_listening hinner
  exact hpaced.clock_le

theorem clock_of_unheard {start world : Timed State} {error : LinkError}
    (hstart : start.readings = []) (h : Unheard (link transport) timeout start error world) :
    (error.isTimeout = true →
        world.world.clock = world.last start.world.clock + longestSilence timeout) ∧
      world.world.clock ≤
        start.world.clock + (world.taken.length + 1) * longestSilence timeout := by
  cases h with
  | silent hlistening _ hread hover =>
      obtain ⟨hinner, rfl, rfl⟩ := recorded_of_listening hstart hlistening
      obtain ⟨hsilent, hreadings⟩ := silence_of_link hread
      obtain ⟨polls, hpaced⟩ := paced_of_listening hinner
      obtain ⟨hpolls, hclock⟩ := hpaced.polls_of_over hsilent hover
      rw [longestSilence_of_polls hpaced.waiting hpolls] at hclock
      have hsince := hpaced.since_le
      rw [Timed.taken, last, hreadings, ← Timed.taken, ← last]
      refine ⟨fun _ => hclock, ?_⟩
      rw [hclock, Nat.succ_mul]
      omega
  | broken _ hread => exact (read_ne_error (failure_of_link hread)).elim
  | spoken hlistening hspoken =>
      obtain ⟨hinner, rfl, _⟩ := recorded_of_listening hstart hlistening
      obtain ⟨_, hpaced⟩ := paced_of_listening hinner
      exact ⟨fun htimeout => absurd htimeout hspoken.not_isTimeout, hpaced.clock_le⟩

/-- Enough reads are in hand, so the link is never found stalled. -/
theorem ne_stalled_of_unread {request : Request} (hvalid : request.validate = .ok ())
    {before : Attached (Timed State)} {after : Station (Timed State)} {error : LinkError}
    (hunread : Unread request before (takenTrail before.device.config.readTimeout) error after)
    (part : String) : error ≠ .stalled part := by
  rintro rfl
  obtain ⟨_, taken, ⟨_, _, hdecoded⟩ | ⟨_, hinterrupted⟩⟩ := hunread
  · cases Request.remote_decodeFront hvalid _ _ _ hdecoded
  · cases hinterrupted with
    | stalled hpatient _ => exact hpatient (link_patient _)
    | failed _ _ hfailure =>
        cases hfailure with
        | transport hread => exact (read_ne_error (failure_of_link hread)).elim

theorem readReply_timed {request : Request} (hvalid : request.validate = .ok ())
    (attached : Attached (Timed State)) (hfresh : attached.station.world.readings = []) :
    Leads (readReply (link transport) request) attached
      (fun reply after => TimedEnd request attached.device.config.readTimeout
        attached.station.world.world.clock (.ok reply) after.station.world)
      (fun error after => TimedEnd request attached.device.config.readTimeout
        attached.station.world.world.clock (.error error) after.station.world) := by
  apply ((readReply_listens attached).and ((readReply_leads hvalid attached (takenTrail _)).and
    (readReply_names hvalid link_failsAloud attached (takenTrail _)))).mono
  · intro reply after hdone
    exact { not_stalled := nofun, timedOut := nofun, clock_le := clock_of_heard hfresh hdone.1 }
  · intro error after hfailed
    obtain ⟨hunheard, hunread, hnamed⟩ := hfailed
    obtain ⟨hclock, hclock_le⟩ := clock_of_unheard hfresh hunheard
    refine ⟨?_, ?_, hclock_le⟩
    · intro part hstalled
      exact ne_stalled_of_unread hvalid hunread part (Except.error.inj hstalled)
    · intro htimeout
      obtain ⟨taken, awaited, htook, rfl, rfl⟩ := hnamed htimeout
      have hall : after.station.world.taken = taken := by
        rw [show after.station.world.taken = _ from htook, Timed.taken, hfresh]
        rfl
      rw [hall]
      exact ⟨rfl, hclock htimeout⟩

theorem TimedEnd.of_flush {request : Request} {call : Nat} {result : Except LinkError Reply}
    {before after : Timed State} (h : TimedEnd request timeout call result before)
    (hreadings : after.readings = before.readings)
    (hclock : after.world.clock = before.world.clock) :
    TimedEnd request timeout call result after := by
  have htaken : after.taken = before.taken := by rw [Timed.taken, hreadings, Timed.taken]
  have hlast : after.last call = before.last call := by rw [last, hreadings, last]
  refine ⟨h.not_stalled, ?_, ?_⟩
  · rw [htaken, hclock, hlast]
    exact h.timedOut
  · rw [htaken, hclock]
    exact h.clock_le

theorem timedEnd_of_receive {request : Request} (hvalid : request.validate = .ok ())
    (attached : Attached (Timed State)) (hfresh : attached.station.world.readings = []) :
    TimedEnd request attached.device.config.readTimeout attached.station.world.world.clock
      ((receive (link transport) request).outcome attached).1
      ((receive (link transport) request).outcome attached).2.station.world := by
  refine (leads_iff_outcome _ _ fun result (after : Attached (Timed State)) =>
    TimedEnd request attached.device.config.readTimeout attached.station.world.world.clock result
      after.station.world).mp ?_
  apply (receive_leads_of_readReply (readReply_timed hvalid
    { attached with device := { attached.device with outstanding := false } } hfresh)).mono
  · intro reply after hdone
    exact hdone
  · intro error after hfailed
    obtain ⟨unread, hends, hafter⟩ := hfailed
    rw [hafter]
    split
    · exact hends
    · obtain ⟨hreadings, hclock⟩ := flush_of_link transport
        (fun before after => after.clock = before.clock) (fun _ => rfl) (fun _ => rfl)
        unread.station
      exact hends.of_flush hreadings hclock

end Scripted

/-! ### Delayed reads -/

namespace Faulty

/-- No fault lets its operation fail. -/
def Harmless (faulty : Faulty σ) : Prop := ∀ entry ∈ faulty.faults, entry.2.error = none

theorem next?_eq_some {point : FaultPoint} {faults rest : List (FaultPoint × Fault)} {fault : Fault}
    (hnext : next? point faults = some (fault, rest)) :
    (point, fault) ∈ faults ∧ rest ⊆ faults := by
  induction faults generalizing rest with
  | nil => cases hnext
  | cons queued faults ih =>
      obtain ⟨other, first⟩ := queued
      rw [next?] at hnext
      split at hnext
      · next hpoint =>
          cases hnext
          exact ⟨hpoint ▸ List.mem_cons_self, List.subset_cons_self _ _⟩
      · obtain ⟨⟨found, left⟩, hfound, hrest⟩ := Option.map_eq_some_iff.mp hnext
        cases hrest
        obtain ⟨hmem, hsubset⟩ := ih hfound
        exact ⟨List.mem_cons_of_mem _ hmem, List.cons_subset_cons _ hsubset⟩

end Faulty

namespace Scripted

open Device State Timed Faulty

def faultyLink : Transport (Faulty State) :=
  transport.faulty (fun time state => state.sleep time) State.settle

/-- Meeting a fault takes time at most. -/
theorem meet_leads (point : FaultPoint) (faulty : Faulty State) :
    Leads (meet (fun time (state : State) => state.sleep time) point) faulty
      (fun _ after => faulty.world.clock ≤ after.world.clock ∧ (faulty.Harmless → after.Harmless))
      (fun _ after => faulty.world.clock ≤ after.world.clock ∧ ¬faulty.Harmless) := by
  have hdelay (time : Nat) : faulty.world.clock ≤
      (if point.takesTime then faulty.world.sleep time else faulty.world).clock := by
    split
    · exact Nat.le_add_right _ _
    · exact Nat.le_refl _
  simp only [meet, leads_bind, leads_get]
  split
  · exact ⟨Nat.le_refl _, id⟩
  · next fault rest hnext =>
      obtain ⟨hmem, hsubset⟩ := next?_eq_some hnext
      simp only [leads_bind, leads_set]
      split
      · next error herror =>
          refine ⟨hdelay fault.delay, fun hharmless => ?_⟩
          rw [hharmless _ hmem] at herror
          cases herror
      · exact ⟨hdelay fault.delay, fun hharmless entry hentry => hharmless entry (hsubset hentry)⟩

/-- A link without harmful faults does not break. -/
theorem faultyRead_leads (room : Nat) (mode : IoMode) {faulty : Faulty State}
    (hharmless : faulty.Harmless) :
    Leads (faultyLink.read room mode) faulty (fun _ after => after.Harmless)
      (fun _ _ => False) := by
  have hinner (room : Nat) (between : Faulty State) (hbetween : between.Harmless) :
      Leads (Faulty.inner (transport.read room mode)) between (fun _ after => after.Harmless)
        (fun _ _ => False) := by
    rw [Faulty.inner, leads_within, Leads]
    split
    · exact hbetween
    · next hread => exact read_ne_error hread
  simp only [faultyLink, Transport.faulty, leads_bind]
  apply (meet_leads .read faulty).mono
  · intro limit between hmet
    have hbetween : between.Harmless := hmet.2 hharmless
    simp only [Faulty.inner, leads_within, leads_modify]
    split
    · exact hinner _ _ hbetween
    · exact hbetween
    · exact hinner _ _ hbetween
  · intro _ _ hmet
    exact hmet.2 hharmless

theorem harmless_of_read {room : Nat} {mode : IoMode} {bytes : List UInt8}
    {before after : Faulty State} (hharmless : before.Harmless)
    (hread : faultyLink.read room mode before = .ok bytes after) : after.Harmless := by
  have hends := faultyRead_leads room mode hharmless
  rwa [Leads, hread] at hends

theorem faultyRead_ne_error {room : Nat} {mode : IoMode} {error : LinkError}
    {before after : Faulty State} (hharmless : before.Harmless) :
    faultyLink.read room mode before ≠ .error error after := by
  intro hread
  have hends := faultyRead_leads room mode hharmless
  rwa [Leads, hread] at hends

/-- Discarding does not turn the clock back. -/
theorem onwards_of_flush (faulty : Faulty State) :
    faulty.world.clock ≤ (faultyLink.flush.outcome faulty).2.world.clock := by
  refine (leads_iff_world _ _ fun after : Faulty State =>
    faulty.world.clock ≤ after.world.clock).mp ?_
  simp only [faultyLink, Transport.faulty, looking, guarded, leads_bind]
  apply (meet_leads .flush faulty).mono
  · intro _ between hmet
    exact hmet.1
  · intro _ _ hmet
    exact hmet.1

theorem harmless_of_listening {timeout since : Nat} {taken : List UInt8}
    {start world : Faulty State} (hstart : start.Harmless)
    (hlistening : Listening faultyLink timeout start since taken world) :
    world.Harmless := by
  induction hlistening with
  | begun => exact hstart
  | silence _ _ hread _ ih => exact harmless_of_read ih hread
  | delivery _ _ hread ih => exact harmless_of_read ih hread

/-- A silence that is given up has lasted for the timeout. -/
theorem waited_of_unheard {timeout : Nat} {start world : Timed (Faulty State)} {error : LinkError}
    (hstart : start.readings = []) (hharmless : start.world.Harmless)
    (h : Unheard (link faultyLink) timeout start error world) (htimeout : error.isTimeout = true) :
    timeout ≤ world.world.world.clock - world.last start.world.world.clock := by
  cases h with
  | silent hlistening _ hread hover =>
      obtain ⟨_, _, rfl⟩ := recorded_of_listening hstart hlistening
      rw [last, (silence_of_link hread).2]
      exact hover
  | broken hlistening hread =>
      obtain ⟨hinner, _⟩ := recorded_of_listening hstart hlistening
      exact absurd (failure_of_link hread)
        (faultyRead_ne_error (harmless_of_listening hharmless hinner))
  | spoken _ hspoken => exact absurd htimeout hspoken.not_isTimeout

theorem waited_of_receive (request : Request) (attached : Attached (Timed (Faulty State)))
    (hfresh : attached.station.world.readings = [])
    (hharmless : attached.station.world.world.Harmless)
    (htimeout : TimedOut ((receive (link faultyLink) request).outcome attached).1) :
    attached.device.config.readTimeout ≤
      ((receive (link faultyLink) request).outcome attached).2.station.world.world.world.clock -
        ((receive (link faultyLink) request).outcome attached).2.station.world.last
          attached.station.world.world.world.clock := by
  revert htimeout
  refine (leads_iff_outcome _ _ fun result (after : Attached (Timed (Faulty State))) =>
    TimedOut result → attached.device.config.readTimeout ≤ after.station.world.world.world.clock -
      after.station.world.last attached.station.world.world.world.clock).mp ?_
  apply (receive_listens attached).mono
  · intro reply after _
    exact False.elim
  · intro error after hfailed htimeout
    obtain ⟨unread, hunheard, hafter⟩ := hfailed
    have hwaited := waited_of_unheard hfresh hharmless hunheard htimeout
    rw [hafter]
    split
    · exact hwaited
    · obtain ⟨hreadings, hclock⟩ := flush_of_link faultyLink
        (fun before after => before.world.clock ≤ after.world.clock) (fun _ => Nat.le_refl _)
        onwards_of_flush unread.station
      rw [last, hreadings, ← last]
      exact Nat.le_trans hwaited (Nat.sub_le_sub_right hclock _)

/-- A reception of a reply to a request that was sent always ends.  It gives a
silence up after the longest one, and never earlier than the timeout, even if
reads are delayed.  That reads are recorded changes nothing. -/
theorem silence_is_timed {request : Request} {sender : Attached State}
    (hsent : ((send transport request).outcome sender).1 = .ok ()) :
    (∀ attached : Attached (Timed State), attached.station.world.readings = [] →
        Mirrors (Attached.seen Timed.world) (receive (link transport) request)
          (receive transport request) attached ∧
        TimedEnd request attached.device.config.readTimeout attached.station.world.world.clock
          ((receive (link transport) request).outcome attached).1
          ((receive (link transport) request).outcome attached).2.station.world) ∧
      (∀ attached : Attached (Timed (Faulty State)), attached.station.world.readings = [] →
        attached.station.world.world.Harmless →
        Mirrors (Attached.seen Timed.world) (receive (link faultyLink) request)
          (receive faultyLink request) attached ∧
        (TimedOut ((receive (link faultyLink) request).outcome attached).1 →
          attached.device.config.readTimeout ≤
            ((receive (link faultyLink) request).outcome
                attached).2.station.world.world.world.clock -
              ((receive (link faultyLink) request).outcome attached).2.station.world.last
                attached.station.world.world.world.clock)) ∧
      longestSilence 0 = 0 ∧
      ∀ timeout, longestSilence timeout = min 10 timeout * (timeout ⌈/⌉ min 10 timeout) ∧
        timeout ≤ longestSilence timeout ∧ longestSilence timeout < timeout + 10 := by
  refine ⟨?_, ?_, longestSilence_zero, ?_⟩
  · intro attached hfresh
    exact ⟨mirrors_receive (link_observes transport) request attached,
      timedEnd_of_receive (validate_of_sent hsent) attached hfresh⟩
  · intro attached hfresh hharmless
    exact ⟨mirrors_receive (link_observes faultyLink) request attached,
      waited_of_receive request attached hfresh hharmless⟩
  · intro timeout
    exact ⟨rfl, le_longestSilence timeout, longestSilence_lt timeout⟩

def brokenOff : State := { arrivals := [⟨12, [1, 3]⟩] }

/-- A link that delays a read for longer than it is waited for. -/
def dragging : Faulty State := { world := {}, faults := [(.read, { delay := 40 })] }

theorem silence_is_timed_broken_off :
    let timed : Attached (Timed State) := .opened { readTimeout := 25 } { world := brokenOff }
    let delayed : Attached (Timed (Faulty State)) :=
      .opened { readTimeout := 25 } { world := dragging }
    ((send transport (.readRegisters 0 1)).outcome (.opened {} {})).1 = .ok () ∧
      timed.station.world.readings = [] ∧
      (∃ ended, (receive (link transport) (.readRegisters 0 1)).outcome timed = ended ∧
        ended.1 = .error (.timeout (.reading "reply data" 0 3) 25) ∧
        ended.2.station.world.readings = [⟨20, [1]⟩, ⟨20, [3]⟩] ∧
        ended.2.station.world.world.clock = 50 ∧
        TimedEnd (.readRegisters 0 1) 25 0 ended.1 ended.2.station.world) ∧
      delayed.station.world.readings = [] ∧ delayed.station.world.world.Harmless ∧
      (∃ ended, (receive (link faultyLink) (.readRegisters 0 1)).outcome delayed = ended ∧
        TimedOut ended.1 ∧ ended.2.station.world.world.world.clock = 50 ∧
        25 ≤ ended.2.station.world.world.world.clock - ended.2.station.world.last 0) ∧
      longestSilence 25 = 30 := by
  intro timed delayed
  have hsent : ((send transport (.readRegisters 0 1)).outcome (.opened {} {})).1 = .ok () := by
    decide +kernel
  have hharmless : delayed.station.world.world.Harmless := by
    intro entry hentry
    obtain rfl := List.mem_singleton.mp hentry
    rfl
  have hlate : ((receive (link faultyLink) (.readRegisters 0 1)).outcome delayed).1 =
      .error (.timeout (.reading "reply address" 0 1) 25) := by
    decide +kernel
  have hsilent : TimedOut ((receive (link faultyLink) (.readRegisters 0 1)).outcome delayed).1 := by
    rw [hlate]
    rfl
  obtain ⟨htimed, hdelayed, _⟩ := silence_is_timed hsent
  exact ⟨hsent, rfl, ⟨_, rfl, by decide +kernel, by decide +kernel, by decide +kernel,
      (htimed timed rfl).2⟩, rfl, hharmless,
    ⟨_, rfl, hsilent, by decide +kernel, (hdelayed delayed rfl hharmless).2 hsilent⟩,
    by decide +kernel⟩

end Scripted

end InstrumentLink
