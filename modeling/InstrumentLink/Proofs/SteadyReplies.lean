import InstrumentLink.Proofs.PacedSilence
import InstrumentLink.Proofs.StreamedReception

/-!
# Slow but steady replies

A byte that arrives while the link is waited for is noticed when the link is
looked at next.  The last look of a wait comes a window before the silence is
given up, so a byte is missed if it arrives after that look, although the read
timeout has not passed.  A reply is received if and only if none of its bytes is.
-/

namespace InstrumentLink

namespace FramedLink

/-- When the link is looked at for the last time in a wait that is given up. -/
def lastLook (timeout : Nat) : Nat := longestSilence timeout - window timeout

theorem lastLook_of_polls {timeout polls : Nat}
    (hwaiting : polls = 0 ∨ window timeout * polls < timeout)
    (hover : timeout ≤ window timeout * (polls + 1)) :
    window timeout * polls = lastLook timeout := by
  rw [lastLook, ← longestSilence_of_polls hwaiting hover, Nat.mul_succ, Nat.add_sub_cancel]

/-- Every look comes in time for the last one. -/
theorem polls_le_lastLook {timeout polls : Nat}
    (hwaiting : polls = 0 ∨ window timeout * polls < timeout) :
    window timeout * polls ≤ lastLook timeout := by
  rcases hwaiting with rfl | hwaiting
  · exact Nat.zero_le _
  · have hwindow : 0 < window timeout := window_pos (Nat.zero_lt_of_lt hwaiting)
    have hmore : polls + 1 ≤ timeout ⌈/⌉ window timeout := by
      rw [Nat.succ_le_iff, ← not_le, ceilDiv_le_iff_le_mul hwindow]
      exact not_le_of_gt hwaiting
    have hlast := Nat.mul_le_mul_left (window timeout) hmore
    rw [← longestSilence, Nat.mul_succ] at hlast
    rw [lastLook]
    omega

theorem lastLook_bounds {timeout : Nat} (htimeout : 0 < timeout) :
    lastLook timeout < timeout ∧ timeout ≤ lastLook timeout + pollInterval := by
  have hwindow : window timeout ≤ pollInterval := Nat.min_le_left _ _
  have hround : window timeout * ((timeout + window timeout - 1) / window timeout) ≤
      timeout + window timeout - 1 := Nat.mul_div_le _ _
  have hreached := le_longestSilence timeout
  rw [← Nat.ceilDiv_eq_add_pred_div, ← longestSilence] at hround
  rw [lastLook]
  omega

/-- When a link that is waited for from `since` on is looked at first after the
given time. -/
def noticedAt (timeout since time : Nat) : Nat :=
  since + window timeout * ((time - since) ⌈/⌉ window timeout)

/-- Bytes that arrive at the given times are all noticed, each before the silence
in front of it is given up. -/
def InTime (timeout : Nat) : Nat → List Nat → Prop
  | _, [] => True
  | since, time :: rest =>
      time ≤ since + lastLook timeout ∧ InTime timeout (noticedAt timeout since time) rest

theorem noticedAt_of_le {timeout since time : Nat} (htime : time ≤ since) :
    noticedAt timeout since time = since := by
  rw [noticedAt, Nat.sub_eq_zero_of_le htime, zero_ceilDiv, Nat.mul_zero, Nat.add_zero]

theorem le_noticedAt {timeout since time : Nat} (htime : time ≤ since + lastLook timeout) :
    time ≤ noticedAt timeout since time := by
  cases Nat.eq_zero_or_pos timeout with
  | inl hzero =>
      have hnone : lastLook timeout = 0 := by rw [hzero]; rfl
      rw [noticedAt]
      omega
  | inr hpos =>
      have hreached := (ceilDiv_le_iff_le_mul (window_pos hpos)).mp
        (Nat.le_refl ((time - since) ⌈/⌉ window timeout))
      rw [noticedAt]
      omega

/-- A time between two looks is noticed at the second one. -/
theorem noticedAt_of_polls {timeout since time polls : Nat}
    (hbefore : since + window timeout * polls < time)
    (hafter : time ≤ since + window timeout * (polls + 1)) :
    noticedAt timeout since time = since + window timeout * (polls + 1) := by
  have hwindow : 0 < window timeout := by
    rw [Nat.mul_succ] at hafter
    omega
  have hatMost : (time - since) ⌈/⌉ window timeout ≤ polls + 1 :=
    (ceilDiv_le_iff_le_mul hwindow).mpr (by omega)
  have hatLeast : polls < (time - since) ⌈/⌉ window timeout := by
    rw [← not_le, ceilDiv_le_iff_le_mul hwindow]
    omega
  rw [noticedAt, Nat.le_antisymm hatMost hatLeast]

/-- If no byte comes later than the last look after the one before it, all are
noticed. -/
theorem inTime_of_steady {timeout earlier since : Nat} {times : List Nat}
    (hearlier : earlier ≤ since)
    (hsteady : (earlier :: times).IsChain fun first second => second ≤ first + lastLook timeout) :
    InTime timeout since times := by
  induction times generalizing earlier since with
  | nil => trivial
  | cons time rest ih =>
      obtain ⟨htime, hrest⟩ := List.isChain_cons_cons.mp hsteady
      have hnoticed : time ≤ since + lastLook timeout :=
        htime.trans (Nat.add_le_add_right hearlier _)
      exact ⟨hnoticed, ih (le_noticedAt hnoticed) hrest⟩

theorem inTime_append {timeout since : Nat} (first second : List Nat) :
    InTime timeout since (first ++ second) ↔
      InTime timeout since first ∧
        InTime timeout (first.foldl (noticedAt timeout) since) second := by
  induction first generalizing since with
  | nil => simp [InTime]
  | cons time rest ih => simp only [List.cons_append, InTime, List.foldl_cons, ih, and_assoc]

/-- Bytes that have arrived already are noticed at once. -/
theorem inTime_of_le {timeout since : Nat} {times : List Nat}
    (htimes : ∀ time ∈ times, time ≤ since) :
    InTime timeout since times ∧ times.foldl (noticedAt timeout) since = since := by
  induction times with
  | nil => exact ⟨trivial, rfl⟩
  | cons time rest ih =>
      obtain ⟨htime, hrest⟩ := List.forall_mem_cons.mp htimes
      rw [InTime, List.foldl_cons, noticedAt_of_le htime]
      exact ⟨⟨Nat.le_add_right_of_le htime, (ih hrest).1⟩, (ih hrest).2⟩

/-- Bytes that one look finds, and none before it did. -/
theorem inTime_of_look {timeout since polls : Nat} {times : List Nat}
    (hwaiting : polls = 0 ∨ window timeout * polls < timeout) (hsome : times ≠ [])
    (hfound : ∀ time ∈ times, time ≤ since + window timeout * polls)
    (hmissed : ∀ earlier, polls = earlier + 1 → ∀ time ∈ times,
      since + window timeout * earlier < time) :
    InTime timeout since times ∧
      times.foldl (noticedAt timeout) since = since + window timeout * polls := by
  have hlook := polls_le_lastLook hwaiting
  cases polls with
  | zero => exact inTime_of_le hfound
  | succ earlier =>
      obtain ⟨time, rest, rfl⟩ := List.exists_cons_of_ne_nil hsome
      obtain ⟨htime, hrest⟩ := List.forall_mem_cons.mp hfound
      have hnoticed : noticedAt timeout since time = since + window timeout * (earlier + 1) :=
        noticedAt_of_polls (hmissed earlier rfl time List.mem_cons_self) htime
      obtain ⟨hinTime, hlast⟩ := inTime_of_le hrest
      rw [InTime, List.foldl_cons, hnoticed]
      exact ⟨⟨by omega, hinTime⟩, hlast⟩

end FramedLink

namespace Scripted

open Device FramedLink LinkM State

namespace State

variable {state : State} {window : Nat}

def times (arrivals : List Arrival) : List Nat :=
  arrivals.flatMap fun arrival => arrival.bytes.map fun _ => arrival.time

/-- When each byte of the stream can be read; what is there can be read now. -/
def arrivalTimes (window : Nat) (state : State) : List Nat :=
  state.readable.map (fun _ => state.clock) ++ times (state.agenda window)

@[simp]
theorem length_arrivalTimes (window : Nat) (state : State) :
    (state.arrivalTimes window).length = (state.stream window).length := by
  simp [arrivalTimes, times, stream, List.length_flatMap]

theorem times_append (first second : List Arrival) :
    times (first ++ second) = times first ++ times second :=
  List.flatMap_append

theorem mem_times {arrivals : List Arrival} {time : Nat} (htime : time ∈ times arrivals) :
    ∃ arrival ∈ arrivals, arrival.time = time := by
  obtain ⟨arrival, harrival, hbyte⟩ := List.mem_flatMap.mp htime
  obtain ⟨_, _, rfl⟩ := List.mem_map.mp hbyte
  exact ⟨arrival, harrival, rfl⟩

/-- What is to come comes later. -/
theorem lt_of_mem_times_agenda {time : Nat} (htime : time ∈ times (state.agenda window)) :
    state.clock < time := by
  obtain ⟨arrival, harrival, rfl⟩ := mem_times htime
  exact later_settle state arrival ((List.mem_insertionSort _).mp harrival)

/-- No byte can be read before now. -/
theorem map_max_times_agenda :
    (times (state.agenda window)).map (max state.clock) = times (state.agenda window) := by
  have hsame : ∀ time ∈ times (state.agenda window), max state.clock time = id time :=
    fun time htime => Nat.max_eq_right (Nat.le_of_lt (lt_of_mem_times_agenda htime))
  rw [List.map_congr_left hsame, List.map_id]

theorem map_max_arrivalTimes :
    (state.arrivalTimes window).map (max state.clock) = state.arrivalTimes window := by
  rw [arrivalTimes, List.map_append, map_max_times_agenda, List.map_map]
  congr 1
  exact List.map_congr_left fun _ _ => Nat.max_self _

/-- Once all of some arrivals have come, they can all be read. -/
theorem map_max_times_of_le {clock : Nat} {arrivals : List Arrival}
    (hdue : ∀ arrival ∈ arrivals, arrival.time ≤ clock) :
    (times arrivals).map (max clock) = (arrivals.flatMap Arrival.bytes).map fun _ => clock := by
  induction arrivals with
  | nil => rfl
  | cons arrival rest ih =>
      obtain ⟨harrival, hrest⟩ := List.forall_mem_cons.mp hdue
      simp only [times, List.flatMap_cons, List.map_append, List.map_map] at ih ⊢
      rw [ih hrest]
      congr 1
      exact List.map_congr_left fun _ _ => Nat.max_eq_left harrival

theorem arrivalTimes_deliver {count : Nat} (hcount : count ≤ state.readable.length) :
    (state.settle.deliver count).arrivalTimes window = (state.arrivalTimes window).drop count := by
  rw [arrivalTimes, arrivalTimes, readable_deliver, agenda_deliver, List.drop_append_of_le_length]
  · rw [List.map_drop]
    rfl
  · rwa [List.length_map]

/-- Waiting for a window makes bytes readable, and moves no other. -/
theorem arrivalTimes_sleep (hwindow : window ≤ longestWait) :
    (state.settle.sleep window).arrivalTimes window =
      (state.arrivalTimes window).map (max (state.clock + window)) := by
  have hagenda := agenda_eq_append state hwindow
  have hlater : (times ((state.settle.sleep window).agenda window)).map
      (max (state.settle.sleep window).clock) = _ := map_max_times_agenda
  have hdue : ∀ arrival ∈ state.settle.arrivals.filter fun arrival =>
      arrival.time ≤ state.clock + window, arrival.time ≤ state.clock + window := by
    intro arrival harrival
    simpa using (List.mem_filter.mp harrival).2
  rw [clock_sleep hwindow, clock_settle] at hlater
  rw [arrivalTimes, arrivalTimes, readable_sleep hwindow, hagenda, clock_sleep hwindow,
    clock_settle, times_append, List.map_append, List.map_append, List.map_append, hlater,
    map_max_times_of_le hdue, List.map_map, List.append_assoc]
  congr 1
  exact List.map_congr_left fun _ _ => (Nat.max_eq_left (Nat.le_add_right _ _)).symm

end State

/-- While a reply is listened for: what is left of the stream and of its times,
that no look before the current one found what is left, and that everything taken
was noticed in time. -/
structure Noticing (timeout : Nat) (start : State) (since : Nat) (taken : List UInt8)
    (state : State) (polls : Nat) : Prop where
  paced : Paced timeout start since taken state polls
  stream_eq : start.stream (window timeout) = taken ++ state.stream (window timeout)
  times_eq : state.arrivalTimes (window timeout) =
    ((start.arrivalTimes (window timeout)).drop taken.length).map (max state.clock)
  missed : ∀ earlier, polls = earlier + 1 →
    ∀ time ∈ (start.arrivalTimes (window timeout)).drop taken.length,
      since + window timeout * earlier < time
  inTime : InTime timeout start.clock
    ((start.arrivalTimes (window timeout)).take taken.length)
  noticed : ((start.arrivalTimes (window timeout)).take taken.length).foldl (noticedAt timeout)
    start.clock = since

variable {timeout since polls room : Nat} {start state after : State} {taken : List UInt8}

theorem noticing_begun (timeout : Nat) (start : State) :
    Noticing timeout start start.clock [] start 0 where
  paced := paced_begun timeout start
  stream_eq := rfl
  times_eq := map_max_arrivalTimes.symm
  missed _ hnone := by cases hnone
  inTime := trivial
  noticed := rfl

/-- A silent look finds nothing of what is left. -/
theorem Noticing.missed_of_silence (hnoticing : Noticing timeout start since taken state polls)
    (hroom : 0 < room) (hread : read room (.blocking (window timeout)) state = .ok [] after) :
    ∀ time ∈ (start.arrivalTimes (window timeout)).drop taken.length,
      since + window timeout * polls < time := by
  intro time htime
  have hleft : max state.clock time ∈ state.arrivalTimes (window timeout) := by
    rw [hnoticing.times_eq]
    exact List.mem_map_of_mem htime
  rw [arrivalTimes, readable_eq_nil_of_silence hread hroom] at hleft
  have hlater : state.clock < max state.clock time := lt_of_mem_times_agenda hleft
  rw [← hnoticing.paced.clock_eq]
  omega

theorem Noticing.of_silence (hnoticing : Noticing timeout start since taken state polls)
    (hroom : 0 < room) (hread : read room (.blocking (window timeout)) state = .ok [] after)
    (hwaiting : after.clock - since < timeout) :
    Noticing timeout start since taken after (polls + 1) where
  paced := hnoticing.paced.of_silence hread hwaiting
  stream_eq := by
    rw [hnoticing.stream_eq, (eq_sleep_of_silence hread).2,
      stream_sleep (window_le_longestWait timeout)]
  times_eq := by
    rw [(eq_sleep_of_silence hread).2, arrivalTimes_sleep (window_le_longestWait timeout),
      clock_sleep (window_le_longestWait timeout), clock_settle, hnoticing.times_eq, List.map_map]
    apply List.map_congr_left
    intro time _
    rw [Function.comp_apply, ← Nat.max_assoc, Nat.max_eq_left (Nat.le_add_right _ _)]
  missed earlier hearlier := by
    rw [← Nat.succ.inj hearlier]
    exact hnoticing.missed_of_silence hroom hread
  inTime := hnoticing.inTime
  noticed := hnoticing.noticed

/-- A look finds only what has arrived. -/
theorem Noticing.found (hnoticing : Noticing timeout start since taken state polls) {count : Nat}
    (hcount : count ≤ state.readable.length) :
    ∀ time ∈ ((start.arrivalTimes (window timeout)).drop taken.length).take count,
      time ≤ since + window timeout * polls := by
  intro time htime
  have hfront : max state.clock time ∈ (state.arrivalTimes (window timeout)).take count := by
    rw [hnoticing.times_eq, ← List.map_take]
    exact List.mem_map_of_mem htime
  rw [arrivalTimes, List.take_append_of_le_length (by rwa [List.length_map])] at hfront
  obtain ⟨_, _, hnow⟩ := List.mem_map.mp (List.mem_of_mem_take hfront)
  rw [← hnoticing.paced.clock_eq]
  omega

theorem Noticing.of_delivery {first : UInt8} {more : List UInt8}
    (hnoticing : Noticing timeout start since taken state polls)
    (hread : read room (.blocking (window timeout)) state = .ok (first :: more) after) :
    Noticing timeout start after.clock (taken ++ first :: more) after 0 := by
  obtain ⟨count, hpositive, hcount, hlength, hafter⟩ := deliver_of_read hread
  have hclock : after.clock = since + window timeout * polls :=
    (clock_of_delivery hread).trans hnoticing.paced.clock_eq
  have hall : count ≤ ((start.arrivalTimes (window timeout)).drop taken.length).length := by
    have hleft := congrArg List.length hnoticing.times_eq
    rw [List.length_map, arrivalTimes, List.length_append, List.length_map] at hleft
    omega
  have hsome : ((start.arrivalTimes (window timeout)).drop taken.length).take count ≠ [] := by
    rw [← List.length_pos_iff, List.length_take_of_le hall]
    exact hpositive
  obtain ⟨hinTime, hnoticed⟩ := inTime_of_look hnoticing.paced.waiting hsome
    (hnoticing.found hcount)
    fun earlier hearlier time htime =>
      hnoticing.missed earlier hearlier time (List.mem_of_mem_take htime)
  have htaken : (start.arrivalTimes (window timeout)).take (taken ++ first :: more).length =
      (start.arrivalTimes (window timeout)).take taken.length ++
        ((start.arrivalTimes (window timeout)).drop taken.length).take count := by
    rw [List.length_append, hlength, List.take_add]
  exact {
    paced := hnoticing.paced.of_delivery hread
    stream_eq := by
      rw [hnoticing.stream_eq, (tookFront_of_read (window_le_longestWait timeout) hread).stream,
        List.append_assoc]
    times_eq := by
      rw [clock_of_delivery hread, hafter, arrivalTimes_deliver hcount, hnoticing.times_eq,
        ← List.map_drop, List.drop_drop, List.length_append, hlength]
    missed := fun _ hnone => by cases hnone
    inTime := by
      rw [htaken, inTime_append, hnoticing.noticed]
      exact ⟨hnoticing.inTime, hinTime⟩
    noticed := by rw [htaken, List.foldl_append, hnoticing.noticed, hnoticed, hclock] }

theorem noticing_of_listening (hlistening : Listening transport timeout start since taken state) :
    ∃ polls, Noticing timeout start since taken state polls := by
  induction hlistening with
  | begun => exact ⟨0, noticing_begun timeout start⟩
  | silence _ hroom hread hwaiting ih =>
      obtain ⟨polls, hnoticing⟩ := ih
      exact ⟨polls + 1, hnoticing.of_silence hroom hread hwaiting⟩
  | delivery _ _ hread ih =>
      obtain ⟨polls, hnoticing⟩ := ih
      exact ⟨0, hnoticing.of_delivery hread⟩

/-- The bytes that decide about the reply come, and all in time. -/
def Steady (request : Request) (address : UInt8) (timeout : Nat) (state : State) : Prop :=
  request.decisive address (state.stream (window timeout)) ≤
      (state.stream (window timeout)).length ∧
    InTime timeout state.clock ((state.arrivalTimes (window timeout)).take
      (request.decisive address (state.stream (window timeout))))

variable {request : Request} {address : UInt8}

/-- Bytes that decided were all noticed in time. -/
theorem steady_of_decided {front : List UInt8}
    (hlistening : Listening transport timeout start since taken state)
    (htook : TookFront (window timeout) start front state)
    (hdecided : front.length = request.decisive address front) :
    Steady request address timeout start := by
  obtain ⟨polls, hnoticing⟩ := noticing_of_listening hlistening
  have hstream := hnoticing.stream_eq
  obtain rfl : taken = front := List.append_cancel_right (hstream.symm.trans htook.stream)
  have hdecisive : request.decisive address (start.stream (window timeout)) = taken.length := by
    rw [hstream, (Request.decodeFront_append hdecided.ge _).2, hdecided]
  rw [Steady, hdecisive]
  refine ⟨?_, hnoticing.inTime⟩
  rw [hstream, List.length_append]
  exact Nat.le_add_right _ _

/-- A silence was given up because a byte came after the last look, or not at all. -/
theorem not_steady_of_silence {front : List UInt8}
    (hlistening : Listening transport timeout start since taken state) (hroom : 0 < room)
    (hread : read room (.blocking (window timeout)) state = .ok [] after)
    (hover : timeout ≤ after.clock - since) (htook : TookFront (window timeout) start front after)
    (hundecided : front.length < request.decisive address front) :
    ¬Steady request address timeout start := by
  obtain ⟨polls, hnoticing⟩ := noticing_of_listening hlistening
  have hstream := hnoticing.stream_eq
  have hsame : state.stream (window timeout) = after.stream (window timeout) :=
    (tookFront_of_read (window_le_longestWait timeout) hread).stream
  obtain rfl : taken = front := by
    rw [hsame] at hstream
    exact List.append_cancel_right (hstream.symm.trans htook.stream)
  have hmore : taken.length < request.decisive address (start.stream (window timeout)) := by
    rw [hstream]
    exact Request.lt_decisive_append hundecided _
  obtain ⟨hpolls, _⟩ := hnoticing.paced.polls_of_over hread hover
  have hlate := hnoticing.missed_of_silence hroom hread
  rw [lastLook_of_polls hnoticing.paced.waiting hpolls] at hlate
  rintro ⟨henough, hinTime⟩
  obtain ⟨missing, hmissing⟩ := Nat.exists_eq_add_of_lt hmore
  rw [hmissing, Nat.add_assoc, List.take_add, inTime_append, hnoticing.noticed] at hinTime
  rw [hmissing, ← length_arrivalTimes] at henough
  cases hleft : (start.arrivalTimes (window timeout)).drop taken.length with
  | nil =>
      have hlength := congrArg List.length hleft
      rw [List.length_drop, List.length_nil] at hlength
      omega
  | cons time rest =>
      rw [hleft] at hlate hinTime
      rw [List.take_succ_cons] at hinTime
      exact absurd hinTime.2.1 (Nat.not_le_of_lt (hlate time List.mem_cons_self))

theorem readReply_steady (hvalid : request.validate = .ok ()) (attached : Attached State)
    (hopen : attached.station.handle.isOpen = true) :
    Leads (readReply transport request) attached
      (fun _ _ => Steady request attached.device.config.address attached.device.config.readTimeout
        attached.station.world)
      (fun error _ => error.isTimeout = true ↔ ¬Steady request attached.device.config.address
        attached.device.config.readTimeout attached.station.world) := by
  apply ((readReply_listens attached).and (readReply_leads hvalid attached (trail _))).mono
  · intro reply after hdone
    obtain ⟨⟨taken, hlistening⟩, _, front, htook, hdecided⟩ := hdone
    exact steady_of_decided hlistening htook hdecided.1
  · intro error after hfailed
    obtain ⟨hunheard, hhandle, front, hend⟩ := hfailed
    rcases hend with ⟨htook, hlength, hdecoded⟩ | ⟨hshort, hinterrupted⟩
    · have hspoken : ¬TimedOut (.error error : Except LinkError Reply) :=
        hdecoded ▸ Request.not_timedOut_decodeFront front
      cases hunheard with
      | silent _ _ _ _ => exact absurd rfl hspoken
      | broken _ hread => exact (read_ne_error hread).elim
      | spoken hlistening _ =>
          have hsteady := steady_of_decided hlistening htook hlength
          exact ⟨fun htimeout => absurd htimeout hspoken, fun hnot => absurd hsteady hnot⟩
    · have hopenAfter : after.station.handle.isOpen = true := by rw [hhandle, hopen]
      obtain ⟨htimeout, _⟩ := silent_of_interrupted hopenAfter hinterrupted
      cases hunheard with
      | silent hlistening hroom hread hover =>
          have hnot := not_steady_of_silence hlistening hroom hread hover hinterrupted.took hshort
          exact ⟨fun _ => hnot, fun _ => rfl⟩
      | broken _ hread => exact (read_ne_error hread).elim
      | spoken _ hspoken => exact absurd htimeout hspoken.not_isTimeout

/-- A reception ends in silence if and only if the reply is not steady. -/
theorem timedOut_iff_not_steady (hvalid : request.validate = .ok ()) (attached : Attached State)
    (hopen : attached.station.handle.isOpen = true) :
    TimedOut ((receive transport request).outcome attached).1 ↔
      ¬Steady request attached.device.config.address attached.device.config.readTimeout
        attached.station.world := by
  refine (leads_iff_outcome _ _ fun result (_ : Attached State) => TimedOut result ↔
    ¬Steady request attached.device.config.address attached.device.config.readTimeout
      attached.station.world).mp ?_
  apply (receive_leads_of_readReply (readReply_steady hvalid
    { attached with device := { attached.device with outstanding := false } } hopen)).mono
  · intro reply after hsteady
    exact ⟨False.elim, fun hnot => hnot hsteady⟩
  · intro error after hfailed
    obtain ⟨_, hiff, _⟩ := hfailed
    exact hiff

/-- A reply to a request that was sent is received, unless one of its bytes comes
after the last look at the link.  That look may come a poll interval before the
read timeout has passed. -/
theorem steady_reply_is_received {request : Request} {sender : Attached State}
    (hsent : ((send transport request).outcome sender).1 = .ok ())
    (attached : Attached State) (hopen : attached.station.handle.isOpen = true) :
    let address := attached.device.config.address
    let timeout := attached.device.config.readTimeout
    let start := attached.station.world
    let result := ((receive transport request).outcome attached).1
    let stream := start.stream (window timeout)
    (TimedOut result ↔ ¬Steady request address timeout start) ∧
      (Answered (request.decodeFront address stream) →
        request.frameLength stream ≤ stream.length →
        (start.clock :: (start.arrivalTimes (window timeout)).take
          (request.frameLength stream)).IsChain
            (fun first second => second ≤ first + lastLook timeout) →
        result = request.decodeFront address stream ∧ ¬TimedOut result) ∧
      (0 < timeout → lastLook timeout < timeout ∧ timeout ≤ lastLook timeout + 10) := by
  intro address timeout start result stream
  have hvalid : request.validate = .ok () := validate_of_sent hsent
  have hiff : TimedOut result ↔ ¬Steady request address timeout start :=
    timedOut_iff_not_steady hvalid attached hopen
  refine ⟨hiff, ?_, lastLook_bounds⟩
  intro hanswered hcomplete hsteady
  have hdecisive : request.decisive address stream = request.frameLength stream :=
    Request.decisive_of_answered hanswered
  have hreceived : ¬TimedOut result := by
    rw [hiff, not_not, Steady, hdecisive]
    exact ⟨hcomplete, inTime_of_steady (Nat.le_refl _) hsteady⟩
  rcases (received_of_receive hvalid hopen).decoded with htimeout | ⟨_, hdecoded⟩
  · exact absurd htimeout hreceived
  · exact ⟨hdecoded, hreceived⟩

def resumed (pause : Nat) : State :=
  { arrivals := [⟨0, [1, 3, 2]⟩, ⟨pause, [0, 42, 57, 155]⟩] }

theorem steady_reply_is_received_resumed :
    ((send transport (.readRegisters 0 1)).outcome (.opened {} {})).1 = .ok () ∧
      (resumed 20).arrivalTimes 10 = [0, 0, 0, 20, 20, 20, 20] ∧ lastLook 30 = 20 ∧
      ((receive transport (.readRegisters 0 1)).outcome
        (.opened { readTimeout := 30 } (resumed 20))).1 = .ok (.registers [42]) ∧
      Steady (.readRegisters 0 1) 1 30 (resumed 20) := by
  have hsent : ((send transport (.readRegisters 0 1)).outcome (.opened {} {})).1 = .ok () := by
    decide +kernel
  have hdecoded : (Request.readRegisters 0 1).decodeFront 1 ((resumed 20).stream (window 30)) =
      .ok (.registers [42]) := by
    decide +kernel
  have hcomplete : (Request.readRegisters 0 1).frameLength ((resumed 20).stream (window 30)) ≤
      ((resumed 20).stream (window 30)).length := by
    decide +kernel
  have hsteady : ((resumed 20).clock :: ((resumed 20).arrivalTimes (window 30)).take
      ((Request.readRegisters 0 1).frameLength ((resumed 20).stream (window 30)))).IsChain
        fun first second => second ≤ first + lastLook 30 := by
    decide +kernel
  obtain ⟨hiff, hreceived, _⟩ := steady_reply_is_received hsent
    (.opened { readTimeout := 30 } (resumed 20)) rfl
  obtain ⟨hresult, hheard⟩ := hreceived
    (by
      change Answered ((Request.readRegisters 0 1).decodeFront 1 ((resumed 20).stream (window 30)))
      rw [hdecoded]
      trivial)
    hcomplete hsteady
  rw [hiff, not_not] at hheard
  exact ⟨hsent, by decide +kernel, by decide +kernel, hresult.trans hdecoded, hheard⟩

/-- A byte is missed although it arrives within the read timeout. -/
theorem late_byte_is_missed :
    ¬∀ (request : Request) (sender attached : Attached State),
      let address := attached.device.config.address
      let timeout := attached.device.config.readTimeout
      let start := attached.station.world
      let stream := start.stream (window timeout)
      ((send transport request).outcome sender).1 = .ok () →
        attached.station.handle.isOpen = true → 0 < timeout →
        Answered (request.decodeFront address stream) →
        request.frameLength stream ≤ stream.length →
        (start.clock :: (start.arrivalTimes (window timeout)).take
          (request.frameLength stream)).IsChain (fun first second => second < first + timeout) →
        ¬TimedOut ((receive transport request).outcome attached).1 := by
  intro hclaim
  have hdecoded : (Request.readRegisters 0 1).decodeFront 1 ((resumed 25).stream 10) =
      .ok (.registers [42]) := by
    decide +kernel
  have hresult : ((receive transport (.readRegisters 0 1)).outcome
      (.opened { readTimeout := 30 } (resumed 25))).1 =
        .error (.timeout (.reading "reply data" 1 3) 30) := by
    decide +kernel
  have hheard := hclaim (.readRegisters 0 1) (.opened {} {})
    (.opened { readTimeout := 30 } (resumed 25)) (by decide +kernel) rfl (by decide)
    (by
      change Answered ((Request.readRegisters 0 1).decodeFront 1 ((resumed 25).stream 10))
      rw [hdecoded]
      trivial)
    (by decide +kernel) (by decide +kernel)
  rw [hresult] at hheard
  exact hheard rfl

end Scripted

end InstrumentLink
