import InstrumentLink.Proofs.Reading
import InstrumentLink.Transport.Scripted
import Mathlib.Data.List.Sort

/-!
# The stream of a scripted link

A scripted link delivers what can be read now, and then every arrival in the
order in which the reads of one window notice it.  The time of each arrival is
fixed beforehand, so the whole stream is known at any moment; a read takes from
the front of it, however much it delivers, and silence takes nothing.
-/

namespace InstrumentLink.Scripted

theorem orderedInsert_append {α : Type} {key : α → Nat} (a : α) (front back : List α)
    (hfront : ∀ b ∈ front, key b < key a) :
    (front ++ back).orderedInsert (fun a b => key a ≤ key b) a =
      front ++ back.orderedInsert (fun a b => key a ≤ key b) a := by
  induction front with
  | nil => rfl
  | cons b front ih =>
      obtain ⟨hb, hfront⟩ := List.forall_mem_cons.mp hfront
      rw [List.cons_append, List.orderedInsert_of_not_le (fun a b => key a ≤ key b) _
        (Nat.not_le_of_lt hb), ih hfront, List.cons_append]

/-- Entries of the lowest key come first in a stable sort, and keep their
order. -/
theorem insertionSort_eq_filter_append {α : Type} (key : α → Nat) (lowest : Nat)
    (due : α → Bool) (list : List α) (hdue : ∀ a ∈ list, due a = true → key a = lowest)
    (hlater : ∀ a ∈ list, due a = false → lowest < key a) :
    list.insertionSort (fun a b => key a ≤ key b) =
      list.filter due ++
        (list.filter fun a => !due a).insertionSort fun a b => key a ≤ key b := by
  induction list with
  | nil => rfl
  | cons a list ih =>
      obtain ⟨hdueHead, hdue⟩ := List.forall_mem_cons.mp hdue
      obtain ⟨hlaterHead, hlater⟩ := List.forall_mem_cons.mp hlater
      have hsorted := ih hdue hlater
      cases hcase : due a with
      | true =>
          have hlowest : ∀ b ∈ list, key a ≤ key b := by
            intro b hb
            rw [hdueHead hcase]
            cases hcaseb : due b with
            | true => exact (hdue b hb hcaseb).ge
            | false => exact (hlater b hb hcaseb).le
          rw [List.insertionSort_cons_of_forall_rel _ hlowest, hsorted,
            List.filter_cons_of_pos hcase, List.filter_cons_of_neg (by simp [hcase]),
            List.cons_append]
      | false =>
          rw [List.insertionSort_cons, hsorted, List.filter_cons_of_neg (by simp [hcase]),
            List.filter_cons_of_pos (by simp [hcase]), List.insertionSort_cons]
          apply orderedInsert_append
          intro b hb
          obtain ⟨hb, hdueb⟩ := List.mem_filter.mp hb
          rw [hdue b hb hdueb]
          exact hlaterHead hcase

namespace State

variable {state : State} {window : Nat}

/-- Bytes that can be read now. -/
def readable (state : State) : List UInt8 := state.settle.input

/-- When the reads of one window each, made from now on, notice an arrival that
is still to come. -/
def noticed (window : Nat) (state : State) (arrival : Arrival) : Nat :=
  max arrival.time (state.clock + window * ((arrival.time - state.clock - 1) / window + 1))

def agenda (window : Nat) (state : State) : List Arrival :=
  state.settle.arrivals.insertionSort fun a b => state.noticed window a ≤ state.noticed window b

def stream (window : Nat) (state : State) : List UInt8 :=
  state.readable ++ (state.agenda window).flatMap Arrival.bytes

/-- Nothing is to come that cannot be read yet. -/
def Queued (window : Nat) (state : State) : Prop := state.readable = state.stream window

theorem queued_iff : state.Queued window ↔ (state.agenda window).flatMap Arrival.bytes = [] := by
  rw [Queued, stream, List.self_eq_append_right]

@[simp]
theorem clock_settle : state.settle.clock = state.clock := rfl

theorem arrivals_settle : state.settle.arrivals =
    state.arrivals.filter fun arrival => state.clock < arrival.time := rfl

theorem input_settle : state.settle.input = state.input ++
    (state.arrivals.filter fun arrival => arrival.time ≤ state.clock).flatMap Arrival.bytes := rfl

theorem clock_sleep (hwindow : window ≤ longestWait) :
    (state.sleep window).clock = state.clock + window := by
  rw [sleep, Nat.min_eq_left hwindow]

/-- As long as every arrival is yet to come, there is nothing to settle. -/
theorem settle_of_later (hlater : ∀ arrival ∈ state.arrivals, state.clock < arrival.time) :
    state.settle = state := by
  have hnone : (state.arrivals.filter fun arrival => arrival.time ≤ state.clock) = [] :=
    List.filter_eq_nil_iff.mpr fun arrival harrival => by
      simpa using hlater arrival harrival
  have hall : (state.arrivals.filter fun arrival => state.clock < arrival.time) =
      state.arrivals :=
    List.filter_eq_self.mpr fun arrival harrival => by simpa using hlater arrival harrival
  simp only [settle, hnone, hall, List.flatMap_nil, List.append_nil]

theorem settle_of_quiet (hquiet : state.arrivals = []) : state.settle = state :=
  settle_of_later (by simp [hquiet])

theorem push_of_quiet (hquiet : state.arrivals = []) (bytes : List UInt8) :
    state.push bytes = { state with input := state.input ++ bytes } := by
  rw [push, settle_of_quiet hquiet]

/-- A write that the front exchange answers makes its reply readable. -/
theorem accept_of_answers {exchange : Exchange} {script : List Exchange} {bytes : List UInt8}
    (hquiet : state.arrivals = []) (hscript : state.script = exchange :: script)
    (hanswers : exchange.answers bytes = true) :
    state.accept bytes = { state with
      written := state.written ++ [bytes], script, input := state.input ++ exchange.reply } := by
  let recorded : State := { state with written := state.written ++ [bytes] }
  have hrecorded : recorded.arrivals = [] := hquiet
  have hpush := push_of_quiet hrecorded exchange.reply
  rw [accept]
  split
  · next hempty => cases hempty.symm.trans hscript
  · next hfront =>
      cases hfront.symm.trans hscript
      rw [if_pos hanswers]
      exact congrArg (fun after : State => { after with script }) hpush

theorem later_settle (state : State) :
    ∀ arrival ∈ state.settle.arrivals, state.clock < arrival.time := by
  intro arrival harrival
  simpa using (List.mem_filter.mp harrival).2

@[simp]
theorem settle_deliver (count : Nat) :
    (state.settle.deliver count).settle = state.settle.deliver count :=
  settle_of_later (later_settle state)

@[simp]
theorem readable_deliver (count : Nat) :
    (state.settle.deliver count).readable = state.readable.drop count := by
  rw [readable, settle_deliver]
  rfl

@[simp]
theorem agenda_deliver (count : Nat) :
    (state.settle.deliver count).agenda window = state.agenda window := by
  simp only [agenda, settle_deliver]
  rfl

/-- Waiting for another window does not change when an arrival is noticed. -/
theorem noticed_sleep (hwindow : window ≤ longestWait) {arrival : Arrival}
    (hlater : state.clock + window < arrival.time) :
    (state.settle.sleep window).noticed window arrival = state.noticed window arrival := by
  rw [noticed, noticed, clock_sleep hwindow, clock_settle]
  cases Nat.eq_zero_or_pos window with
  | inl hzero => simp [hzero]
  | inr hpos =>
      have hdiv : (arrival.time - state.clock - 1) / window =
          (arrival.time - (state.clock + window) - 1) / window + 1 := by
        rw [Nat.div_eq_sub_div hpos (by omega)]
        congr 2
        omega
      rw [hdiv, Nat.mul_succ window (_ + 1)]
      congr 1
      omega

/-- An arrival within the next window is noticed at its end. -/
theorem noticed_of_due (arrival : Arrival) (hlater : state.clock < arrival.time)
    (hdue : arrival.time ≤ state.clock + window) :
    state.noticed window arrival = state.clock + window := by
  rw [noticed, Nat.div_eq_of_lt (by omega)]
  omega

theorem lt_noticed (arrival : Arrival) (hlater : state.clock + window < arrival.time) :
    state.clock + window < state.noticed window arrival := by
  rw [noticed]
  omega

/-- Waiting for a window makes the arrivals noticed at its end readable, and
changes nothing about the order of the others. -/
theorem agenda_eq_append (state : State) (hwindow : window ≤ longestWait) :
    state.agenda window =
      (state.settle.arrivals.filter fun arrival => arrival.time ≤ state.clock + window) ++
        (state.settle.sleep window).agenda window := by
  have hsplit := insertionSort_eq_filter_append (state.noticed window) (state.clock + window)
    (fun arrival => arrival.time ≤ state.clock + window) state.settle.arrivals
    (fun arrival harrival hdue => noticed_of_due arrival (later_settle state arrival harrival)
      (by simpa using hdue))
    (fun arrival _ hlater => lt_noticed arrival (by simpa using hlater))
  have hlater : (state.settle.sleep window).settle.arrivals =
      state.settle.arrivals.filter fun arrival => !(arrival.time ≤ state.clock + window) := by
    simp only [arrivals_settle, clock_settle, sleep, Nat.min_eq_left hwindow, ← decide_not,
      Nat.not_le]
  have hnoticed : ∀ arrival ∈ (state.settle.sleep window).settle.arrivals,
      (state.settle.sleep window).noticed window arrival = state.noticed window arrival := by
    intro arrival harrival
    have htime := later_settle _ arrival harrival
    rw [clock_sleep hwindow, clock_settle] at htime
    exact noticed_sleep hwindow htime
  have hsame := List.map_insertionSort (fun a b => state.noticed window a ≤ state.noticed window b)
    (fun a b => (state.settle.sleep window).noticed window a ≤
      (state.settle.sleep window).noticed window b) id (state.settle.sleep window).settle.arrivals
    fun a ha b hb => by rw [id, id, hnoticed a ha, hnoticed b hb]
  rw [List.map_id, List.map_id] at hsame
  rw [agenda, hsplit, agenda, ← hlater, hsame]

theorem readable_sleep (hwindow : window ≤ longestWait) :
    (state.settle.sleep window).readable = state.readable ++
      (state.settle.arrivals.filter fun arrival =>
        arrival.time ≤ state.clock + window).flatMap Arrival.bytes := by
  simp only [readable, settle, sleep, Nat.min_eq_left hwindow]

/-- Waiting for a window takes nothing from the stream. -/
@[simp]
theorem stream_sleep (hwindow : window ≤ longestWait) :
    (state.settle.sleep window).stream window = state.stream window := by
  have hagenda := agenda_eq_append state hwindow
  rw [stream, stream, readable_sleep hwindow, hagenda, List.flatMap_append, List.append_assoc]

theorem noticed_mono {first second : Arrival} (htime : first.time ≤ second.time) :
    state.noticed window first ≤ state.noticed window second := by
  have hdiv : (first.time - state.clock - 1) / window ≤ (second.time - state.clock - 1) / window :=
    Nat.div_le_div_right (by omega)
  have hwait : window * ((first.time - state.clock - 1) / window + 1) ≤
      window * ((second.time - state.clock - 1) / window + 1) :=
    Nat.mul_le_mul_left _ (Nat.succ_le_succ hdiv)
  rw [noticed, noticed]
  omega

theorem filter_append_filter_of_timely (clock : Nat) {arrivals : List Arrival}
    (htimely : arrivals.Pairwise fun first second => first.time ≤ second.time) :
    (arrivals.filter fun arrival => arrival.time ≤ clock) ++
      (arrivals.filter fun arrival => clock < arrival.time) = arrivals := by
  induction arrivals with
  | nil => rfl
  | cons arrival arrivals ih =>
      obtain ⟨hhead, htail⟩ := List.pairwise_cons.mp htimely
      by_cases hdue : arrival.time ≤ clock
      · rw [List.filter_cons_of_pos (by simpa using hdue),
          List.filter_cons_of_neg (by simpa using hdue), List.cons_append, ih htail]
      · have hlater : ∀ other ∈ arrival :: arrivals, clock < other.time := by
          intro other hother
          rcases List.mem_cons.mp hother with rfl | hother
          · omega
          · have := hhead other hother
            omega
        rw [List.filter_eq_nil_iff.mpr fun other hother => by simpa using hlater other hother,
          List.nil_append,
          List.filter_eq_self.mpr fun other hother => by simpa using hlater other hother]

/-- Arrivals that are announced in the order of their times make up the stream
in that order, whatever the window. -/
theorem stream_of_timely
    (htimely : state.arrivals.Pairwise fun first second => first.time ≤ second.time) :
    state.stream window = state.input ++ state.arrivals.flatMap Arrival.bytes := by
  have hagenda : state.agenda window = state.settle.arrivals := by
    apply List.Pairwise.insertionSort_eq
    exact (htimely.filter _).imp fun htime => noticed_mono htime
  rw [stream, hagenda, readable, input_settle, arrivals_settle, List.append_assoc,
    ← List.flatMap_append, filter_append_filter_of_timely _ htimely]

theorem queued_deliver (count : Nat) (hqueued : state.Queued window) :
    (state.settle.deliver count).Queued window := by
  rw [queued_iff] at hqueued ⊢
  rw [agenda_deliver, hqueued]

theorem queued_sleep (hwindow : window ≤ longestWait) (hqueued : state.Queued window) :
    (state.settle.sleep window).Queued window := by
  have hagenda := agenda_eq_append state hwindow
  rw [queued_iff] at hqueued ⊢
  rw [hagenda, List.flatMap_append, List.append_eq_nil_iff] at hqueued
  exact hqueued.2

theorem deliverable_le (room : Nat) :
    state.deliverable room ≤ room ∧ state.deliverable room ≤ state.input.length := by
  simp only [deliverable]
  split <;> omega

/-- Only a lack of input keeps a read with room from delivering. -/
theorem deliverable_pos {room : Nat} (hroom : 0 < room) (hinput : state.input ≠ []) :
    0 < state.deliverable room := by
  have hlength := List.length_pos_iff.mpr hinput
  simp only [deliverable]
  split <;> omega

@[simp]
theorem deliver_zero : state.deliver 0 = state := rfl

end State

open State

/-- A read delivers from the front of what is readable, or waits its window out
in silence. -/
inductive ReadEnd (room window : Nat) (before : State) : List UInt8 → State → Prop
  | delivered (hcount : 0 < before.settle.deliverable room) :
      ReadEnd room window before (before.readable.take (before.settle.deliverable room))
        (before.settle.deliver (before.settle.deliverable room))
  | silent (hcount : before.settle.deliverable room = 0) :
      ReadEnd room window before [] (before.settle.sleep window)

/-- A read of one window ends in one of the ways listed. -/
theorem readEnd_of_read {room window : Nat} {before after : State} {bytes : List UInt8}
    (hread : read room (.blocking window) before = .ok bytes after) :
    ReadEnd room window before bytes after := by
  simp only [read] at hread
  split at hread
  · next hcount hmode =>
      cases hread
      cases hmode
      rw [hcount, deliver_zero]
      exact .silent hcount
  · next hcount =>
      cases hread
      apply ReadEnd.delivered
      apply Nat.pos_of_ne_zero
      intro hzero
      exact hcount _ hzero rfl

/-- A scripted link never breaks. -/
theorem read_ne_error {room : Nat} {mode : IoMode} {before after : State} {error : LinkError} :
    transport.read room mode before ≠ .error error after := by
  intro hread
  simp only [transport, read] at hread
  split at hread <;> cases hread

/-- A read is silent only if nothing could be delivered, and lasts its window. -/
theorem eq_sleep_of_silence {room window : Nat} {before after : State}
    (hread : read room (.blocking window) before = .ok [] after) :
    before.settle.deliverable room = 0 ∧ after = before.settle.sleep window := by
  generalize hbytes : ([] : List UInt8) = bytes at hread
  cases readEnd_of_read hread with
  | delivered hcount =>
      have hlength := congrArg List.length hbytes
      have hinput : before.settle.deliverable room ≤ before.readable.length :=
        (before.settle.deliverable_le room).2
      rw [List.length_nil, List.length_take, Nat.min_eq_left hinput] at hlength
      omega
  | silent hcount => exact ⟨hcount, rfl⟩

/-- A read with room is silent only if nothing is readable. -/
theorem readable_eq_nil_of_silence {room window : Nat} {before after : State}
    (hread : read room (.blocking window) before = .ok [] after) (hroom : 0 < room) :
    before.readable = [] := by
  by_contra hinput
  have hcount : 0 < before.settle.deliverable room := deliverable_pos hroom hinput
  have hsilent := (eq_sleep_of_silence hread).1
  omega

theorem window_le_longestWait (timeout : Nat) : FramedLink.window timeout ≤ longestWait :=
  Nat.le_trans (Nat.min_le_left _ _) (by decide)

/-- What was taken is gone from the front of the stream, and nothing else. -/
structure TookFront (window : Nat) (before : State) (taken : List UInt8) (after : State) :
    Prop where
  stream : before.stream window = taken ++ after.stream window
  queued : before.Queued window → after.Queued window

/-- A read takes the front of the stream, whether it waits or not. -/
theorem tookFront_of_read {room window : Nat} {before after : State} {bytes : List UInt8}
    (hwindow : window ≤ longestWait)
    (hread : read room (.blocking window) before = .ok bytes after) :
    TookFront window before bytes after := by
  cases readEnd_of_read hread with
  | delivered _ =>
      constructor
      · rw [State.stream, State.stream, readable_deliver, agenda_deliver, ← List.append_assoc,
          List.take_append_drop]
      · exact queued_deliver _
  | silent _ => exact ⟨(stream_sleep hwindow).symm, queued_sleep hwindow⟩

theorem length_le_of_read {room window : Nat} {before after : State} {bytes : List UInt8}
    (hread : read room (.blocking window) before = .ok bytes after) : bytes.length ≤ room := by
  cases readEnd_of_read hread with
  | delivered _ =>
      exact Nat.le_trans (List.length_take_le _ _) (before.settle.deliverable_le room).1
  | silent _ => exact Nat.zero_le _

def trail (timeout : Nat) : transport.Trail (FramedLink.window timeout) where
  Took := TookFront (FramedLink.window timeout)
  nothing _ := ⟨rfl, id⟩
  append hfirst hmore :=
    ⟨by rw [hfirst.stream, hmore.stream, List.append_assoc], hmore.queued ∘ hfirst.queued⟩
  read := tookFront_of_read (window_le_longestWait timeout)
  room := length_le_of_read
  failure hread := (read_ne_error hread).elim

/-- A silent read lets its whole window pass. -/
theorem patient (timeout : Nat) : transport.Patient (FramedLink.window timeout) where
  onwards {room before bytes after} hread := by
    have honwards : before.clock ≤ after.clock := by
      cases readEnd_of_read hread with
      | delivered _ => exact Nat.le_refl _
      | silent _ => exact Nat.le_add_right _ _
    exact ⟨honwards, Nat.le_refl _⟩
  silence {room before after} hpos hread := by
    left
    rw [(eq_sleep_of_silence hread).2]
    have hlater : before.clock < before.clock + FramedLink.window timeout := by omega
    simpa only [transport, clock_sleep (window_le_longestWait timeout), clock_settle] using hlater

end InstrumentLink.Scripted
