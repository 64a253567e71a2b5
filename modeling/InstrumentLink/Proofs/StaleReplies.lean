import InstrumentLink.Proofs.WatchedLink

/-!
# What an answer can be made of

A reply carries nothing that tells which request it answers.  It is taken for
the answer to the request that is being awaited, so everything depends on what
is waiting in the input when that request is written.  A reception that fails
and a request that is given up discard what has arrived until then, and none of
it is ever taken for an answer.  What arrives later, or stands behind an
answer, is still there when the next request is written.
-/

namespace InstrumentLink

namespace Conversation

variable {σ : Type}

/-- A reply is given up: its reception fails without an answer of the device,
or its request is cancelled. -/
inductive GaveUp (transport : Transport σ) : Conversation σ → Conversation σ → Prop
  | receive {conversation : Conversation σ} {ticket : Ticket}
      (hlive : ticket ∈ conversation.live)
      (hfailed : ¬Device.Answered
        ((Device.receive transport ticket.request).outcome conversation.attached).1) :
      GaveUp transport conversation (conversation.receive transport ticket)
  | cancel {conversation : Conversation σ} {ticket : Ticket}
      (hlive : ticket ∈ conversation.live) :
      GaveUp transport conversation (conversation.cancel transport ticket)
  | transact {conversation : Conversation σ} {request : Request}
      (hsent : ((Device.send transport request).outcome conversation.attached).1 = .ok ())
      (hfailed : ¬Device.Answered
        ((Device.transact transport request).outcome conversation.attached).1) :
      GaveUp transport conversation (conversation.perform (Device.transact transport request))

theorem GaveUp.step {transport : Transport σ} {allowed : Station σ → Station σ → Prop}
    {before after : Conversation σ} (h : GaveUp transport before after) :
    Step transport allowed before after := by
  cases h with
  | receive hlive _ => exact .receive hlive
  | cancel hlive => exact .cancel hlive
  | transact _ _ => exact .transact before _

/-- A request is written at `before`; the reception of its reply starts at
`ready` and ends with `result`, in two operations or in one. -/
inductive Transaction (transport : Transport σ) (allowed : Station σ → Station σ → Prop)
    (request : Request) (before : Conversation σ) :
    Attached σ → Except LinkError Reply → Attached σ → Prop
  | split {ready : Conversation σ}
      (hsent : ((Device.send transport request).outcome before.attached).1 = .ok ())
      (hwait : Run transport allowed (before.send transport request) ready)
      (hlive : before.ticketFor request ∈ ready.live) :
      Transaction transport allowed request before ready.attached
        ((Device.receive transport request).outcome ready.attached).1
        ((Device.receive transport request).outcome ready.attached).2
  | whole (hsent : ((Device.send transport request).outcome before.attached).1 = .ok ()) :
      Transaction transport allowed request before
        ((Device.send transport request).outcome before.attached).2
        ((Device.transact transport request).outcome before.attached).1
        ((Device.transact transport request).outcome before.attached).2

end Conversation

namespace Scripted.Watched

open LinkM Device Conversation

variable {request : Request}

/-- What a reception does to the link and to the record of it. -/
structure Reception (request : Request) (before : Attached Watched)
    (result : Except LinkError Reply) (after : Attached Watched) : Prop where
  onward : Onward before.station after.station
  frame : Answered result → ∃ frame,
    after.station.world.gone = before.station.world.gone ++ frame ∧
      Decided request before.device.config.address frame result
  emptied : ¬Answered result → Emptied after.station

theorem interrupted_spares {timeout : Nat} {before : Watched} {taken : List UInt8}
    {after : Station Watched} {error : LinkError}
    (hinterrupted : FramedLink.Interrupted (trail timeout) before taken after error) :
    error.exceptionCode? = none := by
  cases hinterrupted with
  | stalled _ _ => rfl
  | failed _ _ hfailure =>
      cases hfailure with
      | closed _ => rfl
      | noRoom _ => rfl
      | transport hread => exact sparesDevice hread
  | silent _ _ _ => rfl

theorem reception_of_receive (hvalid : request.validate = .ok ()) (attached : Attached Watched) :
    Reception request attached ((receive link request).outcome attached).1
      ((receive link request).outcome attached).2 := by
  refine (leads_iff_outcome _ _ fun result after =>
    Reception request attached result after).mp ?_
  apply (receive_leads hvalid attached (trail _)).mono
  · intro reply after hdone
    obtain ⟨hhandle, frame, htook, hdecided⟩ := hdone
    exact {
      onward := onward_of_took hhandle htook
      frame := fun _ => ⟨frame, htook, hdecided⟩
      emptied := fun h => absurd trivial h }
  · intro error after hfailed
    obtain ⟨unread, hunread, hafter⟩ := hfailed
    obtain ⟨taken, htook⟩ := hunread.took
    have hreading : Onward attached.station unread := onward_of_took hunread.1 htook
    by_cases hexception : error.exceptionCode?.isSome = true
    · rw [if_pos hexception] at hafter
      rw [← hafter] at hunread hreading
      exact {
        onward := hreading
        frame := by
          intro _
          obtain ⟨_, frame, hend⟩ := hunread
          rcases hend with hdecided | ⟨_, hinterrupted⟩
          · exact ⟨frame, hdecided⟩
          · rw [interrupted_spares hinterrupted] at hexception
            cases hexception
        emptied := fun h => absurd hexception h }
    · rw [if_neg hexception] at hafter
      have hflush := flush_empties unread
      rw [← hafter] at hflush
      exact {
        onward := hreading.trans hflush.1
        frame := fun h => absurd h hexception
        emptied := fun _ => hflush.2 }

/-- Sending takes nothing from the input. -/
theorem gone_of_send (request : Request) (attached : Attached Watched) :
    Handle.MovedWithin (fun before after => after.gone = before.gone) attached.station
      ((send link request).outcome attached).2.station := by
  refine (leads_iff_world _ _ fun after : Attached Watched =>
    Handle.MovedWithin (fun before after => after.gone = before.gone) attached.station
      after.station).mp ?_
  apply (send_leads writesWithin_gone request attached).mono
  · intro _ after hsent
    exact hsent.2.2.2.2
  · intro _ after hfailed
    exact hfailed.2.1

theorem onward_of_send (request : Request) (attached : Attached Watched) :
    Onward attached.station ((send link request).outcome attached).2.station := by
  obtain ⟨hhandle, hgone⟩ := gone_of_send request attached
  exact ⟨hhandle, hgone ▸ List.prefix_rfl⟩

/-- Giving up on a reply discards what has arrived. -/
theorem cancel_empties (attached : Attached Watched) :
    Onward attached.station ((Device.cancel link).outcome attached).2.station ∧
      Emptied ((Device.cancel link).outcome attached).2.station := by
  have hstation : ((Device.cancel link).outcome attached).2.station =
      ((Handle.flush link).outcome attached.station).2 := by
    refine (leads_iff_world _ _ fun after : Attached Watched =>
      after.station = ((Handle.flush link).outcome attached.station).2).mp ?_
    simp only [Device.cancel, setOutstanding, setState, onStation, leads_bind, leads_modify,
      leads_within]
    exact (leads_iff_world _ _ fun after =>
      after = ((Handle.flush link).outcome attached.station).2).mpr rfl
  rw [hstation]
  exact flush_empties attached.station

theorem reception_of_transact {attached : Attached Watched}
    (hsent : ((Device.send link request).outcome attached).1 = .ok ()) :
    Reception request ((Device.send link request).outcome attached).2
      ((transact link request).outcome attached).1
      ((transact link request).outcome attached).2 := by
  rw [outcome_transact hsent]
  exact reception_of_receive (validate_of_sent hsent) _

theorem onward_of_transact (request : Request) (attached : Attached Watched) :
    Onward attached.station ((transact link request).outcome attached).2.station := by
  have hsend := onward_of_send request attached
  cases hresult : ((Device.send link request).outcome attached).1 with
  | ok _ => exact hsend.trans (reception_of_transact hresult).onward
  | error error =>
      rw [transact, outcome_bind]
      cases houtcome : (Device.send link request).outcome attached with
      | mk result after =>
          rw [houtcome] at hresult hsend
          cases hresult
          exact hsend

variable {before after : Conversation Watched}

theorem onward_of_step (hconsistent : before.Consistent)
    (hstep : Step link Happens before after) :
    Onward before.attached.station after.attached.station := by
  cases hstep with
  | send request =>
      rw [attached_of_send]
      exact onward_of_send request before.attached
  | @receive ticket hlive =>
      exact (reception_of_receive (hconsistent.issued ticket hlive).2 before.attached).onward
  | cancel _ => exact (cancel_empties before.attached).1
  | transact request => exact onward_of_transact request before.attached
  | primitive primitive =>
      rcases after_primitive link primitive before.attached with hsame | ⟨request, _, hsame⟩
      · rw [hsame]
        exact .refl _
      · rw [hsame]
        exact onward_of_transact request before.attached
  | meanwhile hhappens => exact onward_of_happens hhappens

/-- Along a conversation the handle stays and more and more bytes are gone. -/
theorem onward_of_run (hconsistent : before.Consistent) (hrun : Run link Happens before after) :
    Onward before.attached.station after.attached.station := by
  induction hrun with
  | refl => exact .refl _
  | tail hrun hstep ih =>
      exact ih.trans (onward_of_step (hconsistent.run sparesDevice hrun) hstep)

/-- Once a reply is given up nothing that had arrived can be read. -/
theorem emptied_of_gaveUp (hconsistent : before.Consistent) (hgaveUp : GaveUp link before after) :
    Emptied after.attached.station := by
  cases hgaveUp with
  | @receive ticket hlive hfailed =>
      exact (reception_of_receive (hconsistent.issued ticket hlive).2 before.attached).emptied
        hfailed
  | cancel _ => exact (cancel_empties before.attached).2
  | transact hsent hfailed => exact (reception_of_transact hsent).emptied hfailed

/-- While a reply is awaited nothing leaves the input. -/
theorem gone_of_waiting {start ready : Conversation Watched} {ticket : Ticket}
    (hconsistent : start.Consistent) (hold : ticket.number < start.issued)
    (hrun : Run link Happens start ready) (hlive : ticket ∈ ready.live) :
    ready.attached.station.world.gone = start.attached.station.world.gone := by
  induction hrun with
  | refl => rfl
  | @tail between last hrun hstep ih =>
      have hissued := Nat.lt_of_lt_of_le hold (issued_le_of_run hrun)
      have hbetween := live_of_step hstep hissued hlive
      have hsteady := attached_of_waiting (hconsistent.run sparesDevice hrun) hstep hbetween hlive
      rw [← ih hbetween]
      rcases hsteady with hsame | ⟨event, hhappens⟩
      · rw [hsame]
      · rw [hhappens]

variable {ready last : Attached Watched} {result : Except LinkError Reply}

/-- Between the writing of a request and the reception of its reply nothing
leaves the input. -/
theorem ready_of_transaction (hconsistent : before.Consistent)
    (htransaction : Transaction link Happens request before ready result last) :
    Reception request ready result last ∧ before.attached.station.handle.isOpen = true ∧
      ready.station.world.gone = before.attached.station.world.gone := by
  cases htransaction with
  | @split ready hsent hwait hlive =>
      have hopen := ((send_leads writesWithin_gone request before.attached).of_ok hsent).2.2.1
      have hissued : (before.ticketFor request).number < (before.send link request).issued := by
        simp only [Conversation.send, hsent]
        exact Nat.lt_succ_self _
      have hgone : ready.attached.station.world.gone =
          before.attached.station.world.gone := by
        calc ready.attached.station.world.gone
            = (before.send link request).attached.station.world.gone :=
              gone_of_waiting (hconsistent.send request) hissued hwait hlive
          _ = ((Device.send link request).outcome before.attached).2.station.world.gone := by
              rw [attached_of_send]
          _ = before.attached.station.world.gone := (gone_of_send request before.attached).2
      exact ⟨reception_of_receive (validate_of_sent hsent) ready.attached, hopen, hgone⟩
  | whole hsent =>
      have hopen := ((send_leads writesWithin_gone request before.attached).of_ok hsent).2.2.1
      exact ⟨reception_of_transact hsent, hopen, (gone_of_send request before.attached).2⟩

/-- A device whose request found no answer within its timeout. -/
def unanswered : Attached Watched :=
  ((transact link (.readRegisters 0 1)).outcome (.opened { readTimeout := 20 } ⟨{}, []⟩)).2

def overtaken : Attached Watched :=
  { unanswered with
    station := { unanswered.station with
      world := { unanswered.station.world with
        state := (unanswered.station.world.state.push [1, 3, 2, 0, 42, 57, 155]).schedule
          ⟨none, [1, 3, 2, 0, 7, 249, 134]⟩ } } }

/-- The late answer to the one request is returned for the other. -/
theorem late_answer_is_returned :
    ((transact link (.readRegisters 0 1)).outcome (.opened { readTimeout := 20 } ⟨{}, []⟩)).1 =
        .error (.timeout (.reading "reply address" 0 1) 20) ∧
      unanswered.station.world.arrived = [] ∧
      overtaken.station.world.arrived = [1, 3, 2, 0, 42, 57, 155] ∧
      ((transact link (.readRegisters 100 1)).outcome overtaken).1 = .ok (.registers [42]) ∧
      ((transact link (.readRegisters 100 1)).outcome overtaken).2.station.world.gone =
        [1, 3, 2, 0, 42, 57, 155] := by
  decide +kernel

/-- An answer is made of bytes that arrived after the last reply was given up,
and of bytes that arrived after its request was written exactly when nothing
was waiting to be read then. -/
theorem answer_arrived_after_discards {config : LinkConfig} {station : Station Watched}
    (hrun : Run link Happens (fresh config station) before)
    (htransaction : Transaction link Happens request before ready result last)
    (hanswered : Answered result) :
    (∃ frame, last.station.world.gone = ready.station.world.gone ++ frame ∧
      frame.length = request.frameLength frame ∧
      request.decodeFront ready.device.config.address frame = result) ∧
    (∀ earlier discarded, Run link Happens (fresh config station) earlier →
      GaveUp link earlier discarded → Run link Happens discarded before →
      discarded.attached.station.world.arrived <+: ready.station.world.gone) ∧
    (before.attached.station.world.arrived <+: ready.station.world.gone ↔
      before.attached.station.world.state.readable = []) := by
  have hfresh := consistent_fresh config station
  have hconsistent := hfresh.run sparesDevice hrun
  obtain ⟨hreception, hopen, hgone⟩ := ready_of_transaction hconsistent htransaction
  refine ⟨?_, ?_, ?_⟩
  · obtain ⟨frame, htaken, hlength, hfront⟩ := hreception.frame hanswered
    rw [← hfront] at hanswered
    exact ⟨frame, htaken, hlength.trans (Request.decisive_of_answered hanswered), hfront⟩
  · intro earlier discarded hearlier hgaveUp hlater
    have hbefore := hfresh.run sparesDevice hearlier
    have hstep : Step link Happens earlier discarded := hgaveUp.step
    have honward := onward_of_run (hbefore.step sparesDevice hstep) hlater
    have hnothing : discarded.attached.station.world.state.readable = [] := by
      apply emptied_of_gaveUp hbefore hgaveUp
      rw [← honward.1]
      exact hopen
    rw [arrived, hnothing, List.append_nil, hgone]
    exact honward.2
  · rw [arrived, hgone]
    constructor
    · intro hprefix
      have hlength := hprefix.length_le
      rw [List.length_append] at hlength
      exact List.length_eq_zero_iff.mp (by omega)
    · intro hnothing
      simp [hnothing]

/-- A device on a link where the first request is answered by a fragment and
the second one in full. -/
def stuttering : Conversation Watched :=
  fresh { readTimeout := 20 } (Attached.opened {}
    (⟨{ script := [⟨none, [1, 3]⟩, ⟨none, [1, 3, 2, 0, 42, 57, 155]⟩] }, []⟩ : Watched)).station

def stuttered : Conversation Watched := stuttering.perform (transact link (.readRegisters 0 1))

theorem answer_arrived_after_discards_stuttering :
    GaveUp link stuttering stuttered ∧
    stuttered.attached.station.world.arrived = [1, 3] ∧
    ((transact link (.readRegisters 7 1)).outcome stuttered.attached).1 =
      .ok (.registers [42]) ∧
    stuttered.attached.station.world.arrived <+:
      ((Device.send link (.readRegisters 7 1)).outcome
        stuttered.attached).2.station.world.gone := by
  have hgaveUp : GaveUp link stuttering stuttered := by
    have hsent : ((Device.send link (.readRegisters 0 1)).outcome stuttering.attached).1 =
        .ok () := by
      decide +kernel
    have hfailed : ((transact link (.readRegisters 0 1)).outcome stuttering.attached).1 =
        .error (.timeout (.reading "reply data" 0 3) 20) := by
      decide +kernel
    refine .transact hsent ?_
    rw [hfailed]
    exact Bool.false_ne_true
  have hrun : Run link Happens stuttering stuttered := .single hgaveUp.step
  have hsent : ((Device.send link (.readRegisters 7 1)).outcome stuttered.attached).1 =
      .ok () := by
    decide +kernel
  have hresult : ((transact link (.readRegisters 7 1)).outcome stuttered.attached).1 =
      .ok (.registers [42]) := by
    decide +kernel
  have htransaction : Transaction link Happens (.readRegisters 7 1) stuttered _ _ _ :=
    .whole hsent
  rw [hresult] at htransaction
  have harrived := answer_arrived_after_discards hrun htransaction trivial
  exact ⟨hgaveUp, by decide +kernel, hresult,
    harrived.2.1 stuttering stuttered .refl hgaveUp .refl⟩

end Scripted.Watched

end InstrumentLink
