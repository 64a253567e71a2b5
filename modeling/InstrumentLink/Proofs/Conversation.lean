import InstrumentLink.Proofs.DeviceStatus
import InstrumentLink.Proofs.ScriptedStream
import Mathlib.Logic.Relation

/-!
# Conversations with a device

A request that is sent issues a ticket for its reply, which is used up by
receiving the reply or by giving it up.  A conversation is any sequence of
operations of one device, with its own tickets and each of them at most once,
while the link behind the handle changes on its own account.  At every point of
it the device and the tickets agree on whether a reply is outstanding.
-/

namespace InstrumentLink

/-- The right to receive the reply to a request that was sent, or to give it up. -/
structure Ticket where
  number : Nat
  request : Request
  deriving DecidableEq, Repr

/-- A device in use, the number of tickets it has issued, and those of them
that are not used up. -/
structure Conversation (σ : Type) where
  attached : Attached σ
  issued : Nat := 0
  live : List Ticket := []

/-- A request that is built, sent and answered in one step. -/
inductive Primitive where
  | readCoils (address count : UInt16)
  | readRegisters (address count : UInt16)
  | writeCoil (address : UInt16) (value : Bool)
  | writeRegisters (address : UInt16) (values : List UInt16)

/-- The request of a primitive, unless its arguments are refused. -/
def Primitive.request : Primitive → Except LinkError Request
  | readCoils address count => (Request.readCoils address count).checked
  | readRegisters address count => (Request.readRegisters address count).checked
  | writeCoil address value => .ok (Request.writeCoil address value)
  | writeRegisters address values => (Request.writeRegisters address values).checked

def Primitive.after {σ : Type} (transport : Transport σ) (attached : Attached σ) :
    Primitive → Attached σ
  | readCoils address count => ((Device.readCoils transport address count).outcome attached).2
  | readRegisters address count =>
      ((Device.readRegisters transport address count).outcome attached).2
  | writeCoil address value => ((Device.writeCoil transport address value).outcome attached).2
  | writeRegisters address values =>
      ((Device.writeRegisters transport address values).outcome attached).2

namespace Conversation

open LinkM

variable {σ α : Type} {transport : Transport σ} {allowed : Station σ → Station σ → Prop}

def fresh (config : LinkConfig) (station : Station σ) : Conversation σ where
  attached := { device := { config }, station }

/-- The conversation after an operation that issues and uses no ticket. -/
def perform (conversation : Conversation σ) (action : LinkM (Attached σ) α) : Conversation σ :=
  { conversation with attached := (action.outcome conversation.attached).2 }

def ticketFor (conversation : Conversation σ) (request : Request) : Ticket where
  number := conversation.issued
  request := request

/-- A request that is sent issues a ticket. -/
def send (transport : Transport σ) (conversation : Conversation σ) (request : Request) :
    Conversation σ :=
  match ((Device.send transport request).outcome conversation.attached).1 with
  | .ok _ =>
      { conversation.perform (Device.send transport request) with
        issued := conversation.issued + 1
        live := conversation.ticketFor request :: conversation.live }
  | .error _ => conversation.perform (Device.send transport request)

def receive (transport : Transport σ) (conversation : Conversation σ) (ticket : Ticket) :
    Conversation σ :=
  { conversation.perform (Device.receive transport ticket.request) with
    live := conversation.live.erase ticket }

def cancel (transport : Transport σ) (conversation : Conversation σ) (ticket : Ticket) :
    Conversation σ :=
  { conversation.perform (Device.cancel transport) with
    live := conversation.live.erase ticket }

/-- One operation of the device, or a change on the side of the link. -/
inductive Step (transport : Transport σ) (allowed : Station σ → Station σ → Prop) :
    Conversation σ → Conversation σ → Prop
  | send (conversation : Conversation σ) (request : Request) :
      Step transport allowed conversation (conversation.send transport request)
  | receive {conversation : Conversation σ} {ticket : Ticket}
      (hlive : ticket ∈ conversation.live) :
      Step transport allowed conversation (conversation.receive transport ticket)
  | cancel {conversation : Conversation σ} {ticket : Ticket}
      (hlive : ticket ∈ conversation.live) :
      Step transport allowed conversation (conversation.cancel transport ticket)
  | transact (conversation : Conversation σ) (request : Request) :
      Step transport allowed conversation
        (conversation.perform (Device.transact transport request))
  | primitive (conversation : Conversation σ) (primitive : Primitive) :
      Step transport allowed conversation
        { conversation with attached := primitive.after transport conversation.attached }
  | meanwhile {conversation : Conversation σ} {station : Station σ}
      (hallowed : allowed conversation.attached.station station) :
      Step transport allowed conversation
        { conversation with attached := { conversation.attached with station } }

abbrev Run (transport : Transport σ) (allowed : Station σ → Station σ → Prop) :
    Conversation σ → Conversation σ → Prop :=
  Relation.ReflTransGen (Step transport allowed)

end Conversation

/-- No reply is being awaited. -/
def ReplyState.Resting : ReplyState → Prop
  | idle | complete | timedOut => True
  | awaitingFirstByte | awaitingRemainder _ => False

namespace Device

open LinkM

theorem resting_settledState (result : Except LinkError Reply) : (settledState result).Resting := by
  cases result with
  | ok reply => trivial
  | error error => cases error <;> trivial

variable {σ : Type} {transport : Transport σ}

/-- What an operation that uses no ticket does to a device: nothing, or a whole
transaction if no reply was outstanding. -/
def Concluded (before after : Device) : Prop :=
  after = before ∨
    (before.outstanding = false ∧ after.outstanding = false ∧ after.state.Resting)

/-- A transaction is a reception once its request is sent. -/
theorem outcome_transact {request : Request} {attached : Attached σ}
    (hsent : ((send transport request).outcome attached).1 = .ok ()) :
    (transact transport request).outcome attached =
      (receive transport request).outcome ((send transport request).outcome attached).2 := by
  rw [transact, outcome_bind]
  cases hresult : (send transport request).outcome attached with
  | mk result sent =>
      rw [hresult] at hsent
      cases hsent
      rfl

theorem transact_concluded (hread : transport.SparesDevice) (request : Request)
    (attached : Attached σ) :
    Leads (transact transport request) attached
      (fun _ after => Concluded attached.device after.device)
      (fun _ after => Concluded attached.device after.device) := by
  simp only [transact, leads_bind]
  apply (send_leads transport.writesWithin_any request attached).mono
  · intro _ sent hsent
    have hidle : attached.device.outstanding = false := hsent.1
    apply (receive_status hread request sent).mono
    · intro reply after hafter
      rw [hafter]
      exact .inr ⟨hidle, rfl, resting_settledState (.ok reply)⟩
    · intro error after hafter
      rw [hafter]
      exact .inr ⟨hidle, rfl, resting_settledState (.error error)⟩
  · intro error after hfailed
    exact .inl hfailed.1

/-- What follows a transaction only to sort out its reply does not show. -/
theorem world_of_sorted {α : Type} (request : Except LinkError Request)
    {sort : Reply → LinkM (Attached σ) α}
    (hsort : ∀ reply attached, ((sort reply).outcome attached).2 = attached)
    (attached : Attached σ) :
    ((do
      let request ← LinkM.ofExcept request
      let reply ← transact transport request
      sort reply).outcome attached).2 =
        match request with
        | .ok request => ((transact transport request).outcome attached).2
        | .error _ => attached := by
  refine (leads_iff_world _ _ fun after => after = _).mp ?_
  simp only [leads_bind]
  cases request with
  | error error => rfl
  | ok request =>
      apply ((leads_iff_world (transact transport request) attached fun after =>
        after = ((transact transport request).outcome attached).2).mpr rfl).mono
      · intro reply after hafter
        exact (leads_iff_world _ _ _).mpr ((hsort reply after).trans hafter)
      · intro _ after hafter
        exact hafter

/-- A primitive does nothing, or what its transaction does. -/
theorem after_primitive (transport : Transport σ) (primitive : Primitive)
    (attached : Attached σ) :
    primitive.after transport attached = attached ∨
      ∃ request, primitive.request = .ok request ∧
        primitive.after transport attached = ((transact transport request).outcome attached).2 := by
  have hafter : primitive.after transport attached =
      match primitive.request with
      | .ok request => ((transact transport request).outcome attached).2
      | .error _ => attached := by
    cases primitive with
    | readCoils address count =>
        exact world_of_sorted _ (fun reply _ => by cases reply <;> rfl) attached
    | readRegisters address count =>
        exact world_of_sorted _ (fun reply _ => by cases reply <;> rfl) attached
    | writeCoil address value =>
        exact world_of_sorted (.ok _) (fun reply _ => by cases reply <;> rfl) attached
    | writeRegisters address values =>
        exact world_of_sorted _ (fun reply _ => by cases reply <;> rfl) attached
  cases hrequest : primitive.request with
  | ok request =>
      rw [hrequest] at hafter
      exact .inr ⟨request, rfl, hafter⟩
  | error error =>
      rw [hrequest] at hafter
      exact .inl hafter

/-- An outstanding reply keeps every further request from being sent. -/
theorem send_refused (request : Request) {attached : Attached σ}
    (houtstanding : attached.device.outstanding = true) :
    Leads (send transport request) attached (fun _ _ => False)
      (fun error after => error = .argument .replyOutstanding ∧ after = attached) := by
  apply (send_leads transport.writesWithin_any request attached).mono
  · intro _ after hsent
    rw [houtstanding] at hsent
    cases hsent.1
  · intro error after hfailed
    exact hfailed.2.2 houtstanding

theorem transact_refused (request : Request) {attached : Attached σ}
    (houtstanding : attached.device.outstanding = true) :
    Leads (transact transport request) attached (fun _ _ => False)
      (fun error after => error = .argument .replyOutstanding ∧ after = attached) := by
  rw [transact, leads_bind]
  apply (send_refused request houtstanding).mono
  · intro _ _ hfalse
    exact hfalse.elim
  · intro _ _ hrefused
    exact hrefused

end Device

namespace Conversation

open LinkM

variable {σ : Type} {transport : Transport σ} {allowed : Station σ → Station σ → Prop}
variable {conversation before after : Conversation σ}

theorem attached_of_send (transport : Transport σ) (conversation : Conversation σ)
    (request : Request) :
    (conversation.send transport request).attached =
      ((Device.send transport request).outcome conversation.attached).2 := by
  rw [Conversation.send]
  split <;> rfl

/-- The device and the tickets agree on whether a reply is outstanding. -/
structure Consistent (conversation : Conversation σ) : Prop where
  awaited : conversation.attached.device.outstanding = true →
    conversation.attached.device.state = .awaitingFirstByte ∧
      ∃ ticket, conversation.live = [ticket]
  settled : conversation.attached.device.outstanding = false →
    conversation.attached.device.state.Resting ∧ conversation.live = []
  issued : ∀ ticket ∈ conversation.live,
    ticket.number < conversation.issued ∧ ticket.request.validate = .ok ()

theorem consistent_fresh (config : LinkConfig) (station : Station σ) :
    (fresh config station).Consistent where
  awaited houtstanding := by cases houtstanding
  settled _ := ⟨trivial, rfl⟩
  issued _ hticket := by cases hticket

/-- An operation that issues and uses no ticket keeps the agreement. -/
theorem Consistent.of_concluded (hconsistent : before.Consistent)
    (hconcluded : Device.Concluded before.attached.device after.attached.device)
    (hlive : after.live = before.live) (hissued : after.issued = before.issued) :
    after.Consistent := by
  have htickets := hconsistent.issued
  rw [← hlive, ← hissued] at htickets
  rcases hconcluded with hsame | ⟨hidle, hdone, hresting⟩
  · refine ⟨?_, ?_, htickets⟩
    · intro houtstanding
      rw [hsame] at houtstanding ⊢
      rw [hlive]
      exact hconsistent.awaited houtstanding
    · intro hnone
      rw [hsame] at hnone ⊢
      rw [hlive]
      exact hconsistent.settled hnone
  · refine ⟨?_, ?_, htickets⟩
    · intro houtstanding
      rw [hdone] at houtstanding
      cases houtstanding
    · intro _
      rw [hlive]
      exact ⟨hresting, (hconsistent.settled hidle).2⟩

/-- Using the ticket of the outstanding reply settles the device. -/
theorem Consistent.of_used {ticket : Ticket} (hconsistent : before.Consistent)
    (hticket : ticket ∈ before.live) (hdone : after.attached.device.outstanding = false)
    (hresting : after.attached.device.state.Resting)
    (hlive : after.live = before.live.erase ticket) : after.Consistent := by
  have honly : before.live = [ticket] := by
    cases houtstanding : before.attached.device.outstanding with
    | true =>
        obtain ⟨last, hlast⟩ := (hconsistent.awaited houtstanding).2
        rw [hlast, List.mem_singleton] at hticket
        rw [hlast, hticket]
    | false =>
        rw [(hconsistent.settled houtstanding).2] at hticket
        cases hticket
  have hnone : after.live = [] := by
    rw [hlive, honly, List.erase_cons_head]
  refine ⟨?_, fun _ => ⟨hresting, hnone⟩, ?_⟩
  · intro houtstanding
    rw [hdone] at houtstanding
    cases houtstanding
  · intro other hother
    rw [hnone] at hother
    cases hother

theorem Consistent.send (hconsistent : before.Consistent) (request : Request) :
    (before.send transport request).Consistent := by
  have hleads := Device.send_leads transport.writesWithin_any request before.attached
  rw [Conversation.send]
  split
  · next hsent =>
      obtain ⟨hidle, hvalid, _, hdevice, _⟩ := hleads.of_ok hsent
      have hnone := (hconsistent.settled hidle).2
      rw [hnone]
      refine ⟨fun _ => ⟨?_, _, rfl⟩, ?_, ?_⟩
      · rw [perform, hdevice]
      · intro hsettled
        rw [perform, hdevice] at hsettled
        cases hsettled
      · intro ticket hticket
        rw [List.mem_singleton] at hticket
        rw [hticket]
        exact ⟨Nat.lt_succ_self _, hvalid⟩
  · next hfailed =>
      exact hconsistent.of_concluded (.inl (hleads.of_error hfailed).1) rfl rfl

theorem Consistent.transact (hread : transport.SparesDevice) (hconsistent : before.Consistent)
    (request : Request) :
    (before.perform (Device.transact transport request)).Consistent :=
  hconsistent.of_concluded ((leads_iff_world _ _ _).mp
    (Device.transact_concluded hread request before.attached)) rfl rfl

/-- Every operation, complete or failed at any point, keeps the agreement. -/
theorem Consistent.step (hread : transport.SparesDevice) (hconsistent : before.Consistent)
    (hstep : Step transport allowed before after) : after.Consistent := by
  cases hstep with
  | send request => exact hconsistent.send request
  | @receive ticket hlive =>
      have hdevice := Device.device_of_receive hread ticket.request before.attached
      have hstate : (before.receive transport ticket).attached.device.state =
          Device.settledState
            ((Device.receive transport ticket.request).outcome before.attached).1 :=
        congrArg Device.state hdevice
      refine hconsistent.of_used hlive (congrArg Device.outstanding hdevice) ?_ rfl
      rw [hstate]
      exact Device.resting_settledState _
  | @cancel ticket hlive =>
      have hdevice := Device.device_of_cancel transport before.attached
      have hstate : (before.cancel transport ticket).attached.device.state = .idle :=
        congrArg Device.state hdevice
      refine hconsistent.of_used hlive (congrArg Device.outstanding hdevice) ?_ rfl
      rw [hstate]
      trivial
  | transact request => exact hconsistent.transact hread request
  | primitive primitive =>
      rcases Device.after_primitive transport primitive before.attached with hsame | ⟨_, _, hsame⟩
      · rw [hsame]
        exact hconsistent
      · rw [hsame]
        exact hconsistent.transact hread _
  | meanwhile _ => exact hconsistent.of_concluded (.inl rfl) rfl rfl

theorem Consistent.run (hread : transport.SparesDevice) (hconsistent : before.Consistent)
    (hrun : Run transport allowed before after) : after.Consistent := by
  induction hrun with
  | refl => exact hconsistent
  | tail _ hstep ih => exact ih.step hread hstep

theorem issued_le_of_step (hstep : Step transport allowed before after) :
    before.issued ≤ after.issued := by
  cases hstep with
  | send request =>
      rw [Conversation.send]
      split
      · exact Nat.le_succ _
      · exact Nat.le_refl _
  | _ => exact Nat.le_refl _

theorem issued_le_of_run (hrun : Run transport allowed before after) :
    before.issued ≤ after.issued := by
  induction hrun with
  | refl => exact Nat.le_refl _
  | tail _ hstep ih => exact Nat.le_trans ih (issued_le_of_step hstep)

/-- Tickets are not issued twice. -/
theorem live_of_step {ticket : Ticket} (hstep : Step transport allowed before after)
    (hold : ticket.number < before.issued) (hlive : ticket ∈ after.live) :
    ticket ∈ before.live := by
  cases hstep with
  | send request =>
      rw [Conversation.send] at hlive
      split at hlive
      · rcases List.mem_cons.mp hlive with hnew | hlive
        · rw [hnew] at hold
          exact absurd hold (Nat.lt_irrefl _)
        · exact hlive
      · exact hlive
  | receive _ => exact List.mem_of_mem_erase hlive
  | cancel _ => exact List.mem_of_mem_erase hlive
  | transact _ => exact hlive
  | primitive _ => exact hlive
  | meanwhile _ => exact hlive

/-- While a ticket lives on, only the link side changes. -/
theorem attached_of_waiting {ticket : Ticket} (hconsistent : before.Consistent)
    (hstep : Step transport allowed before after) (hbefore : ticket ∈ before.live)
    (hafter : ticket ∈ after.live) :
    after.attached = before.attached ∨
      allowed before.attached.station after.attached.station := by
  have houtstanding : before.attached.device.outstanding = true := by
    cases hcase : before.attached.device.outstanding with
    | true => rfl
    | false =>
        rw [(hconsistent.settled hcase).2] at hbefore
        cases hbefore
  have honly : ∀ used ∈ before.live, ticket ∉ before.live.erase used := by
    intro used hused
    obtain ⟨last, hlast⟩ := (hconsistent.awaited houtstanding).2
    rw [hlast, List.mem_singleton] at hused
    rw [hlast, hused, List.erase_cons_head]
    exact List.not_mem_nil
  have htransact : ∀ request,
      ((Device.transact transport request).outcome before.attached).2 = before.attached :=
    fun request => congrArg Prod.snd (Device.transact_refused request houtstanding).outcome_eq
  cases hstep with
  | send request =>
      left
      rw [attached_of_send, (Device.send_refused request houtstanding).outcome_eq]
  | receive hlive => exact absurd hafter (honly _ hlive)
  | cancel hlive => exact absurd hafter (honly _ hlive)
  | transact request => exact .inl (htransact request)
  | primitive primitive =>
      left
      rcases Device.after_primitive transport primitive before.attached with hsame | hsame
      · exact hsame
      · obtain ⟨request, _, hsame⟩ := hsame
        exact hsame.trans (htransact request)
  | meanwhile hallowed => exact .inr hallowed

/-- Whatever is done with a device, and whatever fails on the way: a reply is
outstanding exactly while one ticket lives, and until that is used no other
request is sent. -/
theorem outstanding_iff_live_ticket (hread : transport.SparesDevice)
    {config : LinkConfig} {station : Station σ}
    (hrun : Run transport (fun _ _ => True) (fresh config station) conversation) :
    (conversation.attached.device.outstanding = true ↔
      ∃ ticket, conversation.live = [ticket]) ∧
    (conversation.attached.device.outstanding = false ↔ conversation.live = []) ∧
    (conversation.attached.device.outstanding = true ↔
      conversation.attached.device.state = .awaitingFirstByte) ∧
    (∀ expected, conversation.attached.device.state ≠ .awaitingRemainder expected) ∧
    (conversation.attached.device.outstanding = true → ∀ request,
      (Device.send transport request).outcome conversation.attached =
          (.error (.argument .replyOutstanding), conversation.attached) ∧
        (Device.transact transport request).outcome conversation.attached =
          (.error (.argument .replyOutstanding), conversation.attached)) ∧
    (∀ ticket ∈ conversation.live,
      (conversation.receive transport ticket).attached.device.state = Device.settledState
        ((Device.receive transport ticket.request).outcome conversation.attached).1 ∧
      (conversation.cancel transport ticket).attached.device.state = .idle) := by
  obtain ⟨hawaited, hsettled, _⟩ := (consistent_fresh config station).run hread hrun
  have hreceived := fun ticket : Ticket =>
    congrArg Device.state (Device.device_of_receive hread ticket.request conversation.attached)
  have hcancelled :=
    congrArg Device.state (Device.device_of_cancel transport conversation.attached)
  cases houtstanding : conversation.attached.device.outstanding with
  | true =>
      obtain ⟨hstate, ticket, hlive⟩ := hawaited houtstanding
      rw [hstate, hlive]
      refine ⟨by simp, by simp, by simp, by simp, ?_, fun ticket _ => ⟨hreceived ticket, hcancelled⟩⟩
      intro _ request
      exact ⟨(Device.send_refused request houtstanding).outcome_eq,
        (Device.transact_refused request houtstanding).outcome_eq⟩
  | false =>
      obtain ⟨hresting, hlive⟩ := hsettled houtstanding
      rw [hlive]
      have hfirst : conversation.attached.device.state ≠ .awaitingFirstByte := by
        intro hstate
        rw [hstate] at hresting
        exact hresting
      have hremainder : ∀ expected,
          conversation.attached.device.state ≠ .awaitingRemainder expected := by
        intro expected hstate
        rw [hstate] at hresting
        exact hresting
      refine ⟨by simp, by simp, by simp [hfirst], hremainder, ?_, ?_⟩
      · intro hfalse
        cases hfalse
      · intro ticket hticket
        cases hticket

end Conversation

namespace Scripted

theorem sparesDevice : transport.SparesDevice := by
  intro room mode before error after hread
  exact (read_ne_error hread).elim

open Conversation in
/-- One request is sent and awaited; nobody answers. -/
theorem outstanding_iff_live_ticket_unanswered :
    Run transport (fun _ _ => True) (fresh {} (Attached.opened {} {}).station)
      ((fresh {} (Attached.opened {} {}).station).send transport (.readRegisters 0 1)) ∧
    (((fresh {} (Attached.opened {} {}).station).send transport
        (.readRegisters 0 1)).attached.device.outstanding = true ↔
      ∃ ticket, ((fresh {} (Attached.opened {} {}).station).send transport
        (.readRegisters 0 1)).live = [ticket]) ∧
    ((fresh {} (Attached.opened {} {}).station).send transport (.readRegisters 0 1)).live =
      [⟨0, .readRegisters 0 1⟩] := by
  have hrun : Run transport (fun _ _ => True) (fresh {} (Attached.opened {} {}).station)
      ((fresh {} (Attached.opened {} {}).station).send transport (.readRegisters 0 1)) :=
    .single (.send _ _)
  exact ⟨hrun, (outstanding_iff_live_ticket sparesDevice hrun).1, by decide +kernel⟩

end Scripted

end InstrumentLink
