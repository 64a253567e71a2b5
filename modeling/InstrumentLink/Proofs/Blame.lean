import InstrumentLink.Frame.Basic
import InstrumentLink.Message.Reply
import InstrumentLink.Proofs.Outcome

/-!
# What a failed decoding blames

Encoding and decoding never touch the link, so no failure of theirs is a
silence of the link; and only the validation of a reply reports an exception of
the device.
-/

namespace InstrumentLink

variable {α β : Type} {kind : LinkError → Prop}

/-- Every failure is of the given kind. -/
def Blames (kind : LinkError → Prop) (result : Except LinkError α) : Prop :=
  ∀ error, result = .error error → kind error

@[simp]
theorem blames_ok (value : α) : Blames kind (.ok value) := by
  intro error herror
  cases herror

@[simp]
theorem blames_error (error : LinkError) :
    Blames kind (.error error : Except LinkError α) ↔ kind error := by
  constructor
  · intro h
    exact h error rfl
  · intro hkind other hother
    cases hother
    exact hkind

theorem Blames.bind {first : Except LinkError α} {next : α → Except LinkError β}
    (hfirst : Blames kind first) (hnext : ∀ value, Blames kind (next value)) :
    Blames kind (first >>= next) := by
  cases first with
  | ok value => exact hnext value
  | error error => exact (blames_error error).mpr ((blames_error error).mp hfirst)

/-- Steps that fail in one way only make a chain that does. -/
theorem Blames.foldlM {step : β → α → Except LinkError β}
    (hstep : ∀ state item, Blames kind (step state item)) (items : List α) (state : β) :
    Blames kind (items.foldlM step state) := by
  induction items generalizing state with
  | nil => exact blames_ok state
  | cons item rest ih =>
      rw [List.foldlM_cons]
      exact (hstep state item).bind ih

theorem Blames.mono {wider : LinkError → Prop} {result : Except LinkError α}
    (h : Blames kind result) (hwider : ∀ error, kind error → wider error) :
    Blames wider result := by
  intro error herror
  exact hwider error (h error herror)

/-- The bytes that came are to blame, and not the program that reads them. -/
def ProtocolCause.OfReply : ProtocolCause → Prop
  | replyTooLong _ | echoOfOther | unexpectedKind | other _ => False
  | _ => True

namespace LinkError

def Spoken (error : LinkError) : Prop := error.isTimeout = false

theorem Spoken.not_isTimeout {error : LinkError} (hspoken : error.Spoken) :
    ¬error.isTimeout = true :=
  Bool.eq_false_iff.mp hspoken

def Local (error : LinkError) : Prop := error.Spoken ∧ error.exceptionCode? = none

def OfArgument (error : LinkError) : Prop := ∃ cause, error = .argument cause

theorem OfArgument.isLocal {error : LinkError} (h : OfArgument error) : error.Local := by
  obtain ⟨_, rfl⟩ := h
  exact ⟨rfl, rfl⟩

/-- The bytes that came are refused for what they say. -/
inductive Refusal : LinkError → Prop
  | protocol {cause : ProtocolCause} (hcause : cause.OfReply) : Refusal (.protocol cause)

theorem Refusal.isLocal {error : LinkError} (h : Refusal error) : error.Local := by
  cases h
  exact ⟨rfl, rfl⟩

end LinkError

open LinkError

namespace Pdu

open LinkM

/-- A construction of a message body fails for no other reason than its caller. -/
def BlamesCaller (construction : LinkM Pdu Unit) : Prop :=
  ∀ pdu, Leads construction pdu (fun _ _ => True) fun error _ => OfArgument error

theorem blamesCaller_push (byte : UInt8) : BlamesCaller (push byte) := by
  intro pdu
  simp only [push, leads_bind, leads_get]
  split
  · exact ⟨_, rfl⟩
  · trivial

theorem blamesCaller_extend (added : List UInt8) : BlamesCaller (extend added) := by
  intro pdu
  simp only [extend, leads_bind, leads_get]
  split
  · exact ⟨_, rfl⟩
  · trivial

theorem BlamesCaller.andThen {first next : LinkM Pdu Unit} (hfirst : BlamesCaller first)
    (hnext : BlamesCaller next) : BlamesCaller (do first; next) := by
  intro pdu
  rw [leads_bind]
  exact (hfirst pdu).mono (fun _ between _ => hnext between) fun _ _ hargument => hargument

theorem blames_build {construction : LinkM Pdu Unit} (h : BlamesCaller construction) :
    Blames OfArgument (build construction) := by
  rcases (h empty).exists_outcome with ⟨_, pdu, houtcome, _⟩ | ⟨error, pdu, houtcome, hargument⟩
  · rw [build, houtcome]
    exact blames_ok _
  · rw [build, houtcome]
    exact (blames_error _).mpr hargument

theorem blames_ofBytes (bytes : List UInt8) : Blames OfArgument (ofBytes bytes) :=
  blames_build (blamesCaller_extend bytes)

end Pdu

namespace Request

theorem blamesCaller_pushWords (words : List UInt16) : Pdu.BlamesCaller (pushWords words) := by
  induction words with
  | nil => exact fun _ => trivial
  | cons word words ih => exact (Pdu.blamesCaller_extend _).andThen ih

theorem blamesCaller_pushBody (request : Request) : Pdu.BlamesCaller request.pushBody := by
  apply (Pdu.blamesCaller_push _).andThen
  apply (Pdu.blamesCaller_extend _).andThen
  cases request with
  | readCoils address count => exact Pdu.blamesCaller_extend _
  | readRegisters address count => exact Pdu.blamesCaller_extend _
  | writeCoil address value => exact Pdu.blamesCaller_extend _
  | writeRegisters address values =>
      apply (Pdu.blamesCaller_extend _).andThen
      exact (Pdu.blamesCaller_push _).andThen (blamesCaller_pushWords values)

theorem blames_validate (request : Request) : Blames Local request.validate := by
  rw [validate]
  split
  · exact blames_ok _
  · exact (blames_error _).mpr ⟨rfl, rfl⟩

theorem blames_encode (request : Request) : Blames Local request.encode := by
  rw [encode]
  apply (blames_validate request).bind
  intro _
  exact (Pdu.blames_build (blamesCaller_pushBody request)).mono fun _ => OfArgument.isLocal

end Request

namespace Reply

theorem refusal_decodeCounted (request : Request) (width : ItemWidth) (body : List UInt8) :
    Blames Refusal (decodeCounted request width body) := by
  cases body with
  | nil => exact (blames_error _).mpr (.protocol trivial)
  | cons declared data =>
      rw [decodeCounted]
      split
      · exact (blames_error _).mpr (.protocol trivial)
      · split
        · exact (blames_error _).mpr (.protocol trivial)
        · exact blames_ok _

theorem blames_decodeCounted (request : Request) (width : ItemWidth) (body : List UInt8) :
    Blames Local (decodeCounted request width body) :=
  (refusal_decodeCounted request width body).mono fun _ => Refusal.isLocal

theorem blames_decodeEcho (request : Request) (reply : List UInt8) :
    Blames Local (decodeEcho request reply) := by
  simp only [decodeEcho]
  apply (request.blames_encode).bind
  intro sent
  split
  · exact (blames_error _).mpr ⟨rfl, rfl⟩
  · split
    · exact blames_ok _
    · exact (blames_error _).mpr ⟨rfl, rfl⟩

theorem blames_decodeHeaderEcho (request : Request) (reply : List UInt8) :
    Blames Local (decodeHeaderEcho request reply) := by
  rw [decodeHeaderEcho]
  apply (request.blames_encode).bind
  intro sent
  split
  · exact (blames_error _).mpr ⟨rfl, rfl⟩
  · exact blames_ok _

end Reply

/-- A reply is refused for what it says, never for what did not come. -/
theorem Request.blames_decodeReply (request : Request) (reply : List UInt8) :
    Blames Spoken (request.decodeReply reply) := by
  cases reply with
  | nil => exact (blames_error _).mpr rfl
  | cons function body =>
      simp only [decodeReply]
      split
      · cases body with
        | nil => exact (blames_error _).mpr rfl
        | cons code rest => exact (blames_error _).mpr rfl
      · split
        · exact (blames_error _).mpr rfl
        · split
          · exact (Reply.blames_decodeCounted _ _ _).mono fun _ h => h.1
          · exact (Reply.blames_decodeEcho _ _).mono fun _ h => h.1
          · exact (Reply.blames_decodeHeaderEcho _ _).mono fun _ h => h.1

namespace Frame

theorem refusal_verify (body : List UInt8) (low high : UInt8) :
    Blames Refusal (verify body low high) := by
  simp only [verify]
  split
  · exact (blames_error _).mpr (.protocol trivial)
  · exact blames_ok _

theorem refusal_decode (frame : List UInt8) : Blames Refusal (decode frame) := by
  simp only [decode]
  split
  · apply (refusal_verify _ _ _).bind
    intro _
    exact blames_ok _
  · exact (blames_error _).mpr (.protocol trivial)

theorem blames_verify (body : List UInt8) (low high : UInt8) :
    Blames Local (verify body low high) :=
  (refusal_verify body low high).mono fun _ => Refusal.isLocal

theorem blames_decode (frame : List UInt8) : Blames Local (decode frame) :=
  (refusal_decode frame).mono fun _ => Refusal.isLocal

end Frame

end InstrumentLink
