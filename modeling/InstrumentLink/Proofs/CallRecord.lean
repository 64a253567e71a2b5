import InstrumentLink.Backend
import InstrumentLink.Proofs.Outcome
import Mathlib.Data.List.Induction

/-!
# Recorded calls

A transport can be recorded: each call of one of its operations is noted, with
whether it succeeded, and is passed on as it is.  `Orderly` is the discipline
that a transport relies on: it is opened only while there is no session, and
everything else happens within one.
-/

namespace InstrumentLink

namespace Transport

inductive Operation where
  | openLink (mode : OpenMode)
  | closeLink
  | write (bytes : List UInt8) (mode : IoMode)
  | read (room : Nat) (mode : IoMode)
  | setLineParams (params : LineParams)
  | setHandshakeLines (rts dtr : Option Bool)
  | charFormat
  | queuedInput
  | flush
  | drain
  | eventSource
  deriving DecidableEq, Repr

structure Call where
  operation : Operation
  succeeded : Bool
  deriving DecidableEq, Repr

/-- What may be asked for in a session with the given access, or in none. -/
def Operation.Permitted (session : Option OpenMode) : Operation → Prop
  | openLink _ => session = none
  | write bytes _ => session = some .readWrite ∧ bytes ≠ []
  | read room _ => session ≠ none ∧ room ≠ 0
  | setLineParams params => session ≠ none ∧ params.validate = .ok ()
  | _ => session ≠ none

/-- The session after a call.  Closing ends a session even if it fails. -/
def Call.next (call : Call) (session : Option OpenMode) : Option OpenMode :=
  match call.operation with
  | .openLink mode => if call.succeeded then some mode else session
  | .closeLink => none
  | _ => session

def session (calls : List Call) : Option OpenMode :=
  calls.foldl (fun session call => call.next session) none

@[simp]
theorem session_concat (calls : List Call) (call : Call) :
    session (calls ++ [call]) = call.next (session calls) := by
  simp [session]

/-- Every call is permitted in the session that the calls before it lead to. -/
def Orderly (calls : List Call) : Prop :=
  ∀ before call after, calls = before ++ call :: after →
    call.operation.Permitted (session before)

theorem orderly_nil : Orderly [] := by
  intro before call after hcalls
  cases before <;> cases hcalls

theorem orderly_concat {calls : List Call} {call : Call} (horderly : Orderly calls)
    (hpermitted : call.operation.Permitted (session calls)) : Orderly (calls ++ [call]) := by
  intro before other after hcalls
  rcases List.eq_nil_or_concat after with rfl | ⟨rest, last, rfl⟩
  · obtain ⟨rfl, hsame⟩ := List.append_inj' hcalls rfl
    cases hsame
    exact hpermitted
  · have hsplit : calls ++ [call] = (before ++ other :: rest) ++ [last] := by
      simpa using hcalls
    exact horderly before other rest (List.append_inj' hsplit rfl).1

theorem Orderly.of_append {before after : List Call} (horderly : Orderly (before ++ after)) :
    Orderly before := by
  intro earlier call later hbefore
  exact horderly earlier call (later ++ after) (by simp [hbefore])

/-! ### Opening and closing in turn -/

def opens (calls : List Call) : Nat :=
  calls.countP fun call => call.succeeded && (call.operation matches .openLink _)

def closes (calls : List Call) : Nat :=
  calls.countP fun call => call.operation matches .closeLink

/-- Each session is closed once at most: closes lag behind successful opens by
the session that is left open. -/
theorem Orderly.opens_eq {calls : List Call} (horderly : Orderly calls) :
    opens calls = closes calls + (session calls).toList.length := by
  induction calls using List.reverseRecOn with
  | nil => rfl
  | append_singleton calls call ih =>
      have hpermitted := horderly calls call [] rfl
      have hbalance := ih horderly.of_append
      rw [opens, closes, List.countP_append, List.countP_append, ← opens, ← closes, hbalance,
        session_concat]
      obtain ⟨operation, succeeded⟩ := call
      cases operation with
      | openLink mode =>
          have hnone : session calls = none := hpermitted
          cases succeeded <;> simp [Call.next, hnone]
      | closeLink =>
          obtain ⟨mode, hsome⟩ := Option.ne_none_iff_exists'.mp (hpermitted : session calls ≠ none)
          simp [Call.next, hsome]
      | _ => simp [Call.next]

/-- What a transport relies on, when its handle is left in `mode`. -/
structure Disciplined (calls : List Call) (mode : Option OpenMode) : Prop where
  orderly : Orderly calls
  session_eq : session calls = mode
  /-- No point of time has more closes than successful opens, and none has more
  than one open to be closed. -/
  balanced : ∀ before after, calls = before ++ after →
    opens before = closes before + (session before).toList.length

theorem Orderly.disciplined {calls : List Call} {mode : Option OpenMode}
    (horderly : Orderly calls) (hsession : session calls = mode) : Disciplined calls mode where
  orderly := horderly
  session_eq := hsession
  balanced before after hcalls := by
    rw [hcalls] at horderly
    exact horderly.of_append.opens_eq

end Transport

open Transport (Operation Call)

/-- A world with the transports that were made in it, by number, all calls of
their operations so far, and those that were given up with their handles. -/
structure Recorded (σ : Type) where
  world : σ
  created : Nat := 0
  calls : List (Nat × Call) := []
  released : List Nat := []

namespace Recorded

variable {σ α β : Type}

def callsOf (recorded : Recorded σ) (number : Nat) : List Call :=
  (recorded.calls.filter fun entry => entry.1 == number).map Prod.snd

/-- The record with one more call, after which the world is another. -/
def note (recorded : Recorded σ) (number : Nat) (call : Call) (world : σ) : Recorded σ :=
  { recorded with world, calls := recorded.calls ++ [(number, call)] }

def noteAll (recorded : Recorded σ) (number : Nat) (calls : List Call) (world : σ) : Recorded σ :=
  { recorded with world, calls := recorded.calls ++ calls.map (number, ·) }

/-- The record once a transport was given up, after which the world is another. -/
def giveUp (recorded : Recorded σ) (number : Nat) (world : σ) : Recorded σ :=
  { recorded with world, released := recorded.released ++ [number] }

theorem note_eq_noteAll (recorded : Recorded σ) (number : Nat) (call : Call) (world : σ) :
    recorded.note number call world = recorded.noteAll number [call] world := rfl

@[simp]
theorem noteAll_nil (recorded : Recorded σ) (number : Nat) :
    recorded.noteAll number [] recorded.world = recorded := by
  simp [noteAll]

@[simp]
theorem noteAll_noteAll (recorded : Recorded σ) (number : Nat) (first more : List Call)
    (between world : σ) :
    (recorded.noteAll number first between).noteAll number more world =
      recorded.noteAll number (first ++ more) world := by
  simp [noteAll]

@[simp]
theorem created_note (recorded : Recorded σ) (number : Nat) (call : Call) (world : σ) :
    (recorded.note number call world).created = recorded.created := rfl

@[simp]
theorem released_note (recorded : Recorded σ) (number : Nat) (call : Call) (world : σ) :
    (recorded.note number call world).released = recorded.released := rfl

@[simp]
theorem callsOf_note (recorded : Recorded σ) (number : Nat) (call : Call) (world : σ) :
    (recorded.note number call world).callsOf number = recorded.callsOf number ++ [call] := by
  simp [note, callsOf]

@[simp]
theorem callsOf_note_of_ne (recorded : Recorded σ) {number other : Nat} (hother : other ≠ number)
    (call : Call) (world : σ) :
    (recorded.note number call world).callsOf other = recorded.callsOf other := by
  simp [note, callsOf, Ne.symm hother]

def beside (action : LinkM σ α) : LinkM (Recorded σ) α :=
  LinkM.within Recorded.world (fun recorded world => { recorded with world }) action

/-- Passes a call on and notes it. -/
def noting (number : Nat) (operation : Operation) (action : LinkM σ α) :
    LinkM (Recorded σ) α := fun recorded =>
  match action recorded.world with
  | .ok value world => .ok value (recorded.note number { operation, succeeded := true } world)
  | .error error world =>
      .error error (recorded.note number { operation, succeeded := false } world)

variable {number : Nat} {operation : Operation} {action : LinkM σ α} {recorded : Recorded σ}

/-- However it ends, the call is noted. -/
theorem leads_noting {done : α → Recorded σ → Prop} {failed : LinkError → Recorded σ → Prop}
    (hdone : ∀ value world, done value (recorded.note number { operation, succeeded := true } world))
    (hfailed : ∀ error world,
      failed error (recorded.note number { operation, succeeded := false } world)) :
    LinkM.Leads (noting number operation action) recorded done failed := by
  rw [LinkM.Leads, noting]
  cases action recorded.world with
  | ok value world => exact hdone value world
  | error error world => exact hfailed error world

/-- A statement about a noted call is one about the call. -/
theorem leads_noting_iff {done : α → Recorded σ → Prop} {failed : LinkError → Recorded σ → Prop} :
    LinkM.Leads (noting number operation action) recorded done failed ↔
      LinkM.Leads action recorded.world
        (fun value world =>
          done value (recorded.note number { operation, succeeded := true } world))
        (fun error world =>
          failed error (recorded.note number { operation, succeeded := false } world)) := by
  simp only [LinkM.Leads, noting]
  cases action recorded.world <;> rfl

theorem note_of_ok {value : α} {after : Recorded σ}
    (hnoting : noting number operation action recorded = .ok value after) :
    ∃ world, action recorded.world = .ok value world ∧
      after = recorded.note number { operation, succeeded := true } world := by
  rw [noting] at hnoting
  split at hnoting
  · next haction =>
      cases hnoting
      exact ⟨_, haction, rfl⟩
  · cases hnoting

theorem note_of_error {error : LinkError} {after : Recorded σ}
    (hnoting : noting number operation action recorded = .error error after) :
    ∃ world, action recorded.world = .error error world ∧
      after = recorded.note number { operation, succeeded := false } world := by
  rw [noting] at hnoting
  split at hnoting
  · cases hnoting
  · next haction =>
      cases hnoting
      exact ⟨_, haction, rfl⟩

/-- A transport whose calls are noted under a number, as is its end. -/
def transport (number : Nat) (transport : Transport σ) : Transport (Recorded σ) where
  backend := transport.backend
  now recorded := transport.now recorded.world
  patience recorded := transport.patience recorded.world
  openLink mode := noting number (.openLink mode) (transport.openLink mode)
  closeLink := noting number .closeLink transport.closeLink
  write bytes mode := noting number (.write bytes mode) (transport.write bytes mode)
  read room mode := noting number (.read room mode) (transport.read room mode)
  setLineParams params := noting number (.setLineParams params) (transport.setLineParams params)
  setHandshakeLines rts dtr :=
    noting number (.setHandshakeLines rts dtr) (transport.setHandshakeLines rts dtr)
  charFormat := noting number .charFormat transport.charFormat
  queuedInput := noting number .queuedInput transport.queuedInput
  flush := noting number .flush transport.flush
  drain := noting number .drain transport.drain
  eventSource := noting number .eventSource transport.eventSource
  release recorded := recorded.giveUp number (transport.release recorded.world)

/-- A backend whose transports are numbered as they are made. -/
def backend (backend : Backend σ) : Backend (Recorded σ) where
  name := backend.name
  accepts := backend.accepts
  create connection := fun recorded =>
    match backend.create connection recorded.world with
    | .ok made world =>
        .ok (transport recorded.created made)
          { recorded with world, created := recorded.created + 1 }
    | .error error world => .error error { recorded with world }
  enumerate := beside backend.enumerate
  findByIdentity vendor product := beside (backend.findByIdentity vendor product)

/-! ### Recording changes nothing but the record -/

theorem outcome_beside (action : LinkM σ α) (recorded : Recorded σ) :
    (beside action).outcome recorded =
      ((action.outcome recorded.world).1,
        { recorded with world := (action.outcome recorded.world).2 }) := by
  simp only [beside, LinkM.within, LinkM.outcome]
  cases action recorded.world <;> rfl

theorem beside_bind (action : LinkM σ α) (next : α → LinkM σ β) :
    beside (action >>= next) = beside action >>= fun value => beside (next value) := by
  funext recorded
  simp only [beside, LinkM.within, bind, EStateM.bind]
  cases action recorded.world <;> rfl

theorem beside_attempt (action : LinkM σ α) :
    beside (LinkM.attempt action) = LinkM.attempt (beside action) := by
  funext recorded
  simp only [beside, LinkM.within, LinkM.attempt]
  cases action recorded.world <;> rfl

/-- Looking for candidates is the same whether calls are recorded or not. -/
theorem enumerateAll_backend (backends : List (Backend σ)) :
    Backend.enumerateAll (backends.map backend) = beside (Backend.enumerateAll backends) := by
  rw [Backend.enumerateAll, Backend.enumerateAll]
  induction backends with
  | nil => rfl
  | cons first rest ih =>
      rw [List.map_cons, Backend.collect, Backend.collect, beside_bind, beside_attempt, ih]
      congr 1
      funext result
      cases result with
      | ok found =>
          exact (beside_bind (Backend.collect Backend.enumerate rest)
            fun more => pure (found ++ more)).symm
      | error error => cases error <;> rfl

/-- A handle is made as it would be without a record, and its transport has the
next number. -/
theorem handleFor_backend (backends : List (Backend σ)) (key : Nat) (connection : Connection)
    (recorded : Recorded σ) :
    Backend.handleFor (backends.map backend) key connection recorded =
      match Backend.handleFor backends key connection recorded.world with
      | .ok link world =>
          .ok { link with transport := transport recorded.created link.transport }
            { recorded with world, created := recorded.created + 1 }
      | .error error world => .error error { recorded with world } := by
  have haccepts : (fun served : Backend (Recorded σ) => served.accepts connection) ∘ backend =
      fun served => served.accepts connection := rfl
  rw [Backend.handleFor, Backend.handleFor, List.find?_map, haccepts]
  cases backends.find? fun served => served.accepts connection with
  | none => rfl
  | some chosen =>
      simp only [Option.map_some, bind, EStateM.bind, backend]
      cases chosen.create connection recorded.world <;> rfl

end Recorded

/-- A new handle is closed. -/
theorem Backend.handle_of_handleFor {σ : Type} {backends : List (Backend σ)} {key : Nat}
    {connection : Connection} {world after : σ} {link : Link σ}
    (hmakes : handleFor backends key connection world = .ok link after) :
    link.handle = { key, connection } := by
  cases hserved : backends.find? fun backend => backend.accepts connection with
  | none =>
      rw [handleFor, hserved] at hmakes
      cases hmakes
  | some chosen =>
      simp only [handleFor, hserved, bind, EStateM.bind] at hmakes
      split at hmakes
      · cases hmakes
        rfl
      · cases hmakes

end InstrumentLink
