import InstrumentLink.Proofs.HandleRules
import InstrumentLink.Proofs.ObservedLink
import Mathlib.Data.List.Basic

/-!
# Recorded writes

To say what a transport was handed, and what it took of that, each call of its write
is recorded with the time at which it was made and with its answer.  A write through
a handle that is open for writing is one such call.
-/

namespace InstrumentLink

open LinkM

variable {σ : Type}

structure WriteCall where
  offered : List UInt8
  mode : IoMode
  began : Nat
  result : Except LinkError Nat
  deriving DecidableEq, Repr

namespace WriteCall

def accepted (call : WriteCall) : List UInt8 :=
  call.offered.take (call.result.toOption.getD 0)

def taken (calls : List WriteCall) : List UInt8 := calls.flatMap accepted

def Answered (call : WriteCall) : Prop := ∃ count, call.result = .ok count

@[simp]
theorem taken_nil : taken [] = [] := rfl

@[simp]
theorem taken_cons (call : WriteCall) (calls : List WriteCall) :
    taken (call :: calls) = call.accepted ++ taken calls := rfl

theorem accepted_of_ok {call : WriteCall} {count : Nat} (hresult : call.result = .ok count) :
    call.accepted = call.offered.take count := by
  rw [accepted, hresult]
  rfl

/-- A call that fails takes nothing. -/
theorem accepted_of_error {call : WriteCall} {error : LinkError}
    (hresult : call.result = .error error) : call.accepted = [] := by
  rw [accepted, hresult]
  rfl

end WriteCall

/-- A world, and the calls of the write of its transport so far. -/
structure Posted (σ : Type) where
  world : σ
  calls : List WriteCall := []

namespace Posted

def link (transport : Transport σ) : Transport (Posted σ) :=
  { transport.within Posted.world (fun posted world => { posted with world }) with
    write := fun bytes mode posted =>
      let ended := (transport.write bytes mode).outcome posted.world
      LinkM.ofExcept ended.1
        { world := ended.2
          calls := posted.calls ++ [⟨bytes, mode, transport.now posted.world, ended.1⟩] } }

variable {transport : Transport σ} {bytes : List UInt8} {mode : IoMode} {before after : Posted σ}

@[simp]
theorem now_link (transport : Transport σ) (posted : Posted σ) :
    (link transport).now posted = transport.now posted.world := rfl

theorem answer_of_link {count : Nat}
    (hwrite : (link transport).write bytes mode before = .ok count after) :
    transport.write bytes mode before.world = .ok count after.world ∧
      after.calls =
        before.calls ++ [⟨bytes, mode, transport.now before.world, .ok count⟩] := by
  simp only [link, outcome] at hwrite
  split at hwrite
  · next hinner =>
      cases hwrite
      exact ⟨hinner, rfl⟩
  · cases hwrite

theorem failure_of_link {error : LinkError}
    (hwrite : (link transport).write bytes mode before = .error error after) :
    transport.write bytes mode before.world = .error error after.world ∧
      after.calls =
        before.calls ++ [⟨bytes, mode, transport.now before.world, .error error⟩] := by
  simp only [link, outcome] at hwrite
  split at hwrite
  · cases hwrite
  · next hinner =>
      cases hwrite
      exact ⟨hinner, rfl⟩

/-- A write through a handle that is open for writing is one call, answered or not. -/
theorem outcome_write (transport : Transport σ) {station : Station (Posted σ)}
    (hwritable : station.handle.mode = some .readWrite) (hbytes : bytes ≠ []) (mode : IoMode) :
    (∃ count after, (Handle.write (link transport) bytes mode).outcome station =
          (.ok count, after) ∧
        after.handle = station.handle ∧
        transport.write bytes mode station.world.world = .ok count after.world.world ∧
        after.world.calls = station.world.calls ++
          [⟨bytes, mode, transport.now station.world.world, .ok count⟩]) ∨
      ∃ error after, (Handle.write (link transport) bytes mode).outcome station =
          (.error error, after) ∧
        transport.write bytes mode station.world.world = .error error after.world.world ∧
        after.world.calls = station.world.calls ++
          [⟨bytes, mode, transport.now station.world.world, .error error⟩] := by
  rcases (Handle.write_leads_of_writable (link transport) hwritable hbytes mode).exists_outcome with
    ⟨count, after, houtcome, hhandle, hwrite⟩ | ⟨error, after, houtcome, _, hwrite⟩
  · exact .inl ⟨count, after, houtcome, hhandle, answer_of_link hwrite⟩
  · exact .inr ⟨error, after, houtcome, failure_of_link hwrite⟩

/-- The record changes nothing on the link. -/
theorem link_observesWrites (transport : Transport σ) :
    (link transport).ObservesWrites Posted.world transport where
  backend := rfl
  now _ := rfl
  patience _ := rfl
  write bytes mode posted := by
    simp only [Mirrors, link, outcome]
    cases transport.write bytes mode posted.world <;> rfl

end Posted

end InstrumentLink
