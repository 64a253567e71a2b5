import InstrumentLink.Proofs.Conversation
import InstrumentLink.Proofs.StreamedReception

/-!
# Watching a scripted link

To say when the bytes of a reply arrived, a scripted link is watched: every
byte that leaves its input is recorded, whether it is read or discarded.  The
link itself is not changed by that.  The bytes are told apart by the order in
which they leave, and those that have arrived are the ones that are gone and
the ones that can be read.
-/

namespace InstrumentLink.Scripted

open LinkM

structure Watched where
  state : State
  gone : List UInt8 := []

namespace Watched

def arrived (watched : Watched) : List UInt8 := watched.gone ++ watched.state.readable

def link : Transport Watched :=
  { transport.within Watched.state (fun watched state => { watched with state }) with
    read := fun room mode watched =>
      match transport.read room mode watched.state with
      | .ok bytes state => .ok bytes { state, gone := watched.gone ++ bytes }
      | .error error state => .error error { watched with state }
    flush := fun watched =>
      match transport.flush watched.state with
      | .ok value state => .ok value { state, gone := watched.arrived }
      | .error error state => .error error { watched with state } }

/-- What happens to a link from its far end, or by the passing of time. -/
inductive Event where
  | sleep (time : Nat)
  | push (bytes : List UInt8)
  | arrive (arrival : Arrival)
  | schedule (exchange : Exchange)
  | setChunk (size : Nat)

def Event.apply : Event → State → State
  | sleep time, state => state.sleep time
  | push bytes, state => state.push bytes
  | arrive arrival, state => state.arrive arrival
  | schedule exchange, state => state.schedule exchange
  | setChunk size, state => state.setChunk size

/-- An event changes the link and nothing else. -/
def Happens (before after : Station Watched) : Prop :=
  ∃ event : Event, after =
    { before with world := { before.world with state := event.apply before.world.state } }

variable {before after : Watched} {room : Nat} {mode : IoMode} {bytes : List UInt8}

theorem read_of_link_read (hread : link.read room mode before = .ok bytes after) :
    transport.read room mode before.state = .ok bytes after.state ∧
      after.gone = before.gone ++ bytes := by
  simp only [link] at hread
  split at hread
  · next hinner =>
      cases hread
      exact ⟨hinner, rfl⟩
  · cases hread

theorem link_read_ne_error {error : LinkError} :
    link.read room mode before ≠ .error error after := by
  intro hread
  simp only [link] at hread
  split at hread
  · cases hread
  · next hinner => exact read_ne_error hinner

theorem sparesDevice : link.SparesDevice := by
  intro room mode before error after hread
  exact (link_read_ne_error hread).elim

def trail (timeout : Nat) : link.Trail (FramedLink.window timeout) where
  Took before taken after := after.gone = before.gone ++ taken
  nothing watched := (List.append_nil watched.gone).symm
  append hfirst hmore := by rw [hmore, hfirst, List.append_assoc]
  read hread := (read_of_link_read hread).2
  room hread := length_le_of_read (read_of_link_read hread).1
  failure hread := (link_read_ne_error hread).elim

/-- Writing takes nothing from the input. -/
theorem writesWithin_gone :
    link.WritesWithin fun before after => after.gone = before.gone where
  refl _ := rfl
  trans hfirst hmore := hmore.trans hfirst
  written hwrite := by
    simp only [link, Transport.within, within] at hwrite
    split at hwrite <;> cases hwrite
    rfl
  failed hwrite := by
    simp only [link, Transport.within, within] at hwrite
    split at hwrite <;> cases hwrite
    rfl

/-- From one station to the other the handle stays as it is, and more bytes are
gone. -/
def Onward (before after : Station Watched) : Prop :=
  after.handle = before.handle ∧ before.world.gone <+: after.world.gone

theorem Onward.refl (station : Station Watched) : Onward station station :=
  ⟨rfl, List.prefix_rfl⟩

theorem Onward.trans {before between after : Station Watched} (hfirst : Onward before between)
    (hmore : Onward between after) : Onward before after :=
  ⟨hmore.1.trans hfirst.1, hfirst.2.trans hmore.2⟩

theorem onward_of_happens {before after : Station Watched} (hhappens : Happens before after) :
    Onward before after := by
  obtain ⟨event, rfl⟩ := hhappens
  exact ⟨rfl, List.prefix_rfl⟩

theorem onward_of_took {timeout : Nat} {before after : Station Watched} {taken : List UInt8}
    (hhandle : after.handle = before.handle)
    (htook : (trail timeout).Took before.world taken after.world) : Onward before after := by
  refine ⟨hhandle, ?_⟩
  rw [show after.world.gone = before.world.gone ++ taken from htook]
  exact List.prefix_append _ _

def Emptied (station : Station Watched) : Prop :=
  station.handle.isOpen = true → station.world.state.readable = []

/-- Discarding leaves nothing, and everything that had arrived is gone. -/
theorem flush_empties (station : Station Watched) :
    Onward station ((Handle.flush link).outcome station).2 ∧
      Emptied ((Handle.flush link).outcome station).2 := by
  refine (leads_iff_world _ _ fun after => Onward station after ∧ Emptied after).mp ?_
  apply (Handle.flush_leads link station).mono
  · intro _ after hdone
    obtain ⟨world, hflush, rfl⟩ := hdone
    simp only [link] at hflush
    split at hflush
    · next hinner =>
        cases hflush
        exact ⟨⟨rfl, List.prefix_append _ _⟩, fun _ => readable_of_flush hinner⟩
    · cases hflush
  · intro error after hfailed
    cases hfailed with
    | closed hclosed =>
        exact ⟨.refl station, fun hopen => absurd hclosed ((Handle.isOpen_iff _).mp hopen)⟩
    | transport hflush =>
        simp only [link] at hflush
        split at hflush
        · cases hflush
        · next hinner => cases hinner

end Watched

end InstrumentLink.Scripted
