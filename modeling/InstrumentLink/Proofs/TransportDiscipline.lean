import InstrumentLink.Proofs.RegistrationSlot
import InstrumentLink.Proofs.TransportUse

/-!
# The discipline of a scan

A scan makes a transport for every candidate, uses it as any handle would, and
leaves it closed.  With that, whatever is done through the library, every
transport sees its calls in order.
-/

namespace InstrumentLink

open LinkM
open Transport (Call Orderly session opens closes orderly_nil)

variable {σ π α : Type} {number : Nat}

namespace Handle

/-- However closing ends, the handle is closed. -/
theorem mode_of_closeLink (transport : Transport σ) (station : Station σ) :
    Leads (closeLink transport) station (fun _ after => after.handle.mode = none)
      (fun _ after => after.handle.mode = none) := by
  apply (closeLink_leads transport station).mono
  · rintro _ after ⟨_, hhandle, _⟩
    rw [hhandle]
    rfl
  · intro _ after hfailed
    cases hfailed with
    | notOpen hclosed => exact hclosed
    | transport _ _ => rfl

/-- A failed open changes nothing about the handle.  The handle of a link that is
open already stays open, and then nothing at all happens. -/
theorem handle_of_failed_openLink {transport : Transport σ} {mode : OpenMode}
    {station after : Station σ} {error : LinkError}
    (hfails : (openLink transport mode).outcome station = (.error error, after)) :
    after.handle = station.handle ∧
      (after.handle.isOpen = true →
        error = .argument (.alreadyOpen station.handle.connection.text) ∧ after = station) := by
  have hfailed : OpenFailure transport mode station error after := by
    simpa only [hfails] using
      (openLink_leads transport mode station).of_error (congrArg Prod.fst hfails)
  refine ⟨hfailed.handle_eq, ?_⟩
  intro hopen
  cases hfailed with
  | alreadyOpen _ => exact ⟨rfl, rfl⟩
  | transport hclosed _ => exact absurd hclosed ((isOpen_iff _).mp hopen)

theorem handle_of_closeLink (transport : Transport σ) {station : Station σ}
    (hopen : station.handle.isOpen = true) :
    ((closeLink transport).outcome station).2.handle = station.handle.closed := by
  apply (leads_iff_world (closeLink transport) station
    fun after => after.handle = station.handle.closed).mp
  apply (closeLink_leads transport station).mono
  · intro _ _ hends
    exact hends.2.1
  · intro _ _ hfailed
    cases hfailed with
    | notOpen hclosed => exact absurd hclosed ((isOpen_iff _).mp hopen)
    | transport _ _ => rfl

end Handle

namespace Recorded

/-- No transport was called, none was made and none was given up. -/
structure Untouched (before after : Recorded σ) : Prop where
  calls : after.calls = before.calls
  created : after.created = before.created
  released : after.released = before.released

theorem beside_leads (action : LinkM σ α) (recorded : Recorded σ) :
    Leads (beside action) recorded (fun _ => Untouched recorded) (fun _ => Untouched recorded) := by
  rw [beside, leads_within, Leads]
  split
  · exact ⟨rfl, rfl, rfl⟩
  · exact ⟨rfl, rfl, rfl⟩

/-- Looking for candidates calls no transport. -/
theorem enumerateAll_leads (backends : List (Backend σ)) (recorded : Recorded σ) :
    Leads (Backend.enumerateAll (backends.map backend)) recorded (fun _ => Untouched recorded)
      (fun _ => Untouched recorded) := by
  rw [enumerateAll_backend]
  exact beside_leads _ recorded

/-- A fresh handle is served by a transport with a number of its own. -/
theorem handleFor_leads (backends : List (Backend σ)) (key : Nat) (connection : Connection)
    (recorded : Recorded σ) :
    Leads (Backend.handleFor (backends.map backend) key connection) recorded
      (fun link after => ∃ made world, link.transport = transport recorded.created made ∧
        link.handle = { key, connection } ∧
          after = { recorded with world, created := recorded.created + 1 })
      (fun _ => Untouched recorded) := by
  rw [Leads, handleFor_backend]
  cases hmakes : Backend.handleFor backends key connection recorded.world with
  | ok link world =>
      have hhandle : link.handle = { key, connection } := Backend.handle_of_handleFor hmakes
      exact ⟨link.transport, world, rfl, hhandle, rfl⟩
  | error error world => exact ⟨rfl, rfl, rfl⟩

end Recorded

namespace Scan

/-- A probe does nothing with a transport but use the device that it is given. -/
def UsesDevice (probe : Probe (Recorded σ) π) : Prop :=
  ∀ number (transport : Transport σ) attached memory, ∃ uses,
    (probe (Recorded.transport number transport) attached memory).2.1 =
      Use.run (Recorded.transport number transport) attached uses

variable {probe : Probe (Recorded σ) π} (transport : Transport σ) (options : ScanOptions)

theorem configure_leads (station : Station (Recorded σ)) :
    Leads (configure (Recorded.transport number transport) options) station
      (fun _ after => Kept number station after) (fun _ _ => False) := by
  rw [configure]
  split
  · exact .refl number station
  · next params _ =>
      have hkeeps : Keeps number id
          (Handle.setLineParams (Recorded.transport number transport) params) :=
        keeps_iff.mpr (Handle.ofMoves_setLineParams _ params).respects
      rw [leads_bind, leads_attempt]
      apply (hkeeps station).mono
      · intro _ _ hkept
        exact hkept
      · intro error after hkept
        exact hkept.trans (kept_of_eq rfl (fun _ => rfl) rfl rfl)

/-- A candidate is left closed. -/
theorem examine_leads (hprobe : UsesDevice probe) (station : Station (Recorded σ)) (memory : π) :
    Leads (examine options probe (Recorded.transport number transport)) (station, memory)
      (fun _ after => Kept number station after.1 ∧ after.1.handle.mode = none)
      (fun _ _ => False) := by
  simp only [examine, leads_bind, leads_within, leads_get, leads_set, leads_attempt]
  apply (configure_leads transport options station).mono
  · intro configured between hkept
    -- The verdict is not looked at: only that the station was kept matters here.
    generalize hends : ite (configured = true) (_ : Bool × Station (Recorded σ) × π) _ = ends
    have hprobed : Kept number between ends.2.1 := by
      rw [← hends]
      split
      · obtain ⟨uses, huses⟩ := hprobe number transport
          { device := { config := options.config }, station := between } memory
        rw [huses]
        exact Use.kept_run transport
          { device := { config := options.config }, station := between } uses
      · exact .refl number between
    have hclosed : Kept number ends.2.1
        ((Handle.closeLink (Recorded.transport number transport)).outcome ends.2.1).2 :=
      (Handle.keeps_closeLink transport).kept ends.2.1
    have hmode := (leads_iff_world _ _ _).mp
      (Handle.mode_of_closeLink (Recorded.transport number transport) ends.2.1)
    have hall := (hkept.trans hprobed).trans hclosed
    refine (leads_iff_world _ _ _).mpr ?_
    split
    · exact ⟨hall.trans (kept_of_eq rfl (fun _ => rfl) rfl rfl), hmode⟩
    · exact ⟨hall, hmode⟩
  · intro _ _ hfalse
    exact hfalse

/-- Between two candidates: the calls of every transport were in order, each one
was left closed and given up, and numbers that are not taken were not called. -/
structure Settled (recorded : Recorded σ) : Prop where
  orderly : ∀ number, Orderly (recorded.callsOf number)
  closed : ∀ number, session (recorded.callsOf number) = none
  free : ∀ number, recorded.created ≤ number → recorded.callsOf number = []
  released : recorded.released = List.range recorded.created

theorem Settled.of_untouched {before after : Recorded σ} (h : Settled before)
    (huntouched : before.Untouched after) : Settled after := by
  have hsame (number : Nat) : after.callsOf number = before.callsOf number := by
    rw [Recorded.callsOf, huntouched.calls, Recorded.callsOf]
  constructor
  · intro number
    rw [hsame]
    exact h.orderly number
  · intro number
    rw [hsame]
    exact h.closed number
  · intro number hfree
    rw [huntouched.created] at hfree
    rw [hsame]
    exact h.free number hfree
  · rw [huntouched.released, huntouched.created, h.released]

/-- A new transport whose handle was kept, left closed and given up leaves everything
settled. -/
theorem Settled.of_kept {recorded : Recorded σ} (h : Settled recorded)
    {made : Station (Recorded σ)} {world : σ}
    (hworld : made.world = { recorded with world, created := recorded.created + 1 })
    (hmade : made.handle.mode = none) {after : Station (Recorded σ)}
    (hkept : Kept recorded.created made after) (hafter : after.handle.mode = none) :
    Settled (after.handle.drop (Recorded.transport recorded.created transport) after.world).2 := by
  have hsame (number : Nat) : made.world.callsOf number = recorded.callsOf number := by
    rw [hworld]
    rfl
  have htracked : Tracked recorded.created after :=
    hkept.tracked
      { orderly := by rw [hsame]; exact h.orderly _
        session_eq := by rw [hsame, hmade]; exact h.closed _ }
  have hcreated : after.world.created = recorded.created + 1 := by
    rw [hkept.created, hworld]
  have hreleased : after.world.released = recorded.released := by
    rw [hkept.released, hworld]
  have hdropped (number : Nat) : (after.handle.drop (Recorded.transport recorded.created transport)
      after.world).2.callsOf number = after.world.callsOf number := rfl
  -- The new number aside, the calls are those from before the transport was made.
  have hothers (number : Nat) (hother : number ≠ recorded.created) :
      after.world.callsOf number = recorded.callsOf number := by
    rw [hkept.others number hother, hsame]
  have hall (P : List Call → Prop) (hnew : P (after.world.callsOf recorded.created))
      (hold : ∀ number, P (recorded.callsOf number)) (number : Nat) :
      P (after.world.callsOf number) := by
    by_cases hnumber : number = recorded.created
    · rwa [hnumber]
    · rw [hothers number hnumber]
      exact hold number
  constructor
  · exact hall Orderly htracked.orderly h.orderly
  · exact hall (session · = none) (htracked.session_eq.trans hafter) h.closed
  · intro number hfree
    have hnumber : recorded.created < number := by
      change after.world.created ≤ number at hfree
      rwa [hcreated] at hfree
    rw [hdropped, hothers number (Nat.ne_of_gt hnumber)]
    exact h.free number (Nat.le_of_lt hnumber)
  · change after.world.released ++ [recorded.created] = List.range after.world.created
    rw [hreleased, h.released, hcreated, List.range_succ]

variable {backends : List (Backend σ)}

theorem settled_visit (hprobe : UsesDevice probe) (resource : Resource)
    {state : ScanState (Recorded σ) π} (h : Settled state.world) :
    Settled (visit (backends.map Recorded.backend) options probe resource state).2.world := by
  have hmakes := Recorded.handleFor_leads backends 0 resource.connection state.world
  rw [visit]
  rcases hmade : (Backend.handleFor (backends.map Recorded.backend) 0
    resource.connection).outcome state.world with ⟨error | link, world⟩
  · have huntouched := hmakes.of_error (congrArg Prod.fst hmade)
    rw [hmade] at huntouched
    exact h.of_untouched huntouched
  · obtain ⟨transport, left, htransport, hhandle, hworld⟩ :=
      hmakes.of_ok (congrArg Prod.fst hmade)
    rw [hmade] at hworld
    dsimp only at hworld ⊢
    have hclosed : link.handle.mode = none := congrArg Handle.mode hhandle
    rw [htransport]
    have hopens := ((Handle.keeps_openLink transport .readWrite _).and
      (Handle.openLink_leads (Recorded.transport state.world.created transport) .readWrite
        { handle := link.handle, world, log := state.log }))
    rcases hopened : (Handle.openLink (Recorded.transport state.world.created transport)
      .readWrite).outcome { handle := link.handle, world, log := state.log } with
      ⟨error | _, station⟩
    · obtain ⟨hkept, hfailed⟩ := hopens.of_error (congrArg Prod.fst hopened)
      rw [hopened] at hkept hfailed
      have hleft : station.handle.mode = none := hfailed.handle_eq ▸ hclosed
      exact h.of_kept transport hworld hclosed hkept hleft
    · obtain ⟨hkept, _⟩ := hopens.of_ok (congrArg Prod.fst hopened)
      rw [hopened] at hkept
      obtain ⟨answered, after, hexamined, hmore, hleft⟩ :=
        (examine_leads transport options hprobe station state.memory).exists_ok
      dsimp only
      rw [hexamined]
      exact h.of_kept transport hworld hclosed (hkept.trans hmore) hleft

theorem settled_visitAll (hprobe : UsesDevice probe) (resources : List Resource)
    {state : ScanState (Recorded σ) π} (h : Settled state.world) :
    Settled (visitAll (backends.map Recorded.backend) options probe resources state).2.world := by
  induction resources generalizing state with
  | nil => exact h
  | cons resource rest ih => exact ih (settled_visit options hprobe resource h)

theorem settled_scan (hprobe : UsesDevice probe) {state : ScanState (Recorded σ) π}
    (h : Settled state.world) :
    Settled (scan (backends.map Recorded.backend) options probe state).2.world := by
  have hlists : Leads (candidates (backends.map Recorded.backend) options) state.world
      (fun _ => Recorded.Untouched state.world) (fun _ => Recorded.Untouched state.world) := by
    rw [candidates]
    split
    · exact ⟨rfl, rfl, rfl⟩
    · exact Recorded.enumerateAll_leads backends state.world
  rw [leads_iff_world] at hlists
  rw [scan]
  rcases hlisted : (candidates (backends.map Recorded.backend) options).outcome state.world with
    ⟨error | resources, world⟩
  · rw [hlisted] at hlists
    exact h.of_untouched hlists
  · rw [hlisted] at hlists
    exact settled_visitAll options hprobe resources (h.of_untouched hlists)

theorem settled_fresh (world : σ) : Settled { world } where
  orderly _ := orderly_nil
  closed _ := rfl
  free _ _ := rfl
  released := rfl

/-- The handshakes that come with a scan use nothing but the device. -/
theorem usesDevice_run (kind : ProbeKind) :
    UsesDevice (kind.run : Probe (Recorded σ) (List ProbeNote)) := by
  intro number transport attached notes
  cases kind with
  | always => exact ⟨[], rfl⟩
  | never => exact ⟨[], rfl⟩
  | close => exact ⟨[.closeLink], rfl⟩
  | registers address count expected =>
      exact ⟨[.perform (.readRegisters address count)], rfl⟩
  | coil address value => exact ⟨[.perform (.writeCoil address value)], rfl⟩

end Scan

namespace Transport

/-- Every transport is called in the order that it relies on, whatever comes of its
calls: by a handle in any use, on its own, through a framed link or through a
device, and by a scan, which leaves every transport closed and gives each one up
once.  Giving a handle up calls nothing, and only that gives its transport up.  An
open that fails changes nothing about the handle, and a close of an open handle
leaves it closed and without a live registration, even if the transport fails to
close. -/
theorem calls_disciplined :
    (∀ (transport : Transport σ) (number key : Nat) (connection : Connection)
        (config : LinkConfig) (world : σ) (uses : List (Use σ)),
      let last := (Use.run (Recorded.transport number transport)
        { device := { config }, station := { handle := { key, connection }, world := { world } } }
        uses).station
      let left := (last.handle.drop (Recorded.transport number transport) last.world).2
      Disciplined (last.world.callsOf number) last.handle.mode ∧
        left.calls = last.world.calls ∧
          last.world.released = [] ∧ left.released = [number]) ∧
      (∀ (backends : List (Backend σ)) (options : ScanOptions) (probe : Probe (Recorded σ) π)
          (world : σ) (memory : π) (log : List LogLine) (number : Nat),
        Scan.UsesDevice probe →
          let left := (scan (backends.map Recorded.backend) options probe
            { world := { world }, memory, log }).2.world
          Disciplined (left.callsOf number) none ∧ left.released = List.range left.created) ∧
      (∀ (transport : Transport σ) (mode : OpenMode) (station after : Station σ)
          (error : LinkError),
        (Handle.openLink transport mode).outcome station = (.error error, after) →
          after.handle = station.handle ∧
            (after.handle.isOpen = true →
              error = .argument (.alreadyOpen station.handle.connection.text) ∧
                after = station)) ∧
      ∀ (transport : Transport σ) (station : Station σ), station.handle.isOpen = true →
        let left := ((Handle.closeLink transport).outcome station).2.handle
        left = { station.handle with mode := none, events := station.handle.events.disarm } ∧
          left.isOpen = false ∧ left.hasRegistration = false := by
  refine ⟨?_, ?_, ?_, ?_⟩
  · intro transport number key connection config world uses last left
    have hkept : Kept number { handle := { key, connection }, world := { world } } last :=
      Use.kept_run transport
        { device := { config }, station := { handle := { key, connection }, world := { world } } }
        uses
    have htracked : Tracked number last := hkept.tracked ⟨orderly_nil, rfl⟩
    have hreleased : last.world.released = [] := hkept.released
    have hleft : left.released = last.world.released ++ [number] := rfl
    rw [hreleased] at hleft
    exact ⟨htracked.orderly.disciplined htracked.session_eq, rfl, hreleased, hleft⟩
  · intro backends options probe world memory log number hprobe left
    have hsettled : Scan.Settled left :=
      Scan.settled_scan options hprobe (Scan.settled_fresh world)
    exact ⟨(hsettled.orderly number).disciplined (hsettled.closed number), hsettled.released⟩
  · intro transport mode station after error hfails
    exact Handle.handle_of_failed_openLink hfails
  · intro transport station hopen left
    have hleft : left = station.handle.closed := Handle.handle_of_closeLink transport hopen
    rw [hleft]
    exact ⟨rfl, rfl, EventSlot.isActive_disarm _⟩

/-- A link that refuses to be opened once and is used all the same, one that is
closed while it is registered, and a scan whose probe closes the only link itself. -/
theorem calls_disciplined_refused :
    let connection : Connection := .serial "/dev/ttyS0"
    let uses : List (Use Scripted.State) :=
      [.openLink .readOnly, .flush, .openLink .readOnly, .write [1] .nonBlocking,
        .read 4 .nonBlocking, .closeLink, .drain, .closeLink]
    let refusing : Station Scripted.State :=
      { handle := { key := 0, connection }, world := { refusesOpen := true } }
    let registered : Station Scripted.State :=
      { handle :=
          { key := 0, connection, mode := some .readWrite
            events := { flags := FlagStore.allocate {}, record := some 0 } }
        world := {} }
    let backend : Backend Scripted.State :=
      { name := Scripted.backendName, accepts := fun _ => true
        create := fun _ => pure Scripted.transport }
    let probe : Probe (Recorded Scripted.State) (List ProbeNote) := ProbeKind.close.run
    (∃ last, (Use.run (Recorded.transport 0 Scripted.transport)
          { device := { config := {} }
            station :=
              { handle := { key := 0, connection }, world := { world := refusing.world } } }
          uses).station = last ∧
        last.world.callsOf 0 =
          [⟨.openLink .readOnly, false⟩, ⟨.openLink .readOnly, true⟩, ⟨.read 4 .nonBlocking, true⟩,
            ⟨.closeLink, true⟩] ∧
        Disciplined (last.world.callsOf 0) last.handle.mode ∧
        (last.handle.drop (Recorded.transport 0 Scripted.transport) last.world).2.released = [0]) ∧
      Scan.UsesDevice probe ∧
      (∃ last, (scan ([backend].map Recorded.backend) { connection := some connection } probe
          { world := { world := {} }, memory := [] }).2.world = last ∧
        last.callsOf 0 = [⟨.openLink .readWrite, true⟩, ⟨.closeLink, true⟩] ∧
        Disciplined (last.callsOf 0) none ∧ last.released = List.range last.created) ∧
      (∃ after, (Handle.openLink Scripted.transport .readWrite).outcome refusing =
        (.error (.transport .scriptedRefusal), after) ∧ after.handle = refusing.handle) ∧
      registered.handle.isOpen = true ∧
      ∃ left, ((Handle.closeLink Scripted.transport).outcome registered).2.handle = left ∧
        left.isOpen = false ∧ left.hasRegistration = false := by
  intro connection uses refusing registered backend probe
  obtain ⟨hruns, hscans, hopens, hcloses⟩ :=
    calls_disciplined (σ := Scripted.State) (π := List ProbeNote)
  have hprobe : Scan.UsesDevice probe := Scan.usesDevice_run .close
  obtain ⟨hused, _, _, hgone⟩ := hruns Scripted.transport 0 0 connection {} refusing.world uses
  exact ⟨⟨_, rfl, by decide, hused, hgone⟩, hprobe,
    ⟨_, rfl, by decide, hscans [backend] _ probe _ _ _ 0 hprobe⟩,
    ⟨_, rfl, (hopens Scripted.transport .readWrite refusing _ _ rfl).1⟩,
    rfl, ⟨_, rfl, (hcloses Scripted.transport registered rfl).2⟩⟩

end Transport

end InstrumentLink
