import InstrumentLink.Proofs.SessionCalls
import InstrumentLink.Proofs.TransportDiscipline

/-!
# The visits of a scan

A scan goes through its candidates one by one.  `Visited` says what becomes of
one of them: nothing, if no handle is made; one refused call, if it does not
open; and otherwise a call that opens it, its configuration, what the probe does
if it was configured, and one call that closes it.  A handle that was made is given
up in the end.  A scan is a `Tour` of such visits, and what it reports can be read
off them.
-/

namespace InstrumentLink

open LinkM
open Transport (Call)

variable {σ π : Type} {number : Nat}

namespace Recorded

def served (recorded : Recorded σ) (calls : List Call) (world : σ) : Recorded σ :=
  { recorded with created := recorded.created + 1 }.noteAll recorded.created calls world

theorem noteAll_served (recorded : Recorded σ) (calls more : List Call) (between world : σ) :
    (recorded.served calls between).noteAll recorded.created more world =
      recorded.served (calls ++ more) world :=
  noteAll_noteAll _ _ _ _ _ _

end Recorded

namespace Handle

variable (transport : Transport σ)

/-- Opening a closed handle is one call, whatever comes of it. -/
theorem openLink_of_closed {station : Station (Recorded σ)} (hclosed : station.handle.mode = none)
    (mode : OpenMode) :
    Leads (openLink (Recorded.transport number transport) mode) station
      (fun _ after => ∃ lines world, transport.openLink mode station.world.world = .ok lines world ∧
        after.handle = { station.handle with mode := some mode } ∧
        after.world = station.world.noteAll number [⟨.openLink mode, true⟩] world)
      (fun _ after => ∃ error world,
        transport.openLink mode station.world.world = .error error world ∧
        after.world = station.world.noteAll number [⟨.openLink mode, false⟩] world) := by
  apply (openLink_leads (Recorded.transport number transport) mode station).mono
  · rintro _ after ⟨_, hhandle, lines, hopens⟩
    obtain ⟨world, hopened, hworld⟩ := Recorded.note_of_ok hopens
    exact ⟨lines, world, hopened, hhandle, hworld⟩
  · intro error _ hfailed
    cases hfailed with
    | alreadyOpen hopen => exact absurd hclosed hopen
    | transport _ hfails =>
        obtain ⟨world, hrefused, hworld⟩ := Recorded.note_of_error hfails
        exact ⟨error, world, hrefused, hworld⟩

/-- Closing an open handle is one call, whatever comes of it. -/
theorem closeLink_of_open {station : Station (Recorded σ)} (hopen : station.handle.mode ≠ none) :
    ∃ result world, transport.closeLink.outcome station.world.world = (result, world) ∧
      ((closeLink (Recorded.transport number transport)).outcome station).2.world =
        station.world.noteAll number [⟨.closeLink, result.isOk⟩] world := by
  apply (leads_iff_world _ _ fun after : Station (Recorded σ) => ∃ result world,
    transport.closeLink.outcome station.world.world = (result, world) ∧
      after.world = station.world.noteAll number [⟨.closeLink, result.isOk⟩] world).mp
  apply (closeLink_leads (Recorded.transport number transport) station).mono
  · rintro _ after ⟨_, _, hcloses⟩
    obtain ⟨world, hclosed, hworld⟩ := Recorded.note_of_ok hcloses
    exact ⟨.ok ⟨⟩, world, by rw [outcome, hclosed], hworld⟩
  · intro error _ hfailed
    cases hfailed with
    | notOpen hclosed => exact absurd hclosed hopen
    | transport _ hfails =>
        obtain ⟨world, hrefused, hworld⟩ := Recorded.note_of_error hfails
        exact ⟨.error error, world, by rw [outcome, hrefused], hworld⟩

end Handle

namespace Scan

/-- A probe uses the device that it is given, in any way but closing it. -/
def SparesHandle (probe : Probe (Recorded σ) π) : Prop :=
  ∀ number (transport : Transport σ) attached memory, ∃ uses : List (Use σ), .closeLink ∉ uses ∧
    (probe (Recorded.transport number transport) attached memory).2.1 =
      Use.run (Recorded.transport number transport) attached uses

/-- How the line parameters are applied to an open candidate: whether it is
configured then, what is called for it, and what it leaves. -/
inductive Configures (transport : Transport σ) (options : ScanOptions) (world : σ) :
    Bool → List Call → σ → Prop
  | nothing (hparams : options.params = none) : Configures transport options world true [] world
  | invalid {params : LineParams} {error : LinkError} (hparams : options.params = some params)
      (hinvalid : params.validate = .error error) :
      Configures transport options world false [] world
  | applied {params : LineParams} {after : σ} (hparams : options.params = some params)
      (hvalid : params.validate = .ok ())
      (happlies : transport.setLineParams params world = .ok ⟨⟩ after) :
      Configures transport options world true [⟨.setLineParams params, true⟩] after
  | refused {params : LineParams} {error : LinkError} {after : σ}
      (hparams : options.params = some params) (hvalid : params.validate = .ok ())
      (hrefuses : transport.setLineParams params world = .error error after) :
      Configures transport options world false [⟨.setLineParams params, false⟩] after

/-- How an open candidate is probed: what is called up to its close, whether it is
reported, and what is left to the world and to the memory of the probe. -/
inductive Probed (transport : Transport σ) (options : ScanOptions) (probe : Probe (Recorded σ) π)
    (number : Nat) (opened : Station (Recorded σ)) (memory : π) :
    List Call → Bool → σ → π → Prop
  | skipped {configuring : List Call} {left : σ}
      (hconfigures : Configures transport options opened.world.world false configuring left) :
      Probed transport options probe number opened memory configuring false left memory
  | asked {configuring probing : List Call} {verdict : Bool} {asked : Station (Recorded σ)}
      {ended : Attached (Recorded σ)} {later : π} {configured left : σ}
      (hconfigures : Configures transport options opened.world.world true configuring configured)
      (hhandle : asked.handle =
        { opened.handle with params := options.params.or opened.handle.params })
      (hworld : asked.world = opened.world.noteAll number configuring configured)
      (hprobes : probe (Recorded.transport number transport)
          { device := { config := options.config }, station := asked } memory =
        (verdict, ended, later))
      (hinside : ∀ call ∈ probing, call.operation.Inside)
      (hended : ended.station.world = opened.world.noteAll number (configuring ++ probing) left) :
      Probed transport options probe number opened memory (configuring ++ probing) verdict left
        later

variable {probe : Probe (Recorded σ) π} (transport : Transport σ) (options : ScanOptions)

theorem configures (station : Station (Recorded σ)) (hopen : station.handle.mode ≠ none) :
    Leads (configure (Recorded.transport number transport) options) station
      (fun configured after => ∃ calls world,
        Configures transport options station.world.world configured calls world ∧
        after.world = station.world.noteAll number calls world ∧
        after.handle.mode = station.handle.mode ∧
        (configured = true → after.handle =
          { station.handle with params := options.params.or station.handle.params }))
      (fun _ _ => False) := by
  rw [configure]
  cases hparams : options.params with
  | none => exact ⟨[], _, .nothing hparams, (Recorded.noteAll_nil _ _).symm, rfl, fun _ => rfl⟩
  | some params =>
      rw [leads_bind, leads_attempt]
      apply (Handle.setLineParams_leads (Recorded.transport number transport) params station).mono
      · rintro _ _ ⟨hvalid, world, happlies, rfl⟩
        obtain ⟨left, happlied, hworld⟩ := Recorded.note_of_ok happlies
        exact ⟨_, left, .applied hparams hvalid happlied, hworld, rfl, fun _ => rfl⟩
      · intro error after hfailed
        cases hfailed with
        | closed hclosed => exact absurd hclosed hopen
        | invalid hinvalid =>
            exact ⟨[], _, .invalid hparams hinvalid, (Recorded.noteAll_nil _ _).symm, rfl,
              fun hdone => absurd hdone Bool.false_ne_true⟩
        | transport hvalid hfails =>
            obtain ⟨left, hrefused, hworld⟩ := Recorded.note_of_error hfails
            exact ⟨_, left, .refused hparams hvalid hrefused, hworld, rfl,
              fun hdone => absurd hdone Bool.false_ne_true⟩

/-- What a probe calls lies inside the session that it finds. -/
theorem SparesHandle.inSession (hspares : SparesHandle probe) {attached : Attached (Recorded σ)}
    (hopen : attached.station.handle.mode ≠ none) (memory : π) :
    InSession number attached.station
      (probe (Recorded.transport number transport) attached memory).2.1.station := by
  obtain ⟨uses, hcloses, huses⟩ := hspares number transport attached memory
  rw [huses]
  exact Use.inSession_run transport hcloses hopen

/-- The probe, if there is one, ends with the handle still open. -/
theorem probed_of_configures (hspares : SparesHandle probe)
    {opened between : Station (Recorded σ)} (hopen : opened.handle.mode ≠ none) (memory : π)
    {configured : Bool} {configuring : List Call} {left : σ}
    (hconfigures : Configures transport options opened.world.world configured configuring left)
    (hworld : between.world = opened.world.noteAll number configuring left)
    (hmode : between.handle.mode = opened.handle.mode)
    (hparams : configured = true → between.handle =
      { opened.handle with params := options.params.or opened.handle.params }) :
    let ends : Bool × Station (Recorded σ) × π :=
      if configured then
        let (verdict, attached, memory) := probe (Recorded.transport number transport)
          { device := { config := options.config }, station := between } memory
        (verdict, attached.station, memory)
      else (false, between, memory)
    ends.2.1.handle.mode ≠ none ∧ ∃ calls left,
      Probed transport options probe number opened memory calls ends.1 left ends.2.2 ∧
      ends.2.1.world = opened.world.noteAll number calls left := by
  rw [← hmode] at hopen
  cases configured with
  | false => exact ⟨hopen, configuring, left, .skipped hconfigures, hworld⟩
  | true =>
      let asked : Attached (Recorded σ) :=
        { device := { config := options.config }, station := between }
      have hsession : InSession number asked.station
          (probe (Recorded.transport number transport) asked memory).2.1.station :=
        hspares.inSession transport hopen memory
      obtain ⟨probing, hinside, hended⟩ := hsession.recorded
      rw [hworld, Recorded.noteAll_noteAll] at hended
      exact ⟨hsession.mode_eq ▸ hopen, configuring ++ probing, _,
        .asked hconfigures (hparams rfl) hworld rfl hinside hended, hended⟩

theorem examined (hspares : SparesHandle probe) {opened : Station (Recorded σ)}
    (hopen : opened.handle.mode ≠ none) (memory : π) :
    Leads (examine options probe (Recorded.transport number transport)) (opened, memory)
      (fun found after => ∃ calls left result world,
        Probed transport options probe number opened memory calls found left after.2 ∧
        transport.closeLink.outcome left = (result, world) ∧
        after.1.world = opened.world.noteAll number (calls ++ [⟨.closeLink, result.isOk⟩]) world)
      (fun _ _ => False) := by
  simp only [examine, leads_bind, leads_within, leads_get, leads_set, leads_attempt]
  apply (configures transport options opened hopen).mono
  · rintro configured between ⟨configuring, left, hconfigures, hworld, hmode, hparams⟩
    have hends := probed_of_configures transport options hspares hopen memory hconfigures hworld
      hmode hparams
    dsimp only at hends
    generalize ite (configured = true) (_ : Bool × Station (Recorded σ) × π) _ = ends at hends ⊢
    obtain ⟨hstill, calls, left, hprobed, hended⟩ := hends
    obtain ⟨result, world, hcloses, hclosed⟩ := Handle.closeLink_of_open transport hstill
    rw [hended] at hcloses
    rw [hended, Recorded.noteAll_noteAll] at hclosed
    refine (leads_iff_world _ _ _).mpr ?_
    split
    · exact ⟨calls, left, result, world, hprobed, hcloses, hclosed⟩
    · exact ⟨calls, left, result, world, hprobed, hcloses, hclosed⟩
  · intro _ _ hfalse
    exact hfalse

/-- One candidate, the number of the transport that is made for it, the calls that
this transport sees, and whether the candidate is reported. -/
structure Visit where
  resource : Resource
  number : Nat
  calls : List Call := []
  found : Bool := false

def Visit.entries (visit : Visit) : List (Nat × Call) :=
  visit.calls.map (visit.number, ·)

/-- How a candidate is visited, from the state before it to the one after it.  The
handle that is made for it, if any, is given up at the end. -/
inductive Visited (backends : List (Backend σ)) (options : ScanOptions)
    (probe : Probe (Recorded σ) π) (before : ScanState (Recorded σ) π) :
    Visit → ScanState (Recorded σ) π → Prop
  | unmade {resource : Resource} {error : LinkError} {world : σ}
      (hmakes : Backend.handleFor backends 0 resource.connection before.world.world =
        .error error world) :
      Visited backends options probe before { resource, number := before.world.created }
        { before with world := { before.world with world } }
  | refused {resource : Resource} {link : Link σ} {error : LinkError} {made world : σ}
      {log : List LogLine}
      (hmakes : Backend.handleFor backends 0 resource.connection before.world.world = .ok link made)
      (hopens : link.transport.openLink .readWrite made = .error error world) :
      Visited backends options probe before
        { resource, number := before.world.created, calls := [⟨.openLink .readWrite, false⟩] }
        { world := (before.world.served [⟨.openLink .readWrite, false⟩] world).giveUp
            before.world.created (link.transport.release world)
          memory := before.memory, log }
  /-- It opens, and is closed again. -/
  | opened {resource : Resource} {link : Link σ} {lines log : List LogLine}
      {station : Station (Recorded σ)} {made opened left world : σ} {calls : List Call}
      {found : Bool} {later : π} {result : Except LinkError Unit}
      (hmakes : Backend.handleFor backends 0 resource.connection before.world.world = .ok link made)
      (hopens : link.transport.openLink .readWrite made = .ok lines opened)
      (hhandle : station.handle =
        { key := 0, connection := resource.connection, mode := some .readWrite })
      (hworld : station.world = before.world.served [⟨.openLink .readWrite, true⟩] opened)
      (hprobed : Probed link.transport options probe before.world.created station before.memory
        calls found left later)
      (hcloses : link.transport.closeLink.outcome left = (result, world)) :
      Visited backends options probe before
        { resource, number := before.world.created, found
          calls := ⟨.openLink .readWrite, true⟩ :: (calls ++ [⟨.closeLink, result.isOk⟩]) }
        { world := (before.world.served
            (⟨.openLink .readWrite, true⟩ :: (calls ++ [⟨.closeLink, result.isOk⟩])) world).giveUp
              before.world.created (link.transport.release world)
          memory := later, log }

/-- All handshakes that come with a scan but one leave the handle open. -/
theorem sparesHandle_run {kind : ProbeKind} (hkind : kind ≠ .close) :
    SparesHandle (kind.run : Probe (Recorded σ) (List ProbeNote)) := by
  intro number transport attached notes
  cases kind with
  | always => exact ⟨[], List.not_mem_nil, rfl⟩
  | never => exact ⟨[], List.not_mem_nil, rfl⟩
  | close => exact absurd rfl hkind
  | registers address count expected =>
      exact ⟨[.perform (.readRegisters address count)], by simp, rfl⟩
  | coil address value => exact ⟨[.perform (.writeCoil address value)], by simp, rfl⟩

variable {backends : List (Backend σ)}

/-- The transport of a new handle is opened. -/
theorem openLink_of_made (made : σ) (before : Recorded σ) (connection : Connection)
    (log : List LogLine) :
    Leads (Handle.openLink (Recorded.transport before.created transport) .readWrite)
      { handle := { key := 0, connection }
        world := { before with world := made, created := before.created + 1 }
        log }
      (fun _ after => ∃ lines world, transport.openLink .readWrite made = .ok lines world ∧
        after.handle = { key := 0, connection, mode := some .readWrite } ∧
        after.world = before.served [⟨.openLink .readWrite, true⟩] world)
      (fun _ after => ∃ error world, transport.openLink .readWrite made = .error error world ∧
        after.world = before.served [⟨.openLink .readWrite, false⟩] world) :=
  Handle.openLink_of_closed transport rfl .readWrite

theorem visited_visit (hspares : SparesHandle probe) (resource : Resource)
    (before : ScanState (Recorded σ) π) :
    ∃ visit : Visit, visit.resource = resource ∧
      visit.found = (Scan.visit (backends.map Recorded.backend) options probe resource before).1 ∧
      Visited backends options probe before visit
        (Scan.visit (backends.map Recorded.backend) options probe resource before).2 := by
  rw [Scan.visit, outcome, Recorded.handleFor_backend]
  cases hmakes : Backend.handleFor backends 0 resource.connection before.world.world with
  | error error world => exact ⟨_, rfl, rfl, .unmade hmakes⟩
  | ok link made =>
      have hhandle : link.handle = { key := 0, connection := resource.connection } :=
        Backend.handle_of_handleFor hmakes
      have hopens :=
        openLink_of_made link.transport made before.world resource.connection before.log
      dsimp only
      rw [hhandle]
      rcases hopened : (Handle.openLink (Recorded.transport before.world.created link.transport)
        .readWrite).outcome _ with ⟨_ | _, station⟩
      · obtain ⟨error, world, hrefused, hworld⟩ := hopens.of_error (congrArg Prod.fst hopened)
        rw [hopened] at hworld
        dsimp only at hworld ⊢
        rw [hworld]
        exact ⟨_, rfl, rfl, .refused hmakes hrefused⟩
      · obtain ⟨lines, opened, hdone, hstation, hworld⟩ := hopens.of_ok (congrArg Prod.fst hopened)
        rw [hopened] at hstation hworld
        dsimp only at hstation hworld ⊢
        have hopen : station.handle.mode ≠ none := by simp [hstation]
        obtain ⟨found, after, hexamines, calls, left, result, world, hprobed, hcloses, hafter⟩ :=
          (examined link.transport options hspares hopen before.memory).exists_ok
        rw [hexamines]
        dsimp only
        rw [hafter, hworld, Recorded.noteAll_served]
        exact ⟨_, rfl, rfl, .opened hmakes hdone hstation hworld hprobed hcloses⟩

/-- A scan from the state before it to the one after it, visit by visit. -/
inductive Tour (backends : List (Backend σ)) (options : ScanOptions)
    (probe : Probe (Recorded σ) π) :
    ScanState (Recorded σ) π → List Visit → ScanState (Recorded σ) π → Prop
  | done (state : ScanState (Recorded σ) π) : Tour backends options probe state [] state
  | next {before between after : ScanState (Recorded σ) π} {visit : Visit} {visits : List Visit}
      (hvisited : Visited backends options probe before visit between)
      (hrest : Tour backends options probe between visits after) :
      Tour backends options probe before (visit :: visits) after

def reported (visits : List Visit) : List Resource :=
  (visits.filter Visit.found).map Visit.resource

theorem tour_visitAll (hspares : SparesHandle probe) (resources : List Resource)
    (before : ScanState (Recorded σ) π) :
    ∃ visits : List Visit, visits.map Visit.resource = resources ∧
      reported visits =
        (visitAll (backends.map Recorded.backend) options probe resources before).1 ∧
      Tour backends options probe before visits
        (visitAll (backends.map Recorded.backend) options probe resources before).2 := by
  induction resources generalizing before with
  | nil => exact ⟨[], rfl, rfl, .done before⟩
  | cons resource rest ih =>
      obtain ⟨visit, hresource, hfound, hvisited⟩ := visited_visit options hspares resource before
      obtain ⟨visits, hresources, hreported, htour⟩ := ih
        (Scan.visit (backends.map Recorded.backend) options probe resource before).2
      refine ⟨visit :: visits, ?_, ?_, .next hvisited htour⟩
      · rw [List.map_cons, hresource, hresources]
      · rw [visitAll]
        dsimp only
        rw [← hfound, ← hreported, reported, List.filter_cons, ← hresource]
        split <;> rfl

/-- What a visit adds to the record are the calls of one new transport. -/
theorem Visited.calls_eq {before after : ScanState (Recorded σ) π} {visit : Visit}
    (hvisited : Visited backends options probe before visit after) :
    after.world.calls = before.world.calls ++ visit.entries := by
  cases hvisited with
  | unmade _ => exact (List.append_nil _).symm
  | refused _ _ => rfl
  | opened _ _ _ _ _ _ => rfl

theorem Tour.calls_eq {before after : ScanState (Recorded σ) π} {visits : List Visit}
    (htour : Tour backends options probe before visits after) :
    after.world.calls = before.world.calls ++ visits.flatMap Visit.entries := by
  induction htour with
  | done state => exact (List.append_nil _).symm
  | next hvisited _ ih =>
      rw [ih, hvisited.calls_eq, List.append_assoc, List.flatMap_cons]

theorem candidates_backend :
    candidates (backends.map Recorded.backend) options =
      Recorded.beside (candidates backends options) := by
  rw [candidates, candidates]
  cases options.connection with
  | some connection => rfl
  | none => exact Recorded.enumerateAll_backend backends

/-- An explicit connection is always a candidate. -/
theorem candidates_fst_eq_error_iff (world : σ) (error : LinkError) :
    ((candidates backends options).outcome world).1 = .error error ↔
      options.connection = none ∧
        ((Backend.enumerateAll backends).outcome world).1 = .error error := by
  rw [candidates]
  cases options.connection with
  | some connection => simp [outcome, pure, EStateM.pure]
  | none => simp

end Scan

/-- A scan fails if and only if there is no explicit connection and the candidates
cannot be listed, and then it has visited none of them.  Otherwise it visits every
candidate in its turn and reports those whose visit says so. -/
theorem scan_visits_candidates (backends : List (Backend σ)) (options : ScanOptions)
    (probe : Probe (Recorded σ) π) (before : ScanState (Recorded σ) π)
    (hspares : Scan.SparesHandle probe) :
    let ends := scan (backends.map Recorded.backend) options probe before
    (∀ error, ends.1 = .error error ↔ options.connection = none ∧
        ((Backend.enumerateAll backends).outcome before.world.world).1 = .error error) ∧
      (∀ error, ends.1 = .error error → ∃ listed,
        ends.2 = { before with world := { before.world with world := listed } }) ∧
      ∀ found, ends.1 = .ok found → ∃ (visits : List Scan.Visit) (listed : σ),
        (Scan.candidates backends options).outcome before.world.world =
            (.ok (visits.map Scan.Visit.resource), listed) ∧
          Scan.Tour backends options probe
            { before with world := { before.world with world := listed } } visits ends.2 ∧
          found = Scan.reported visits ∧
          ends.2.world.calls = before.world.calls ++ visits.flatMap Scan.Visit.entries := by
  simp only [← Scan.candidates_fst_eq_error_iff]
  rw [scan, Scan.candidates_backend, Recorded.outcome_beside]
  rcases (Scan.candidates backends options).outcome before.world.world with
    ⟨error | resources, listed⟩
  · refine ⟨?_, ?_, ?_⟩
    · intro failure
      rfl
    · intro _ _
      exact ⟨listed, rfl⟩
    · rintro found ⟨⟩
  · obtain ⟨visits, hresources, hreported, htour⟩ := Scan.tour_visitAll options hspares resources
      { before with world := { before.world with world := listed } }
    refine ⟨?_, ?_, ?_⟩
    · intro failure
      constructor <;> rintro ⟨⟩
    · rintro failure ⟨⟩
    · rintro found ⟨⟩
      exact ⟨visits, listed, by rw [hresources], htour, hreported.symm, htour.calls_eq⟩

/-- One candidate that nothing serves, one that does not open, one that refuses its
line parameters, and one that is listed twice and fails to close. -/
theorem scan_visits_candidates_jammed :
    let link (path : String) : Transport Scripted.State :=
      if path = "refusing" then
        { Scripted.transport with openLink := fun _ => throw (.transport .scriptedRefusal) }
      else if path = "fixed" then
        { Scripted.transport with setLineParams := fun _ => throw (.inputOutput "fixed") }
      else { Scripted.transport with closeLink := throw (.inputOutput "jammed") }
    let listed (path : String) : Resource :=
      { connection := .serial path, description := path, backend := "bench" }
    let backend : Backend Scripted.State :=
      { name := "bench"
        accepts := fun connection => connection != .serial "absent"
        create := fun connection => pure (link connection.text)
        enumerate := pure (["absent", "refusing", "fixed", "jammed", "jammed"].map listed) }
    let options : ScanOptions := { params := some {} }
    let probe : Probe (Recorded Scripted.State) (List ProbeNote) := ProbeKind.always.run
    let ends := scan ([backend].map Recorded.backend) options probe
      { world := { world := {} }, memory := [] }
    Scan.SparesHandle probe ∧ ends.1 = .ok [listed "jammed", listed "jammed"] ∧
      ends.2.memory.length = 2 ∧
      ends.2.world.calls =
        [(0, ⟨.openLink .readWrite, false⟩),
          (1, ⟨.openLink .readWrite, true⟩), (1, ⟨.setLineParams {}, false⟩),
          (1, ⟨.closeLink, true⟩),
          (2, ⟨.openLink .readWrite, true⟩), (2, ⟨.setLineParams {}, true⟩),
          (2, ⟨.closeLink, false⟩),
          (3, ⟨.openLink .readWrite, true⟩), (3, ⟨.setLineParams {}, true⟩),
          (3, ⟨.closeLink, false⟩)] ∧
      ∃ visits : List Scan.Visit,
        Scan.Tour [backend] options probe { world := { world := {} }, memory := [] } visits ends.2 ∧
        [listed "jammed", listed "jammed"] = Scan.reported visits ∧
        ends.2.world.calls = visits.flatMap Scan.Visit.entries := by
  intro link listed backend options probe ends
  have hspares : Scan.SparesHandle probe := Scan.sparesHandle_run (by decide)
  have hfound : ends.1 = .ok [listed "jammed", listed "jammed"] := by decide
  obtain ⟨visits, world, hlisted, htour, hreported, hcalls⟩ :=
    (scan_visits_candidates [backend] options probe _ hspares).2.2 _ hfound
  obtain rfl : world = {} := (congrArg Prod.snd hlisted).symm
  exact ⟨hspares, hfound, by decide, by decide, visits, htour, hreported, hcalls⟩

end InstrumentLink
