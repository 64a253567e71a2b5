import InstrumentLink.Bench.Backends
import InstrumentLink.Proofs.Blame
import InstrumentLink.Proofs.Outcome

/-!
# Queries to a set of backends

A query about resources goes to the backends of a set one after the other, and each of them
answers with resources, as one that does not support the query, or with another failure.
What comes of the query is told by these answers: the resources of all of them in order, or
the first failure that is not a lack of support.  A backend without support might as well
not be there.
-/

namespace InstrumentLink

def LinkError.Unsupported (error : LinkError) : Prop :=
  ∃ operation backend, error = .unsupported operation backend

namespace Backend

open LinkM

variable {σ : Type}

/-- What backends answer one after the other, each one in the world that those before it
leave. -/
def answers (query : Backend σ → LinkM σ (List Resource)) :
    List (Backend σ) → σ → List (Except LinkError (List Resource))
  | [], _ => []
  | backend :: rest, world =>
      ((query backend).outcome world).1 ::
        answers query rest ((query backend).outcome world).2

/-- The backend does not support the query, and does nothing else either. -/
def Lacks (query : Backend σ → LinkM σ (List Resource)) (backend : Backend σ) : Prop :=
  ∀ world, ∃ error, error.Unsupported ∧ query backend world = .error error world

def listed (answer : Except LinkError (List Resource)) : List Resource :=
  answer.toOption.getD []

/-- How a query to a set is made up of the queries to its backends. -/
structure Merges (query : Backend σ → LinkM σ (List Resource))
    (merged : List (Backend σ) → LinkM σ (List Resource)) : Prop where
  /-- All resources are returned exactly if support is all that any backend lacks. -/
  joined (backends : List (Backend σ)) (world : σ) :
    ((merged backends).outcome world).1 = .ok ((answers query backends world).flatMap listed) ↔
      ∀ answer ∈ answers query backends world, Blames LinkError.Unsupported answer
  /-- A failure is returned exactly if it is the first that is not a lack of support. -/
  failed (backends : List (Backend σ)) (world : σ) (error : LinkError) :
    ((merged backends).outcome world).1 = .error error ↔
      ∃ before after, answers query backends world = before ++ .error error :: after ∧
        ¬error.Unsupported ∧ ∀ answer ∈ before, Blames LinkError.Unsupported answer
  /-- Backends that do not support the query can be anywhere, or nowhere. -/
  spared (before lacking after : List (Backend σ)) :
    (∀ backend ∈ lacking, Lacks query backend) →
      merged (before ++ lacking ++ after) = merged (before ++ after)

/-! ### What is merged from answers -/

def fatal? : Except LinkError (List Resource) → Option LinkError
  | .ok _ | .error (.unsupported _ _) => none
  | .error error => some error

variable {answer : Except LinkError (List Resource)} {error : LinkError}

theorem fatal?_of_unsupported (h : error.Unsupported) : fatal? (.error error) = none := by
  obtain ⟨operation, backend, rfl⟩ := h
  rfl

theorem fatal?_of_not_unsupported (h : ¬error.Unsupported) :
    fatal? (.error error) = some error := by
  unfold fatal?
  split
  · next hok => cases hok
  · next hunsupported =>
      cases hunsupported
      exact absurd ⟨_, _, rfl⟩ h
  · next herror =>
      cases herror
      rfl

theorem fatal?_eq_none_iff : fatal? answer = none ↔ Blames LinkError.Unsupported answer := by
  cases answer with
  | ok resources => exact iff_of_true rfl (blames_ok resources)
  | error error =>
      rw [blames_error]
      by_cases h : error.Unsupported
      · exact iff_of_true (fatal?_of_unsupported h) h
      · rw [fatal?_of_not_unsupported h]
        exact iff_of_false (Option.some_ne_none error) h

theorem fatal?_eq_some_iff :
    fatal? answer = some error ↔ answer = .error error ∧ ¬error.Unsupported := by
  constructor
  · intro hfatal
    cases answer with
    | ok resources => cases hfatal
    | error failure =>
        have hunsupported : ¬failure.Unsupported := by
          intro h
          rw [fatal?_of_unsupported h] at hfatal
          cases hfatal
        rw [fatal?_of_not_unsupported hunsupported] at hfatal
        cases hfatal
        exact ⟨rfl, hunsupported⟩
  · rintro ⟨rfl, hunsupported⟩
    exact fatal?_of_not_unsupported hunsupported

/-- What is merged from answers. -/
def merge (answers : List (Except LinkError (List Resource))) : Except LinkError (List Resource) :=
  match answers.findSome? fatal? with
  | some error => .error error
  | none => .ok (answers.flatMap listed)

theorem merge_cons_ok (resources : List Resource)
    (rest : List (Except LinkError (List Resource))) :
    merge (.ok resources :: rest) = (merge rest).map (resources ++ ·) := by
  rw [merge, merge, List.findSome?_cons_of_isNone]
  · cases rest.findSome? fatal? <;> rfl
  · rfl

theorem merge_cons_unsupported (h : error.Unsupported)
    (rest : List (Except LinkError (List Resource))) : merge (.error error :: rest) = merge rest := by
  rw [merge, merge, List.findSome?_cons, fatal?_of_unsupported h]
  rfl

theorem merge_cons_fatal (h : ¬error.Unsupported)
    (rest : List (Except LinkError (List Resource))) :
    merge (.error error :: rest) = .error error := by
  rw [merge, List.findSome?_cons, fatal?_of_not_unsupported h]

/-- Everything is merged exactly if lack of support is the only failure. -/
theorem merge_eq_ok_iff {answers : List (Except LinkError (List Resource))} :
    merge answers = .ok (answers.flatMap listed) ↔
      ∀ answer ∈ answers, Blames LinkError.Unsupported answer := by
  have hnone : (∀ answer ∈ answers, Blames LinkError.Unsupported answer) ↔
      answers.findSome? fatal? = none := by
    simp only [List.findSome?_eq_none_iff, fatal?_eq_none_iff]
  rw [hnone, merge]
  cases answers.findSome? fatal? with
  | none => exact iff_of_true rfl rfl
  | some error => exact iff_of_false nofun (Option.some_ne_none error)

/-- The first fatal answer is the one that is returned. -/
theorem merge_eq_error_iff {answers : List (Except LinkError (List Resource))} :
    merge answers = .error error ↔
      ∃ before after, answers = before ++ .error error :: after ∧ ¬error.Unsupported ∧
        ∀ answer ∈ before, Blames LinkError.Unsupported answer := by
  have hfirst : merge answers = .error error ↔ answers.findSome? fatal? = some error := by
    rw [merge]
    cases answers.findSome? fatal? with
    | none => exact iff_of_false nofun nofun
    | some other =>
        constructor
        · rintro ⟨⟩
          rfl
        · rintro ⟨⟩
          rfl
  rw [hfirst, List.findSome?_eq_some_iff]
  simp only [fatal?_eq_none_iff, fatal?_eq_some_iff]
  constructor
  · rintro ⟨before, _, after, rfl, ⟨rfl, hunsupported⟩, hbefore⟩
    exact ⟨before, after, rfl, hunsupported, hbefore⟩
  · rintro ⟨before, after, rfl, hunsupported, hbefore⟩
    exact ⟨before, _, after, rfl, ⟨rfl, hunsupported⟩, hbefore⟩

/-! ### One backend after the other -/

variable {query : Backend σ → LinkM σ (List Resource)} {backend : Backend σ}
variable {rest : List (Backend σ)} {world after : σ}

theorem outcome_collect_cons (query : Backend σ → LinkM σ (List Resource)) (backend : Backend σ)
    (rest : List (Backend σ)) (world : σ) :
    (collect query (backend :: rest)).outcome world =
      match (query backend).outcome world with
      | (.ok resources, after) => ((do
          let more ← collect query rest
          return resources ++ more) : LinkM σ (List Resource)).outcome after
      | (.error (.unsupported _ _), after) => (collect query rest).outcome after
      | (.error error, after) => (.error error, after) := by
  rw [collect, outcome_bind, outcome_attempt]
  rcases (query backend).outcome world with ⟨error | resources, after⟩
  · cases error <;> rfl
  · rfl

theorem collect_cons_ok {resources : List Resource}
    (hanswer : (query backend).outcome world = (.ok resources, after)) :
    (collect query (backend :: rest)).outcome world =
      (((collect query rest).outcome after).1.map (resources ++ ·),
        ((collect query rest).outcome after).2) := by
  rw [outcome_collect_cons, hanswer]
  dsimp only
  rw [outcome_bind]
  rcases (collect query rest).outcome after with ⟨error | more, last⟩ <;> rfl

theorem collect_cons_unsupported (h : error.Unsupported)
    (hanswer : (query backend).outcome world = (.error error, after)) :
    (collect query (backend :: rest)).outcome world = (collect query rest).outcome after := by
  obtain ⟨operation, name, rfl⟩ := h
  rw [outcome_collect_cons, hanswer]

theorem collect_cons_fatal (h : ¬error.Unsupported)
    (hanswer : (query backend).outcome world = (.error error, after)) :
    (collect query (backend :: rest)).outcome world = (.error error, after) := by
  rw [outcome_collect_cons, hanswer]
  cases error with
  | unsupported operation name => exact absurd ⟨operation, name, rfl⟩ h
  | _ => rfl

/-- The loop over the backends comes to the merge of their answers. -/
theorem result_collect (query : Backend σ → LinkM σ (List Resource))
    (backends : List (Backend σ)) (world : σ) :
    ((collect query backends).outcome world).1 = merge (answers query backends world) := by
  induction backends generalizing world with
  | nil => rfl
  | cons backend rest ih =>
      rw [answers]
      rcases hanswer : (query backend).outcome world with ⟨error | resources, after⟩
      · by_cases h : error.Unsupported
        · rw [collect_cons_unsupported h hanswer, merge_cons_unsupported h, ih]
        · rw [collect_cons_fatal h hanswer, merge_cons_fatal h]
      · rw [collect_cons_ok hanswer, merge_cons_ok, ih]

theorem collect_cons_lacking (hlacks : Lacks query backend) (rest : List (Backend σ)) :
    collect query (backend :: rest) = collect query rest := by
  funext world
  obtain ⟨_, ⟨operation, name, rfl⟩, hanswer⟩ := hlacks world
  simp only [collect, bind, EStateM.bind, attempt, hanswer]

/-- Backends that lack the query leave no trace in it. -/
theorem collect_spares (before after : List (Backend σ)) {lacking : List (Backend σ)}
    (hlacking : ∀ backend ∈ lacking, Lacks query backend) :
    collect query (before ++ lacking ++ after) = collect query (before ++ after) := by
  induction before with
  | nil =>
      induction lacking with
      | nil => rfl
      | cons backend lacking ih =>
          rw [List.forall_mem_cons] at hlacking
          exact (collect_cons_lacking hlacking.1 _).trans (ih hlacking.2)
  | cons backend before ih =>
      simp only [List.cons_append, collect, ih]

theorem merges_collect (query : Backend σ → LinkM σ (List Resource)) :
    Merges query (collect query) where
  joined backends world := by
    rw [result_collect]
    exact merge_eq_ok_iff
  failed backends world error := by
    rw [result_collect]
    exact merge_eq_error_iff
  spared before _ after hlacking := collect_spares before after hlacking

/-! ### Scripted backends -/

/-- A scripted backend meets no fault. -/
theorem meetOnly_of_none {point : FaultPoint} {rig : Rig}
    (hnone : Faulty.next? point rig.faults = none) : Rig.meetOnly point rig = .ok () rig := by
  have hget : (get : LinkM Rig Rig) rig = .ok rig rig := rfl
  simp only [Rig.meetOnly, Faulty.meet, bind, EStateM.bind, hget, hnone]
  rfl

/-- The induction is on the backends; each of them leaves the bench as it is. -/
theorem collect_scripted {query : Backend Rig → LinkM Rig (List Resource)}
    {select : List Resource → List Resource} {rig : Rig}
    (hanswers : ∀ resources, query (Rig.scriptedBackend resources) rig = .ok (select resources) rig)
    (lists : List (List Resource)) :
    collect query (lists.map Rig.scriptedBackend) rig = .ok (lists.flatMap select) rig := by
  induction lists with
  | nil => rfl
  | cons resources lists ih =>
      simp only [List.map_cons, collect, bind, EStateM.bind, attempt, hanswers, ih]
      rfl

theorem enumerateAll_scripted {rig : Rig} (hnone : Faulty.next? .enumerate rig.faults = none)
    (lists : List (List Resource)) :
    enumerateAll (lists.map Rig.scriptedBackend) rig = .ok lists.flatten rig := by
  have hanswers : ∀ resources, (Rig.scriptedBackend resources).enumerate rig =
      .ok (id resources) rig := by
    intro resources
    simp only [Rig.scriptedBackend, bind, EStateM.bind, meetOnly_of_none hnone]
    rfl
  rw [← List.flatMap_id]
  exact collect_scripted hanswers lists

theorem findAll_scripted {rig : Rig} (hnone : Faulty.next? .findByIdentity rig.faults = none)
    (lists : List (List Resource)) (vendor product : UInt16) :
    findAll (lists.map Rig.scriptedBackend) vendor product rig =
      .ok (lists.flatten.filter fun resource => resource.identity == some (vendor, product)) rig := by
  rw [findAll, collect_scripted, List.filter_flatten, List.flatMap_def]
  intro resources
  simp only [Rig.scriptedBackend, bind, EStateM.bind, meetOnly_of_none hnone]
  rfl

/-- Both queries to a set of backends join what the backends answer: they return all resources,
in the order of the backends, exactly if no backend fails but for a lack of support, and
otherwise the first failure that is none, whatever is answered behind it; and backends
that do not support the query make no difference.  Of scripted backends, which fail only
where they are made to, the resources that are found by an identity are those that are
listed and have it. -/
theorem queries_join_answers :
    Merges (σ := σ) Backend.enumerate enumerateAll ∧
      (∀ vendor product : UInt16,
        Merges (σ := σ) (fun backend => backend.findByIdentity vendor product)
          fun backends => findAll backends vendor product) ∧
      ∀ (lists : List (List Resource)) (rig : Rig) (vendor product : UInt16),
        Faulty.next? .enumerate rig.faults = none →
          Faulty.next? .findByIdentity rig.faults = none →
            enumerateAll (lists.map Rig.scriptedBackend) rig = .ok lists.flatten rig ∧
              findAll (lists.map Rig.scriptedBackend) vendor product rig =
                .ok (lists.flatten.filter fun resource =>
                  resource.identity == some (vendor, product)) rig :=
  ⟨merges_collect _, fun _ _ => merges_collect _, fun lists _ vendor product hlists hfinds =>
    ⟨enumerateAll_scripted hlists lists, findAll_scripted hfinds lists vendor product⟩⟩

/-- Backends without support between two that list a resource twice, one that breaks before
another one does, and a search among scripted backends. -/
theorem queries_join_answers_mixed :
    let port : Resource :=
      { connection := .serial "/dev/ttyMOCK2", description := "mock port"
        backend := Scripted.backendName, identity := some (0x0403, 0x6001) }
    let plain : Resource := { port with identity := none }
    let broken (reason : String) : Backend Rig :=
      { name := reason, accepts := fun _ => true
        create := fun _ => throw (.inputOutput reason), enumerate := throw (.inputOutput reason) }
    let lacking : List (Backend Rig) := [Rig.networkBackend false, Rig.inertBackend "vxi" "vxi/"]
    let rig : Rig := { world := {} }
    (∀ backend ∈ lacking, Lacks Backend.enumerate backend) ∧
      enumerateAll ([Rig.scriptedBackend [port, port]] ++ lacking ++ [broken "bus"]) =
        enumerateAll [Rig.scriptedBackend [port, port], broken "bus"] ∧
      ((enumerateAll [Rig.scriptedBackend [port], Rig.networkBackend false, broken "bus",
        broken "hub", Rig.scriptedBackend [plain]]).outcome rig).1 = .error (.inputOutput "bus") ∧
      Faulty.next? .enumerate rig.faults = none ∧ Faulty.next? .findByIdentity rig.faults = none ∧
      findAll ([[port, plain], [], [port]].map Rig.scriptedBackend) 0x0403 0x6001 rig =
        .ok [port, port] rig := by
  intro port plain broken lacking rig
  obtain ⟨hlists, _, hscripted⟩ := queries_join_answers (σ := Rig)
  have hlacking : ∀ backend ∈ lacking, Lacks Backend.enumerate backend := by
    intro backend hbackend world
    simp only [lacking, List.mem_cons, List.not_mem_nil, or_false] at hbackend
    rcases hbackend with rfl | rfl
    · exact ⟨_, ⟨_, _, rfl⟩, rfl⟩
    · exact ⟨_, ⟨_, _, rfl⟩, rfl⟩
  have hpassed : ∀ answer ∈ [Except.ok [port], .error (.unsupported "enumerate" Connection.tcpName)],
      Blames LinkError.Unsupported answer := by
    simp [LinkError.Unsupported]
  refine ⟨hlacking, hlists.spared _ lacking _ hlacking, ?_, rfl, rfl, ?_⟩
  · exact (hlists.failed _ rig _).mpr ⟨_, _, rfl, nofun, hpassed⟩
  · exact (hscripted [[port, plain], [], [port]] rig 0x0403 0x6001 rfl rfl).2

end Backend

end InstrumentLink
