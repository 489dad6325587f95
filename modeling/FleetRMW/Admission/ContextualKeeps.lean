import FleetRMW.Admission.Contextual
import FleetRMW.Admission.LagrangianBudget

/-! # What contextual admission keeps

The controller that is chosen for a link decides about each flow once and stays within the bytes of
the tick, and so does the one that chooses it: whatever has been learned, there is an envelope to
choose, a controller that belongs to it and a state to learn in.
-/

namespace FleetRMW.Admission

open Lib FloatOps

section
variable {F : Type} [FloatOps F]

variable {candidates : List (Candidate F)} {link : NetworkLink F}
  {decisions : List (FlowDecision F)}

/-! ## Texts in front of decisions -/

/-- What only the reasons say does not matter. -/
theorem Settles.map_reason (settles : Settles candidates decisions) (reason : Str → Str) :
    Settles candidates
      (decisions.map fun decision => { decision with reason := reason decision.reason }) where
  ids := by
    rw [List.map_map]
    exact settles.ids
  stale := by
    intro x among old decision decided names
    obtain ⟨before, inside, rfl⟩ := List.mem_map.mp decided
    obtain ⟨unsent, nothing⟩ := settles.stale x among old before inside names
    exact ⟨unsent, nothing⟩

theorem allocatedTotal_map_reason (reason : Str → Str) :
    allocatedTotal (decisions.map fun decision =>
      { decision with reason := reason decision.reason }) = allocatedTotal decisions := by
  unfold allocatedTotal Greedy.total
  rw [List.map_map]
  rfl

theorem classifyLinkProfile_ok (valid : link.validates = .ok ()) :
    ∃ profile, classifyLinkProfile link = .ok profile := by
  unfold classifyLinkProfile
  rw [valid, ok_bind]
  dsimp only
  split
  · exact ⟨_, rfl⟩
  split
  · exact ⟨_, rfl⟩
  split
  · exact ⟨_, rfl⟩
  · exact ⟨_, rfl⟩

theorem lookup_eq {K V : Type} [DecidableEq K] {d : Dict K V} {key : K} {v : V}
    (there : d.get? key = some v) : lookup d key = .ok v := by
  unfold lookup
  rw [there]

theorem minBy_isSome {α : Type} (key : α → List (KeyPart F)) {items : List α} (some_ : items ≠ []) :
    ∃ x ∈ items, minBy key items = some x := by
  cases items with
  | nil => exact absurd rfl some_
  | cons y ys => exact ⟨_, mem_of_minBy rfl, rfl⟩

theorem maxBy_isSome {α : Type} (key : α → List (KeyPart F)) {items : List α} (some_ : items ≠ []) :
    ∃ x ∈ items, maxBy key items = some x := by
  cases items with
  | nil => exact absurd rfl some_
  | cons y ys => exact ⟨_, mem_of_maxBy rfl, rfl⟩

namespace ContextualProfiledLagrangianAdmissionController

variable {c c' : ContextualProfiledLagrangianAdmissionController F} {profile : ProfileLabel}
  {envelopes : List (ProfileEnvelope F)} {envelope : ProfileEnvelope F}

/-! ## What belongs to a profile -/

/-- Every envelope of the profile has what it needs. -/
structure Serves (c : ContextualProfiledLagrangianAdmissionController F) (profile : ProfileLabel)
    (envelopes : List (ProfileEnvelope F)) : Prop where
  listed : c.envelopes.get? profile = some envelopes
  some_ : envelopes ≠ []
  controllers : ∃ controllers, c.controllers.get? profile = some controllers ∧
    ∀ envelope ∈ envelopes, (controllers.get? envelope.label).isSome
  states : ∃ states, c.states.get? profile = some states ∧
    ∀ envelope ∈ envelopes, (states.get? envelope.label).isSome
  pulls : (c.profilePulls.get? profile).isSome

/-- Every profile has envelopes. -/
def Complete (c : ContextualProfiledLagrangianAdmissionController F) : Prop :=
  ∀ profile, ∃ envelopes, c.Serves profile envelopes

theorem isSome_get?_set {V : Type} {d : Dict Str V} {k k' : Str} (v : V)
    (before : (d.get? k').isSome) : ((d.set k v).get? k').isSome := by
  by_cases same : k' = k
  case pos =>
    rw [same, Dict.get?_set_self]
    rfl
  case neg =>
    rw [Dict.get?_set_of_ne same]
    exact before

theorem isSome_byLabel {V : Type} (value : ProfileEnvelope F → V) (among : envelope ∈ envelopes) :
    ((byLabel value envelopes).get? envelope.label).isSome := by
  have general : ∀ (rest : List (ProfileEnvelope F)) (d : Dict Str V),
      ((d.get? envelope.label).isSome ∨ envelope ∈ rest) →
      ((rest.foldl (fun d envelope => d.set envelope.label (value envelope)) d).get?
        envelope.label).isSome := by
    intro rest
    induction rest with
    | nil =>
        intro d known
        exact known.resolve_right List.not_mem_nil
    | cons first rest ih =>
        intro d known
        apply ih
        cases known with
        | inl before => exact .inl (isSome_get?_set _ before)
        | inr listed =>
            cases List.mem_cons.mp listed with
            | inl same =>
                rw [same, Dict.get?_set_self]
                exact .inl rfl
            | inr later => exact .inr later
  exact general envelopes [] (.inr among)

theorem get?_map_values {V W : Type} (f : V → W) (d : Dict ProfileLabel V) (k : ProfileLabel) :
    Dict.get? (d.map fun e => (e.1, f e.2)) k = (d.get? k).map f := by
  induction d with
  | nil => rfl
  | cons e d ih =>
      rw [List.map_cons, Dict.get?_cons, Dict.get?_cons, ih]
      split
      · rfl
      · rfl

/-- A controller is complete as it is made, where the envelopes are. -/
theorem init_complete {all : Dict ProfileLabel (List (ProfileEnvelope F))}
    (some_ : ∀ profile, ∃ envelopes, all.get? profile = some envelopes ∧ envelopes ≠ []) :
    (init all).Complete := by
  intro profile
  obtain ⟨envelopes, there, nonempty⟩ := some_ profile
  refine ⟨envelopes, there, nonempty, ?_, ?_, ?_⟩
  · refine ⟨byLabel (fun envelope => .init envelope.config .standard) envelopes, ?_,
      fun envelope among => isSome_byLabel _ among⟩
    exact (get?_map_values _ all profile).trans (by rw [there]; rfl)
  · refine ⟨byLabel (fun _ => .start) envelopes, ?_, fun envelope among => isSome_byLabel _ among⟩
    exact (get?_map_values _ all profile).trans (by rw [there]; rfl)
  · have pulls := get?_map_values (fun _ => (0 : Int)) all profile
    unfold init
    dsimp only
    rw [pulls, there]
    rfl

/-! ## Choosing an envelope -/

theorem previewEnvelopes_ok (valid : Valid candidates link) (envelopes : List (ProfileEnvelope F)) :
    ∃ evaluations, envelopes.mapM (previewEnvelope candidates link) = .ok evaluations ∧
      evaluations.map EnvelopeEvaluation.envelope = envelopes := by
  have each : ∀ envelope ∈ envelopes, ∃ evaluation,
      previewEnvelope candidates link envelope = .ok evaluation ∧
        evaluation.envelope = envelope := by
    intro envelope _
    obtain ⟨decisions, preview, returned, -⟩ :=
      (LagrangianRiskPredictiveAdmissionController.init envelope.config .standard).schedule_within
        valid
    unfold previewEnvelope
    dsimp only
    rw [returned]
    exact ⟨_, rfl, rfl⟩
  obtain ⟨evaluations, previewed, related⟩ := mapM_related each
  refine ⟨evaluations, previewed, ?_⟩
  clear previewed each
  induction related with
  | nil => rfl
  | cons same _ ih => rw [List.map_cons, same, ih]

theorem rank_ok (pulls : Int) {states : Dict Str (EnvelopeState F)} {item : EnvelopeEvaluation F}
    (there : (states.get? item.envelope.label).isSome) :
    ∃ key, c.rank pulls states item = .ok key := by
  obtain ⟨state, found⟩ := Option.isSome_iff_exists.mp there
  unfold rank
  rw [lookup_eq found]
  exact ⟨_, rfl⟩

theorem selectEnvelope_ok (serves : c.Serves profile envelopes)
    {evaluations : List (EnvelopeEvaluation F)}
    (previewed : evaluations.map EnvelopeEvaluation.envelope = envelopes) :
    ∃ item, c.selectEnvelope profile evaluations = .ok item ∧ item.envelope ∈ envelopes := by
  have known {item : EnvelopeEvaluation F} (among : item ∈ evaluations) :
      item.envelope ∈ envelopes := by
    rw [← previewed]
    exact List.mem_map_of_mem among
  unfold selectEnvelope
  dsimp only
  split
  case isTrue =>
    have some_ : evaluations ≠ [] := by
      rintro rfl
      exact serves.some_ previewed.symm
    obtain ⟨item, among, least⟩ := minBy_isSome (fun item : EnvelopeEvaluation F =>
      [KeyPart.float item.deadlineRisk, .float item.criticalNonDelivery,
        .float (-item.utilityPerFlow)]) some_
    rw [least]
    exact ⟨item, rfl, known among⟩
  case isFalse some_ =>
    obtain ⟨pulls, counted⟩ := Option.isSome_iff_exists.mp serves.pulls
    obtain ⟨states, found, complete⟩ := serves.states
    rw [lookup_eq counted, lookup_eq found, ok_bind, ok_bind]
    have each : ∀ item ∈ evaluations.filter EnvelopeEvaluation.feasible, ∃ ranked,
        (do return (item, ← c.rank (pulls + 1) states item)) = Except.ok ranked ∧
          ranked.1 = item := by
      intro item among
      obtain ⟨key, returned⟩ := c.rank_ok (pulls + 1)
        (complete _ (known (List.mem_of_mem_filter among)))
      rw [returned]
      exact ⟨_, rfl, rfl⟩
    obtain ⟨ranked, listed, related⟩ := mapM_related each
    rw [listed, ok_bind]
    have nonempty : ranked ≠ [] := by
      rintro rfl
      exact some_ (List.isEmpty_iff.mpr (List.forall₂_nil_right_iff.mp related))
    obtain ⟨⟨item, key⟩, among, greatest⟩ := maxBy_isSome Prod.snd nonempty
    rw [greatest]
    obtain ⟨before, inside, same⟩ := mem_of_related related among
    exact ⟨item, rfl, known (List.mem_of_mem_filter (same ▸ inside))⟩

/-! ## Learning -/

/-- Every profile still has what it had for its labels. -/
def Extends {V : Type} (d d' : Dict ProfileLabel (Dict Str V)) : Prop :=
  ∀ profile labels, d.get? profile = some labels → ∃ labels', d'.get? profile = some labels' ∧
    ∀ label, (labels.get? label).isSome → (labels'.get? label).isSome

theorem Extends.refl {V : Type} (d : Dict ProfileLabel (Dict Str V)) : Extends d d :=
  fun _ labels there => ⟨labels, there, fun _ => id⟩

theorem Extends.set {V : Type} {d : Dict ProfileLabel (Dict Str V)} {labels : Dict Str V}
    (there : d.get? profile = some labels) (label : Str) (v : V) :
    Extends d (d.set profile (labels.set label v)) := by
  intro other before listed
  by_cases same : other = profile
  case pos =>
    subst same
    obtain rfl : labels = before := Option.some.inj (there.symm.trans listed)
    exact ⟨_, Dict.get?_set_self, fun k isSome => isSome_get?_set v isSome⟩
  case neg =>
    refine ⟨before, ?_, fun _ => id⟩
    rw [Dict.get?_set_of_ne same]
    exact listed

theorem Serves.mono (serves : c.Serves profile envelopes) (same : c'.envelopes = c.envelopes)
    (controllers : Extends c.controllers c'.controllers) (states : Extends c.states c'.states)
    (pulls : (c'.profilePulls.get? profile).isSome) : c'.Serves profile envelopes where
  listed := by
    rw [same]
    exact serves.listed
  some_ := serves.some_
  controllers := by
    obtain ⟨labels, there, complete⟩ := serves.controllers
    obtain ⟨labels', there', more⟩ := controllers profile labels there
    exact ⟨labels', there', fun envelope among => more _ (complete envelope among)⟩
  states := by
    obtain ⟨labels, there, complete⟩ := serves.states
    obtain ⟨labels', there', more⟩ := states profile labels there
    exact ⟨labels', there', fun envelope among => more _ (complete envelope among)⟩
  pulls := pulls

theorem updateState_ok (evaluation : EnvelopeEvaluation F) (complete : c.Complete) (serves : c.Serves profile envelopes)
    (among : evaluation.envelope ∈ envelopes) :
    ∃ c', c.updateState profile evaluation = .ok c' ∧ c'.Complete := by
  obtain ⟨states, there, learning⟩ := serves.states
  obtain ⟨state, found⟩ := Option.isSome_iff_exists.mp (learning _ among)
  obtain ⟨pulls, counted⟩ := Option.isSome_iff_exists.mp serves.pulls
  unfold updateState
  rw [lookup_eq there, ok_bind, lookup_eq found, ok_bind, lookup_eq counted, ok_bind]
  refine ⟨_, rfl, ?_⟩
  intro other
  obtain ⟨envelopes', serves'⟩ := complete other
  refine ⟨envelopes', serves'.mono rfl (.refl _) (.set there _ _) ?_⟩
  by_cases same : other = profile
  case pos =>
    subst same
    exact Option.isSome_iff_exists.mpr ⟨_, Dict.get?_set_self⟩
  case neg =>
    have kept := Dict.get?_set_of_ne (d := c.profilePulls) (v := pulls + 1) same
    rw [kept]
    exact serves'.pulls

/-! ## The schedule -/

/-- What a call keeps: there is always something to choose, each flow is decided about once, and
    what is allocated fits in the bytes of the tick. -/
theorem schedule_keeps_complete (complete : c.Complete) (valid : Valid candidates link) :
    ∃ decisions c', c.schedule candidates link = .ok (decisions, c') ∧ c'.Complete ∧
      Settles candidates decisions ∧ allocatedTotal decisions ≤ link.capacityBytesPerTick ∧
      ∀ decision ∈ decisions, decision.action ∈ sampleActions ∨ decision.Holds := by
  unfold schedule
  rw [valid.link, ok_bind]
  cases candidates with
  | nil =>
      refine ⟨[], c, rfl, complete, ⟨.refl _, fun _ among => absurd among List.not_mem_nil⟩,
        valid.capacity, fun _ among => absurd among List.not_mem_nil⟩
  | cons x rest =>
      rw [if_neg (show ¬(x :: rest).isEmpty from Bool.false_ne_true)]
      obtain ⟨profile, classified⟩ := classifyLinkProfile_ok valid.link
      obtain ⟨envelopes, serves⟩ := complete profile
      obtain ⟨evaluations, previewed, listed⟩ := previewEnvelopes_ok valid envelopes
      obtain ⟨selected, chosen, among⟩ := selectEnvelope_ok serves listed
      obtain ⟨controllers, there, answering⟩ := serves.controllers
      obtain ⟨controller, found⟩ := Option.isSome_iff_exists.mp (answering _ among)
      obtain ⟨decisions, controller', returned, settles, within, decided⟩ :=
        controller.schedule_within valid
      rw [classified, ok_bind, lookup_eq serves.listed, ok_bind, previewed, ok_bind, chosen, ok_bind,
        lookup_eq there, ok_bind, lookup_eq found, ok_bind, returned, ok_bind]
      dsimp only
      let chosenBy : ContextualProfiledLagrangianAdmissionController F :=
        { c with
          controllers :=
            c.controllers.set profile (controllers.set selected.envelope.label controller') }
      have extended : Extends c.controllers chosenBy.controllers := .set there _ _
      have complete' : chosenBy.Complete := by
        intro other
        obtain ⟨envelopes', serves'⟩ := complete other
        exact ⟨envelopes', serves'.mono rfl extended (.refl _) serves'.pulls⟩
      obtain ⟨c', updated, complete'⟩ := updateState_ok
        (evaluateDecisions selected.envelope controller' (x :: rest) link decisions)
        complete' (serves.mono rfl extended (.refl _) serves.pulls) among
      rw [updated, ok_bind]
      refine ⟨_, c', rfl, complete', settles.map_reason _, ?_, ?_⟩
      · rw [allocatedTotal_map_reason]
        exact within
      · intro decision inside
        obtain ⟨before, listed, rfl⟩ := List.mem_map.mp inside
        cases decided before listed with
        | inl sent => exact .inl sent
        | inr holds => exact .inr ⟨holds.unsent, holds.nothing⟩

end ContextualProfiledLagrangianAdmissionController

end

end FleetRMW.Admission
