import FleetRMW.Admission.StaleSamples

/-! # Learning over runs

The contextual controller tries its envelopes as a bandit tries its arms. Over every run of calls
the pulls of the envelopes of a profile are the calls that were made for it, whatever was chosen and
whatever came of it, and no call fails for what was learned before. The wrapper that sends intents
learns what its controller learns.
-/

namespace FleetRMW.Admission

open Lib FloatOps

section
variable {F : Type} [FloatOps F]

variable {candidates : List (Candidate F)} {link : NetworkLink F}
  {decisions : List (FlowDecision F)} {profile : ProfileLabel}

theorem lookup_eq_ok {K V : Type} [DecidableEq K] {d : Dict K V} {key : K} {v : V}
    (found : lookup d key = .ok v) : d.get? key = some v := by
  unfold lookup at found
  split at found
  case h_1 there => exact Except.ok.inj found ▸ there
  case h_2 => cases found

theorem toOption_map_snd {ε α β : Type} {answer : Except ε (α × β)} {b : β} :
    answer.toOption.map Prod.snd = some b ↔ ∃ a, answer = .ok (a, b) := by
  cases answer with
  | error e => simp [Except.toOption]
  | ok returned =>
      obtain ⟨a, next⟩ := returned
      simp [Except.toOption]

/-- A call with flows for a link of the profile. -/
def callsFor (profile : ProfileLabel) (calls : List (List (Candidate F) × NetworkLink F)) : Nat :=
  calls.countP fun call => !call.1.isEmpty && classifyLinkProfile call.2 = .ok profile

namespace ContextualProfiledLagrangianAdmissionController

variable {c c' : ContextualProfiledLagrangianAdmissionController F}
  {calls : List (List (Candidate F) × NetworkLink F)}

/-- A call of `schedule`. -/
def step (c : ContextualProfiledLagrangianAdmissionController F)
    (call : List (Candidate F) × NetworkLink F) :
    Option (ContextualProfiledLagrangianAdmissionController F) :=
  (c.schedule call.1 call.2).toOption.map Prod.snd

theorem step_eq_some {call : List (Candidate F) × NetworkLink F} :
    c.step call = some c' ↔ ∃ decisions, c.schedule call.1 call.2 = .ok (decisions, c') :=
  toOption_map_snd

/-! ## What a call learns -/

/-- A call with flows pulls one envelope of the profile of its link. -/
structure Pulls (c c' : ContextualProfiledLagrangianAdmissionController F) (profile : ProfileLabel)
    (label : Str) (states : Dict Str (EnvelopeState F)) (state learned : EnvelopeState F)
    (pulls : Int) : Prop where
  states_eq : c.states.get? profile = some states
  state_eq : states.get? label = some state
  pulls_eq : c.profilePulls.get? profile = some pulls
  learned_pulls : learned.pulls = state.pulls + 1
  states_set : c'.states = c.states.set profile (states.set label learned)
  pulls_set : c'.profilePulls = c.profilePulls.set profile (pulls + 1)

theorem updateState_pulls {evaluation : EnvelopeEvaluation F}
    (updated : c.updateState profile evaluation = .ok c') :
    ∃ states state learned pulls,
      Pulls c c' profile evaluation.envelope.label states state learned pulls := by
  unfold updateState at updated
  obtain ⟨states, listed, updated⟩ := bind_eq_ok_iff.mp updated
  obtain ⟨state, found, updated⟩ := bind_eq_ok_iff.mp updated
  obtain ⟨pulls, counted, updated⟩ := bind_eq_ok_iff.mp updated
  obtain rfl := Except.ok.inj updated
  exact ⟨states, state, _, pulls, lookup_eq_ok listed, lookup_eq_ok found, lookup_eq_ok counted,
    rfl, rfl, rfl⟩

theorem schedule_pulls (some_ : candidates ≠ [])
    (returned : c.schedule candidates link = .ok (decisions, c')) :
    ∃ profile label states state learned pulls, classifyLinkProfile link = .ok profile ∧
      Pulls c c' profile label states state learned pulls := by
  unfold schedule at returned
  obtain ⟨⟨⟩, -, returned⟩ := bind_eq_ok_iff.mp returned
  rw [if_neg (fun empty => some_ (List.isEmpty_iff.mp empty))] at returned
  obtain ⟨profile, classified, returned⟩ := bind_eq_ok_iff.mp returned
  obtain ⟨envelopes, -, returned⟩ := bind_eq_ok_iff.mp returned
  obtain ⟨evaluations, -, returned⟩ := bind_eq_ok_iff.mp returned
  obtain ⟨selected, -, returned⟩ := bind_eq_ok_iff.mp returned
  obtain ⟨controllers, -, returned⟩ := bind_eq_ok_iff.mp returned
  obtain ⟨controller, -, returned⟩ := bind_eq_ok_iff.mp returned
  obtain ⟨⟨decided, controller'⟩, -, returned⟩ := bind_eq_ok_iff.mp returned
  obtain ⟨c'', updated, returned⟩ := bind_eq_ok_iff.mp returned
  obtain rfl : c'' = c' := (Prod.mk.inj (Except.ok.inj returned)).2
  obtain ⟨states, state, learned, pulls, pulled⟩ := updateState_pulls updated
  exact ⟨profile, _, states, state, learned, pulls, classified, pulled.states_eq, pulled.state_eq,
    pulled.pulls_eq, pulled.learned_pulls, pulled.states_set, pulled.pulls_set⟩

/-! ## The tally -/

/-- The pulls of each profile are `n`, for the profile as well as over its envelopes. -/
def Tallies (c : ContextualProfiledLagrangianAdmissionController F) (n : ProfileLabel → Nat) :
    Prop :=
  ∀ profile, ∃ states, c.states.get? profile = some states ∧
    c.profilePulls.get? profile = some (n profile : Int) ∧
    Dict.total EnvelopeState.pulls states = n profile ∧ ∀ e ∈ states, 0 ≤ e.2.pulls

theorem byLabel_start (envelopes : List (ProfileEnvelope F)) :
    ∀ e ∈ byLabel (fun _ => (EnvelopeState.start : EnvelopeState F)) envelopes, e.2 = .start := by
  have general : ∀ (rest : List (ProfileEnvelope F)) (d : Dict Str (EnvelopeState F)),
      (∀ e ∈ d, e.2 = .start) →
      ∀ e ∈ rest.foldl (fun d envelope => d.set envelope.label .start) d, e.2 = .start := by
    intro rest
    induction rest with
    | nil => exact fun _ started => started
    | cons envelope rest ih =>
        intro d started
        apply ih
        intro e among
        cases Dict.mem_set among with
        | inl same => rw [same]
        | inr before => exact started e before
  exact general envelopes [] fun _ among => absurd among List.not_mem_nil

theorem init_tallies {all : Dict ProfileLabel (List (ProfileEnvelope F))}
    (listed : ∀ profile, (all.get? profile).isSome) : (init all).Tallies fun _ => 0 := by
  intro profile
  obtain ⟨envelopes, there⟩ := Option.isSome_iff_exists.mp (listed profile)
  have started := byLabel_start envelopes
  refine ⟨byLabel (fun _ => .start) envelopes, ?_, ?_, ?_, ?_⟩
  · exact (get?_map_values _ all profile).trans (by rw [there]; rfl)
  · exact (get?_map_values (fun _ => (0 : Int)) all profile).trans (by rw [there]; rfl)
  · unfold Dict.total
    apply List.sum_eq_zero
    intro pulls among
    obtain ⟨e, inside, rfl⟩ := List.mem_map.mp among
    rw [started e inside]
    rfl
  · intro e among
    rw [started e among]
    exact Int.le_refl 0

omit [FloatOps F] in
theorem Tallies.pull {n n' : ProfileLabel → Nat} {label : Str}
    {states : Dict Str (EnvelopeState F)} {state learned : EnvelopeState F} {pulls : Int}
    (h : c.Tallies n) (pulled : Pulls c c' profile label states state learned pulls)
    (counted : n' profile = n profile + 1) (others : ∀ other ≠ profile, n' other = n other) :
    c'.Tallies n' := by
  intro other
  obtain ⟨before, listed, tallied, total, positive⟩ := h other
  by_cases same : other = profile
  case pos =>
    subst same
    obtain rfl : before = states := Option.some.inj (listed.symm.trans pulled.states_eq)
    obtain rfl : (n other : Int) = pulls := Option.some.inj (tallied.symm.trans pulled.pulls_eq)
    refine ⟨before.set label learned, ?_, ?_, ?_, ?_⟩
    · rw [pulled.states_set, Dict.get?_set_self]
    · rw [pulled.pulls_set, Dict.get?_set_self, counted]
      rfl
    · rw [Dict.total_set_of_get? _ pulled.state_eq, total, pulled.learned_pulls, counted]
      omega
    · intro e among
      cases Dict.mem_set among with
      | inl same =>
          have pulls_pos : 0 ≤ state.pulls := positive _ (Dict.mem_of_get? pulled.state_eq)
          rw [same, pulled.learned_pulls]
          omega
      | inr inside => exact positive e inside
  case neg =>
    refine ⟨before, ?_, ?_, ?_, positive⟩
    · rw [pulled.states_set, Dict.get?_set_of_ne same, listed]
    · rw [pulled.pulls_set, Dict.get?_set_of_ne same, tallied, others other same]
    · rw [total, others other same]

/-- What a call keeps. -/
theorem Tallies.schedule {n : ProfileLabel → Nat} (h : c.Tallies n)
    (returned : c.schedule candidates link = .ok (decisions, c')) :
    c'.Tallies fun profile => n profile + callsFor profile [(candidates, link)] := by
  cases candidates with
  | nil =>
      unfold ContextualProfiledLagrangianAdmissionController.schedule at returned
      obtain ⟨⟨⟩, -, returned⟩ := bind_eq_ok_iff.mp returned
      obtain rfl : c = c' := (Prod.mk.inj (Except.ok.inj returned)).2
      exact h
  | cons x rest =>
      obtain ⟨profile, label, states, state, learned, pulls, classified, pulled⟩ :=
        schedule_pulls (List.cons_ne_nil x rest) returned
      have one (other : ProfileLabel) : callsFor other [(x :: rest, link)] =
          if other = profile then 1 else 0 := by
        unfold callsFor
        rw [List.countP_singleton, classified]
        by_cases same : other = profile
        case pos => simp [same]
        case neg => simp [same, Ne.symm same]
      apply h.pull pulled
      · rw [one, if_pos rfl]
      · intro other differs
        rw [one, if_neg differs, Nat.add_zero]

theorem callsFor_append (profile : ProfileLabel)
    (past calls : List (List (Candidate F) × NetworkLink F)) :
    callsFor profile (past ++ calls) = callsFor profile past + callsFor profile calls :=
  List.countP_append

/-- What a run keeps. -/
theorem Tallies.run {start : ContextualProfiledLagrangianAdmissionController F}
    (h : start.Tallies fun _ => 0) (reached : Lib.run step start calls = some c) :
    c.Tallies fun profile => callsFor profile calls := by
  have empty : start.Tallies fun profile =>
      callsFor profile ([] : List (List (Candidate F) × NetworkLink F)) := h
  refine run_history (R := fun c past => Tallies c fun profile => callsFor profile past) ?_
    empty (RunMeets.trivial start calls) reached
  intro c past call c' tallied _ taken
  obtain ⟨decisions, returned⟩ := step_eq_some.mp taken
  have counted := tallied.schedule returned
  have same : (fun profile => callsFor profile (past ++ [call])) =
      fun profile => callsFor profile past + callsFor profile [call] :=
    funext fun profile => callsFor_append profile past [call]
  rw [same]
  exact counted

end ContextualProfiledLagrangianAdmissionController

/-! ## Intents -/

namespace IntentAwareContextualAdmissionController

variable {c c' : IntentAwareContextualAdmissionController F}
  {calls : List (List (Candidate F) × NetworkLink F)}

theorem step_eq_some {call : List (Candidate F) × NetworkLink F} :
    c.step call = some c' ↔ ∃ decisions, c.schedule call.1 call.2 = .ok (decisions, c') :=
  toOption_map_snd

/-- The wrapped controller takes the call, and the options stay. -/
theorem schedule_base (valid : link.validates = .ok ())
    (returned : c.schedule candidates link = .ok (decisions, c')) :
    c.base.step (candidates, link) = some c'.base ∧ c'.transformOptions = c.transformOptions := by
  rw [ContextualProfiledLagrangianAdmissionController.step_eq_some]
  unfold schedule at returned
  cases candidates with
  | nil =>
      obtain rfl : c = c' := (Prod.mk.inj (Except.ok.inj returned)).2
      refine ⟨⟨[], ?_⟩, rfl⟩
      unfold ContextualProfiledLagrangianAdmissionController.schedule
      rw [valid]
      rfl
  | cons x rest =>
      rw [if_neg (show ¬(x :: rest).isEmpty from Bool.false_ne_true)] at returned
      obtain ⟨profile, -, returned⟩ := bind_eq_ok_iff.mp returned
      obtain ⟨⟨base, base'⟩, scheduled, returned⟩ := bind_eq_ok_iff.mp returned
      dsimp only at returned
      split at returned
      case isTrue =>
        obtain rfl := (Prod.mk.inj (Except.ok.inj returned)).2
        exact ⟨⟨base, scheduled⟩, rfl⟩
      case isFalse =>
        obtain ⟨rewritten, -, returned⟩ := bind_eq_ok_iff.mp returned
        obtain rfl := (Prod.mk.inj (Except.ok.inj returned)).2
        exact ⟨⟨base, scheduled⟩, rfl⟩

/-- The wrapper runs as its wrapped controller does. -/
theorem run_base {start : IntentAwareContextualAdmissionController F}
    (valid : ∀ call ∈ calls, Valid call.1 call.2) (reached : Lib.run step start calls = some c) :
    Lib.run ContextualProfiledLagrangianAdmissionController.step start.base calls = some c.base ∧
      c.transformOptions = start.transformOptions := by
  induction calls generalizing start with
  | nil =>
      obtain rfl := Option.some.inj reached
      exact ⟨rfl, rfl⟩
  | cons call calls ih =>
      obtain ⟨mid, taken, later⟩ := run_cons reached
      obtain ⟨decisions, returned⟩ := step_eq_some.mp taken
      obtain ⟨base, options⟩ := schedule_base (valid call List.mem_cons_self).link returned
      obtain ⟨ran, same⟩ := ih (fun x among => valid x (List.mem_cons_of_mem _ among)) later
      refine ⟨?_, same.trans options⟩
      rw [run, base]
      exact ran

end IntentAwareContextualAdmissionController

end

/-! ## Two calls -/

/-- A control flow is stale on a wide link, and the call is made again. -/
def staleCalls : List (List (Candidate Fixed) × NetworkLink Fixed) :=
  [([staleFlow (lit "stop") .control 60], wanLink), ([staleFlow (lit "stop") .control 60], wanLink)]

theorem staleCalls_valid : ∀ call ∈ staleCalls, Valid call.1 call.2 := by
  intro call among
  have same : call = ([staleFlow (lit "stop") .control 60], wanLink) := by
    simpa [staleCalls] using among
  rw [same]
  exact staleFlow_valid

end FleetRMW.Admission
