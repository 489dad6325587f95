import Mathlib.Order.Basic

/-! # Runs of a partial step function

A system is given by `step : σ → ε → Option σ`, which answers `none` for an event
that is not enabled. A run takes a list of events one after the other. A side
condition on the single steps (`RunMeets`) is kept apart from the step function, so
that a theorem may speak of every run or only of those runs whose steps all meet it.
-/

namespace FleetRMW.Lib

variable {σ ε γ : Type*}

/-- Take the listed events in order. -/
def run (step : σ → ε → Option σ) : σ → List ε → Option σ
  | s, [] => some s
  | s, e :: es => (step s e).bind fun s' => run step s' es

/-- Every event of the list is taken in a state that meets `ok`. -/
def RunMeets (step : σ → ε → Option σ) (ok : σ → ε → Prop) : σ → List ε → Prop
  | _, [] => True
  | s, e :: es => ok s e ∧ match step s e with
    | some s' => RunMeets step ok s' es
    | none => True

instance RunMeets.decidable (step : σ → ε → Option σ) (ok : σ → ε → Prop)
    [∀ s e, Decidable (ok s e)] : ∀ s es, Decidable (RunMeets step ok s es)
  | _, [] => inferInstanceAs (Decidable True)
  | s, e :: es =>
      match h : step s e with
      | some s' =>
          haveI := RunMeets.decidable step ok s' es
          decidable_of_iff (ok s e ∧ RunMeets step ok s' es) (by simp only [RunMeets, h])
      | none => decidable_of_iff (ok s e) (by simp only [RunMeets, h, and_true])

section
variable {step : σ → ε → Option σ} {ok : σ → ε → Prop}

@[simp] theorem run_nil (s : σ) : run step s [] = some s := rfl

theorem run_cons {s s' : σ} {e : ε} {es : List ε} (h : run step s (e :: es) = some s') :
    ∃ mid, step s e = some mid ∧ run step mid es = some s' :=
  Option.bind_eq_some_iff.mp h

theorem run_append {s s' : σ} {es fs : List ε} (h : run step s (es ++ fs) = some s') :
    ∃ mid, run step s es = some mid ∧ run step mid fs = some s' := by
  induction es generalizing s with
  | nil => exact ⟨s, rfl, h⟩
  | cons e es ih =>
      obtain ⟨next, he, hrest⟩ := run_cons h
      obtain ⟨mid, hes, hfs⟩ := ih hrest
      exact ⟨mid, by simp only [run, he, Option.bind_some, hes], hfs⟩

theorem run_concat {s mid s' : σ} {es : List ε} {e : ε} (h : run step s es = some mid)
    (he : step mid e = some s') : run step s (es ++ [e]) = some s' := by
  induction es generalizing s with
  | nil =>
      obtain rfl : s = mid := Option.some.inj h
      rw [List.nil_append, run, he]
      rfl
  | cons x es ih =>
      obtain ⟨next, hx, hrest⟩ := run_cons h
      rw [List.cons_append, run, hx, Option.bind_some, ih hrest]

/-- The side condition that every step meets. -/
theorem RunMeets.trivial (s : σ) (es : List ε) : RunMeets step (fun _ _ => True) s es := by
  induction es generalizing s with
  | nil => exact True.intro
  | cons e es ih =>
      refine ⟨True.intro, ?_⟩
      cases step s e with
      | none => exact True.intro
      | some s' => exact ih s'

theorem RunMeets.of_step {s s' : σ} {e : ε} {es : List ε} (now : ok s e) (he : step s e = some s')
    (later : RunMeets step ok s' es) : RunMeets step ok s (e :: es) := by
  simp only [RunMeets, he]
  exact ⟨now, later⟩

/-- A side condition on the events alone. -/
theorem RunMeets.of_forall {ok : ε → Prop} {s : σ} {es : List ε} (all : ∀ e ∈ es, ok e) :
    RunMeets step (fun _ e => ok e) s es := by
  induction es generalizing s with
  | nil => exact True.intro
  | cons e es ih =>
      refine ⟨all e List.mem_cons_self, ?_⟩
      cases step s e with
      | none => exact True.intro
      | some s' => exact ih fun x among => all x (List.mem_cons_of_mem _ among)

theorem RunMeets.mono {ok' : σ → ε → Prop} {s : σ} {es : List ε}
    (weaker : ∀ s e, ok s e → ok' s e) (h : RunMeets step ok s es) : RunMeets step ok' s es := by
  induction es generalizing s with
  | nil => exact True.intro
  | cons e es ih =>
      refine ⟨weaker s e h.1, ?_⟩
      have rest := h.2
      split at rest
      · simpa only [*] using ih rest
      · simp only [*]

theorem RunMeets.cons {s s' : σ} {e : ε} {es : List ε} (h : RunMeets step ok s (e :: es))
    (he : step s e = some s') : ok s e ∧ RunMeets step ok s' es := by
  simpa only [RunMeets, he] using h

theorem RunMeets.of_append {s s' : σ} {es fs : List ε} (h : RunMeets step ok s (es ++ fs))
    (taken : run step s es = some s') : RunMeets step ok s es ∧ RunMeets step ok s' fs := by
  induction es generalizing s with
  | nil => exact ⟨True.intro, Option.some.inj taken ▸ h⟩
  | cons e es ih =>
      obtain ⟨mid, he, taken⟩ := run_cons taken
      obtain ⟨now, later⟩ := RunMeets.cons h he
      obtain ⟨first, last⟩ := ih later taken
      exact ⟨RunMeets.of_step now he first, last⟩

theorem RunMeets.and {ok' : σ → ε → Prop} {s : σ} {es : List ε} (h : RunMeets step ok s es)
    (h' : RunMeets step ok' s es) : RunMeets step (fun s e => ok s e ∧ ok' s e) s es := by
  induction es generalizing s with
  | nil => exact True.intro
  | cons e es ih =>
      refine ⟨⟨h.1, h'.1⟩, ?_⟩
      cases he : step s e with
      | none => exact True.intro
      | some mid => exact ih (h.cons he).2 (h'.cons he).2

/-- A relation to an abstract state that every step can be matched against, by an
    abstract state that extends the previous one, relates whole runs in the same way. -/
theorem run_simulates {R : σ → γ → Prop} {E : γ → γ → Prop}
    (refl : ∀ g, E g g) (trans : ∀ {f g h}, E f g → E g h → E f h)
    (keeps : ∀ {s e s' g}, R s g → ok s e → step s e = some s' → ∃ g', R s' g' ∧ E g g')
    {s s' : σ} {es : List ε} {g : γ} (start : R s g) (meets : RunMeets step ok s es)
    (h : run step s es = some s') : ∃ g', R s' g' ∧ E g g' := by
  induction es generalizing s g with
  | nil =>
      obtain rfl : s = s' := Option.some.inj h
      exact ⟨g, start, refl g⟩
  | cons e es ih =>
      obtain ⟨mid, he, hrest⟩ := run_cons h
      obtain ⟨now, later⟩ := meets.cons he
      obtain ⟨g₁, rel, ext⟩ := keeps start now he
      obtain ⟨g₂, rel', ext'⟩ := ih rel later hrest
      exact ⟨g₂, rel', trans ext ext'⟩

/-- What the first state satisfies and every step preserves holds after every run. -/
theorem run_invariant {I : σ → Prop}
    (keeps : ∀ {s e s'}, I s → ok s e → step s e = some s' → I s')
    {s s' : σ} {es : List ε} (start : I s) (meets : RunMeets step ok s es)
    (h : run step s es = some s') : I s' := by
  have sim := run_simulates (R := fun s (_ : Unit) => I s) (E := fun _ _ => True)
    (fun _ => True.intro) (fun _ _ => True.intro)
    (fun hs hok hstep => ⟨(), keeps hs hok hstep, True.intro⟩) (g := ()) start meets h
  exact sim.choose_spec.1

/-- The same for what relates the state to the events taken so far. -/
theorem run_history {R : σ → List ε → Prop}
    (keeps : ∀ {s past e s'}, R s past → ok s e → step s e = some s' → R s' (past ++ [e]))
    {s s' : σ} {past es : List ε} (start : R s past) (meets : RunMeets step ok s es)
    (h : run step s es = some s') : R s' (past ++ es) := by
  induction es generalizing s past with
  | nil =>
      obtain rfl : s = s' := Option.some.inj h
      rw [List.append_nil]
      exact start
  | cons e es ih =>
      obtain ⟨mid, he, hrest⟩ := run_cons h
      obtain ⟨now, later⟩ := meets.cons he
      have extended := ih (keeps start now he) later hrest
      rw [List.append_assoc, List.singleton_append] at extended
      exact extended

/-- Where every admissible event is taken from a good state and leads to a good one, a run of such
    events never stops. -/
theorem run_proceeds {I : σ → Prop} {ok : ε → Prop}
    (proceeds : ∀ {s e}, I s → ok e → ∃ s', step s e = some s' ∧ I s') {s : σ} {es : List ε}
    (start : I s) (all : ∀ e ∈ es, ok e) : ∃ s', run step s es = some s' ∧ I s' := by
  induction es generalizing s with
  | nil => exact ⟨s, rfl, start⟩
  | cons e es ih =>
      obtain ⟨mid, taken, good⟩ := proceeds start (all e List.mem_cons_self)
      obtain ⟨s', ran, kept⟩ := ih good fun x among => all x (List.mem_cons_of_mem _ among)
      refine ⟨s', ?_, kept⟩
      rw [run, taken]
      exact ran

/-- The same where every step preserves it. -/
theorem run_preserves {I : σ → Prop} (keeps : ∀ {s e s'}, I s → step s e = some s' → I s')
    {s s' : σ} {es : List ε} (start : I s) (h : run step s es = some s') : I s' :=
  run_invariant (fun held _ taken => keeps held taken) start (RunMeets.trivial s es) h

/-- A side condition on the steps that is exact: of the runs from a good state, those whose steps
    all meet it are the ones that lead through good states only. -/
theorem runMeets_iff {I J : σ → Prop}
    (keeps : ∀ {s e s'}, J s → step s e = some s' → J s')
    (exact : ∀ {s e s'}, J s → I s → step s e = some s' → (ok s e ↔ I s'))
    (total : ∀ s e, (step s e).isSome) {s : σ} (always : J s) (start : I s) (es : List ε) :
    RunMeets step ok s es ↔
      ∀ past, past <+: es → ∀ s', run step s past = some s' → I s' := by
  induction es generalizing s with
  | nil =>
      constructor
      · intro _ past isPast s' h
        obtain rfl := List.prefix_nil.mp isPast
        exact Option.some.inj h ▸ start
      · exact fun _ => True.intro
  | cons e es ih =>
      obtain ⟨mid, he⟩ := Option.isSome_iff_exists.mp (total s e)
      have step_exact := exact always start he
      constructor
      · intro meets past isPast s' h
        obtain ⟨now, later⟩ := meets.cons he
        cases List.prefix_cons_iff.mp isPast with
        | inl empty =>
            rw [empty] at h
            exact Option.some.inj h ▸ start
        | inr longer =>
            obtain ⟨rest, rfl, isRest⟩ := longer
            obtain ⟨mid', he', h⟩ := run_cons h
            obtain rfl := Option.some.inj (he.symm.trans he')
            exact (ih (keeps always he) (step_exact.mp now)).mp later rest isRest s' h
      · intro good
        have first : run step s [e] = some mid := by
          rw [run, he]
          rfl
        have next := good [e] (List.prefix_cons_iff.mpr (.inr ⟨[], rfl, List.nil_prefix⟩)) mid first
        refine RunMeets.of_step (step_exact.mpr next) he ?_
        apply (ih (keeps always he) next).mpr
        intro past isPast s' h
        apply good (e :: past) (List.prefix_cons_iff.mpr (.inr ⟨past, rfl, isPast⟩))
        rw [run, he]
        exact h

end

end FleetRMW.Lib
