import FleetRMW.Planner.Online
import FleetRMW.Rmw.PlanFile
import FleetRMW.Rmw.RepairLimits

/-! # The path plan

The online planner writes the paths of each topic to a file. Before a frame is sent the middleware
looks at the file, and gives the frame to the peers on the paths of its topic.
-/

namespace FleetRMW.Rmw

open Lib
open Planner (TopicPlanDecision pathPlanEnv OnlineFleetPlannerConfig OnlineFleetPathPlan
  PlannerState PlannerUpdate)

structure FleetPathPlanRule where
  topic : Bytes
  pathIds : List Bytes
  deriving Repr, DecidableEq

def parsePathRule (ruleText : Bytes) : Option FleetPathPlanRule := do
  let (topic, paths) ← assignment ruleText
  let rule : FleetPathPlanRule := { topic := trimCopy topic, pathIds := splitNonempty paths 43 }
  if rule.topic ≠ [] ∧ rule.pathIds ≠ [] then some rule else none

/-- `parse_fleet_path_plan` -/
def parseFleetPathPlan : Bytes → List FleetPathPlanRule := parsePlan parsePathRule

def fleetPlanPathIdsForTopic (plan : List FleetPathPlanRule) (topic : Bytes) : List Bytes :=
  let found := (plan.find? fun rule => rule.topic = topic) <|>
    plan.find? fun rule => rule.topic = octets "*"
  (found.map FleetPathPlanRule.pathIds).getD []

/-- `fleet_plan_targets`, whose loop is that of `repair_targets_for_path_ids`. -/
def fleetPlanTargets {A : Type} [DecidableEq A] (peers : List (A × Bytes))
    (plan : List FleetPathPlanRule) (frame : DataFrame) : List A :=
  RepairSettings.repairTargetsForPathIds { peers } (fleetPlanPathIdsForTopic plan frame.topic)

/-- `_write_live_plan_text` of the plan and the end of its line. -/
def pathPlanFile (decisions : List TopicPlanDecision) : Option Bytes :=
  utf8Encode (pathPlanEnv decisions ++ [10])

/-- What the controller writes for a plan is the file of the decisions of the plan. -/
theorem update_pathPlanFile {config : OnlineFleetPlannerConfig} {s s' : PlannerState}
    {u : PlannerUpdate} {plan : OnlineFleetPathPlan}
    (returned : config.update s u = (.ok plan, s')) :
    utf8Encode (plan.pathPlanEnv ++ [10]) = pathPlanFile plan.topicDecisions := by
  have sorted (plans : List TopicPlanDecision) :
      pathPlanEnv (plans.insertionSort fun x y => x.topic ≤ y.topic) = pathPlanEnv plans := by
    rw [pathPlanEnv, pathPlanEnv, (List.pairwise_insertionSort _ plans).insertionSort_eq]
  unfold OnlineFleetPlannerConfig.update at returned
  dsimp only at returned
  split at returned
  case isTrue => cases returned
  case isFalse =>
    split at returned
    case isTrue => cases returned
    case isFalse =>
      split at returned
      case h_1 => cases returned
      case h_2 =>
        obtain ⟨rfl, -⟩ := Prod.mk.inj returned |>.imp_left Except.ok.inj
        rw [pathPlanFile, sorted]

/-! ## The plan is read as it was written -/

/-- The decisions that have a rule, in the order of the rules. -/
def routedDecisions (decisions : List TopicPlanDecision) : List TopicPlanDecision :=
  (decisions.insertionSort fun x y => x.topic ≤ y.topic).filter fun decision =>
    decision.selectedPaths ≠ []

/-- What a decision is in the plan. -/
def pathRule (decision : TopicPlanDecision) : FleetPathPlanRule where
  topic := utf8Bytes decision.topic
  pathIds := decision.selectedPaths.map utf8Bytes

def pathText (decision : TopicPlanDecision) : Bytes :=
  routeText (utf8Bytes decision.topic) (decision.selectedPaths.map utf8Bytes)

/-- A decision that can be told from the plan. -/
structure Routable (decision : TopicPlanDecision) : Prop where
  topic : PlanName decision.topic
  noWildcard : decision.topic ≠ lit "*"
  some_ : decision.selectedPaths ≠ []
  paths : ∀ path ∈ decision.selectedPaths, PlanName path

section
variable {decisions : List TopicPlanDecision} {decision : TopicPlanDecision}

theorem mem_routedDecisions : decision ∈ routedDecisions decisions ↔
    decision ∈ decisions ∧ decision.selectedPaths ≠ [] := by
  rw [routedDecisions, List.mem_filter, (List.perm_insertionSort _ _).mem_iff, decide_eq_true_eq]

theorem Routable.rule (routable : Routable decision) : RuleText (pathText decision) where
  given := routeText_ne_nil
  marks c inside := by
    rcases routeText_marks routable.topic.bytes (PlanName.bytes_all routable.paths) c inside with
      plain | plus | equals
    · exact .inl plain
    · exact .inr (.inl plus)
    · exact .inr (.inr (.inl equals))

theorem Routable.parse (routable : Routable decision) :
    parsePathRule (pathText decision) = some (pathRule decision) := by
  have some_ : decision.selectedPaths.map utf8Bytes ≠ [] :=
    fun nothing => routable.some_ (List.map_eq_nil_iff.mp nothing)
  have name := routable.topic.bytes
  have names := PlanName.bytes_all routable.paths
  rw [parsePathRule, pathText, assignment_routeText name some_ names]
  simp only [Option.bind_eq_bind, Option.bind_some, name.trimmed, splitNonempty_paths names]
  rw [if_pos ⟨name.given, some_⟩]
  rfl

theorem Routable.encode (routable : Routable decision) :
    (decision.topic ++ lit "=" ++ (lit "+").intercalate decision.selectedPaths).all isScalar ∧
      utf8Bytes (decision.topic ++ lit "=" ++ (lit "+").intercalate decision.selectedPaths) =
        pathText decision := by
  constructor
  · rw [List.all_append, List.all_append, routable.topic.scalar, scalar_paths routable.paths]
    decide
  · have equals : utf8Bytes (lit "=") = [61] := by decide
    rw [utf8Bytes_append, utf8Bytes_append, utf8Bytes_paths, equals, List.append_assoc,
      List.singleton_append]
    rfl

/-- The middleware reads from the plan exactly the rules of the decisions with paths. -/
def pathFormat : PlanFormat (List TopicPlanDecision) FleetPathPlanRule where
  encode := pathPlanFile
  parse := parseFleetPathPlan
  rules decisions := (routedDecisions decisions).map pathRule
  text decisions := planLine pathText (routedDecisions decisions)
  nothing := []
  Clean decisions := ∀ decision ∈ routedDecisions decisions, Routable decision
  encode_eq _ routable := encode_planLine
    (fun decision isDecision => (routable decision isDecision).encode.1)
    fun decision isDecision => (routable decision isDecision).encode.2
  solid _ routable c inside := (planLine_solid
    (fun decision isDecision => (routable decision isDecision).rule) c inside).1
  read _ routable := parsePlan_planLine
    (fun decision isDecision => (routable decision isDecision).rule)
    fun decision isDecision => (routable decision isDecision).parse
  rules_eq_nil _ routable := by
    rw [List.map_eq_nil_iff, planLine_eq_nil fun decision isDecision =>
      (routable decision isDecision).rule.given]
  clean_nothing _ among := absurd among List.not_mem_nil
  rules_nothing := rfl

/-! ## Which paths a topic has -/

/-- Sorting by a key does not change which element comes first among those of one key. -/
theorem find?_insertionSort {α β : Type} [LinearOrder β] {key : α → β} {p : α → Bool} {l : List α}
    (same : ∀ x ∈ l, ∀ y ∈ l, p x → p y → key x = key y) :
    (l.insertionSort fun x y => key x ≤ key y).find? p = l.find? p := by
  have ordered : (l.filter p).Pairwise fun x y => key x ≤ key y := by
    rw [List.pairwise_iff_forall_sublist]
    intro x y pair
    have isX := List.mem_filter.mp (pair.subset List.mem_cons_self)
    have isY := List.mem_filter.mp (pair.subset (List.mem_cons_of_mem _ List.mem_cons_self))
    exact (same x isX.1 y isY.1 isX.2 isY.2).le
  have kept := (List.sublist_insertionSort ordered List.filter_sublist).filter p
  rw [List.filter_filter] at kept
  simp only [Bool.and_self] at kept
  have length := ((List.perm_insertionSort (fun x y => key x ≤ key y) l).filter p).length_eq
  rw [← List.head?_filter, ← List.head?_filter, kept.eq_of_length length.symm]

/-- The decision that counts for a topic: the first with paths. -/
def decisionFor (decisions : List TopicPlanDecision) (topic : Bytes) : Option TopicPlanDecision :=
  decisions.find? fun decision => utf8Bytes decision.topic = topic ∧ decision.selectedPaths ≠ []

theorem fleetPlanPathIds_eq (routable : pathFormat.Clean decisions) (topic : Bytes) :
    fleetPlanPathIdsForTopic (pathFormat.rules decisions) topic =
      ((decisionFor decisions topic).map fun decision =>
        decision.selectedPaths.map utf8Bytes).getD [] := by
  change fleetPlanPathIdsForTopic ((routedDecisions decisions).map pathRule) topic = _
  -- no topic of the plan is the one that stands for all
  have noWildcard : ((routedDecisions decisions).map pathRule).find?
      (fun rule => rule.topic = octets "*") = none := by
    rw [List.find?_eq_none]
    intro rule isRule matches_
    obtain ⟨decision, isDecision, rfl⟩ := List.mem_map.mp isRule
    have all := routable decision isDecision
    exact all.topic.ne_wildcard all.noWildcard (of_decide_eq_true matches_)
  have first : (routedDecisions decisions).find? (fun decision =>
      (pathRule decision).topic = topic) = decisionFor decisions topic := by
    rw [routedDecisions, List.find?_filter, decisionFor]
    have predicate : (fun decision : TopicPlanDecision =>
        decide (decide (decision.selectedPaths ≠ []) = true ∧
          decide ((pathRule decision).topic = topic) = true)) =
        fun decision =>
          decide (utf8Bytes decision.topic = topic ∧ decision.selectedPaths ≠ []) := by
      funext decision
      rw [decide_eq_decide, decide_eq_true_eq, decide_eq_true_eq]
      exact and_comm
    rw [predicate]
    apply find?_insertionSort
    intro x isX y isY matchX matchY
    have matchX := of_decide_eq_true matchX
    have matchY := of_decide_eq_true matchY
    exact utf8Bytes_inj (routable x (mem_routedDecisions.mpr ⟨isX, matchX.2⟩)).topic.scalar
      (routable y (mem_routedDecisions.mpr ⟨isY, matchY.2⟩)).topic.scalar
      (matchX.1.trans matchY.1.symm)
  rw [fleetPlanPathIdsForTopic, noWildcard, Option.orElse_eq_orElse, Option.orElse_eq_or,
    Option.or_none, List.find?_map]
  change (((List.find? (fun decision => decide ((pathRule decision).topic = topic))
    (routedDecisions decisions)).map pathRule).map FleetPathPlanRule.pathIds).getD [] = _
  rw [first, Option.map_map]
  rfl

end

/-! ## Targets -/

section
variable {A : Type} [DecidableEq A] {peers : List (A × Bytes)}

/-- The peers on one path, behind the targets that there are. -/
def addTargets (peers : List (A × Bytes)) (targets : List A) (pathId : Bytes) : List A :=
  peers.foldl (fun targets peer =>
    if peer.2 ≠ pathId || targets.any (· = peer.1) then targets else targets ++ [peer.1]) targets

theorem addTargets_mem (targets : List A) (pathId : Bytes) :
    (targets.Nodup → (addTargets peers targets pathId).Nodup) ∧
      ∀ a, a ∈ addTargets peers targets pathId ↔ a ∈ targets ∨ (a, pathId) ∈ peers := by
  unfold addTargets
  induction peers generalizing targets with
  | nil => exact ⟨id, fun a => by simp⟩
  | cons peer peers ih =>
      rw [List.foldl_cons]
      obtain ⟨address, path⟩ := peer
      split
      case isTrue skipped =>
        obtain ⟨nodup, mem⟩ := ih targets
        refine ⟨nodup, fun a => (mem a).trans ?_⟩
        rw [Bool.or_eq_true, decide_eq_true_eq, List.any_eq_true] at skipped
        rw [List.mem_cons, Prod.mk.injEq]
        constructor
        · exact Or.imp_right .inr
        · rintro (isTarget | ⟨rfl, rfl⟩ | later)
          · exact .inl isTarget
          · rcases skipped with other | ⟨target, isTarget, same⟩
            · exact absurd rfl other
            · have isHere : target = a := of_decide_eq_true same
              exact .inl (isHere ▸ isTarget)
          · exact .inr later
      case isFalse new =>
        obtain ⟨nodup, mem⟩ := ih (targets ++ [address])
        simp only [Bool.or_eq_true, decide_eq_true_eq, List.any_eq_true, not_or, not_not,
          not_exists, not_and] at new
        obtain ⟨rfl, fresh⟩ := new
        refine ⟨fun before => nodup ?_, fun a => (mem a).trans ?_⟩
        · rw [List.nodup_append]
          refine ⟨before, List.nodup_singleton _, fun x isX y isY => ?_⟩
          rw [List.mem_singleton.mp isY]
          exact fresh x isX
        · rw [List.mem_append, List.mem_singleton, List.mem_cons, Prod.mk.injEq, or_assoc]
          simp only [and_true]

/-- The targets are the peers on the paths, each once. -/
theorem targets_mem (peers : List (A × Bytes)) (pathIds : List Bytes) :
    (RepairSettings.repairTargetsForPathIds { peers } pathIds).Nodup ∧
      ∀ a : A, a ∈ RepairSettings.repairTargetsForPathIds { peers } pathIds ↔
        ∃ pathId ∈ pathIds, (a, pathId) ∈ peers := by
  have general : ∀ targets : List A,
      (targets.Nodup → (pathIds.foldl (addTargets peers) targets).Nodup) ∧
        ∀ a, a ∈ pathIds.foldl (addTargets peers) targets ↔
          a ∈ targets ∨ ∃ pathId ∈ pathIds, (a, pathId) ∈ peers := by
    induction pathIds with
    | nil => exact fun targets => ⟨id, fun a => by simp⟩
    | cons pathId pathIds ih =>
        intro targets
        rw [List.foldl_cons]
        have here : (targets.Nodup → (addTargets peers targets pathId).Nodup) ∧ _ :=
          addTargets_mem targets pathId
        obtain ⟨nodup', mem'⟩ := ih (addTargets peers targets pathId)
        refine ⟨fun before => nodup' (here.1 before), fun a => ?_⟩
        rw [mem' a, here.2 a, List.exists_mem_cons_iff, or_assoc]
  obtain ⟨nodup, mem⟩ := general []
  refine ⟨nodup List.nodup_nil, fun a => (mem a).trans ?_⟩
  simp only [List.not_mem_nil, false_or]

end

/-! ## Runs -/

/-- A plan is written to the file, or the middleware looks at it for a frame. -/
inductive PathPlanEvent where
  | plan (decisions : List TopicPlanDecision)
  | frame

def PathPlanEvent.step (s : PlanHost FleetPathPlanRule) : PathPlanEvent → PlanHost FleetPathPlanRule
  | .plan decisions => pathFormat.write s decisions
  | .frame => pathFormat.look s

def PathPlanEvent.force (force : InForce (List TopicPlanDecision)) :
    PathPlanEvent → InForce (List TopicPlanDecision)
  | .plan decisions => { force with written := decisions }
  | .frame => pathFormat.found force

/-- The file and the reader after the events. -/
def pathPlanRun (initial : Option (List TopicPlanDecision)) (events : List PathPlanEvent) :
    PlanHost FleetPathPlanRule :=
  events.foldl PathPlanEvent.step (pathFormat.start initial)

/-- The plans after the events. -/
def plansInForce (initial : Option (List TopicPlanDecision)) (events : List PathPlanEvent) :
    InForce (List TopicPlanDecision) :=
  events.foldl PathPlanEvent.force (pathFormat.begun initial)

/-- The frame goes to the peers on the paths that were decided for its topic, each once, and to
    none of the plan where no paths were decided. -/
structure RoutedFor {A : Type} (peers : List (A × Bytes)) (decisions : List TopicPlanDecision)
    (frame : DataFrame) (targets : List A) : Prop where
  nodup : targets.Nodup
  mem : ∀ a, a ∈ targets ↔ ∃ decision, decisionFor decisions frame.topic = some decision ∧
    ∃ path ∈ decision.selectedPaths, (a, utf8Bytes path) ∈ peers

theorem pathPlanRun_enforces {initial : Option (List TopicPlanDecision)}
    {events : List PathPlanEvent}
    (routable : ∀ decisions, initial = some decisions ∨ .plan decisions ∈ events →
      pathFormat.Clean decisions) :
    pathFormat.Enforces (pathPlanRun initial events) (plansInForce initial events) := by
  unfold pathPlanRun plansInForce
  induction events using List.reverseRecOn with
  | nil => exact .start fun decisions given => routable decisions (.inl given)
  | append_singleton events event ih =>
      have before := ih fun decisions given =>
        routable decisions (given.imp_right fun among => List.mem_append_left _ among)
      rw [List.foldl_concat, List.foldl_concat]
      cases event with
      | plan decisions =>
          have last : .plan decisions ∈ events ++ [.plan decisions] :=
            List.mem_append_right _ List.mem_cons_self
          exact before.write (routable decisions (.inr last))
      | frame => exact before.look

/-- In every run a frame is given to the peers that the plan in force has for its topic. -/
theorem frames_follow_plans {A : Type} [DecidableEq A] (peers : List (A × Bytes))
    (initial : Option (List TopicPlanDecision)) (events : List PathPlanEvent)
    (routable : ∀ decisions, initial = some decisions ∨ .plan decisions ∈ events →
      pathFormat.Clean decisions) (frame : DataFrame) :
    RoutedFor peers (plansInForce initial events).enforced frame
      (fleetPlanTargets peers (pathPlanRun initial events).reader.plan frame) := by
  have now_ := pathPlanRun_enforces routable
  obtain ⟨nodup, mem⟩ := targets_mem peers
    (fleetPlanPathIdsForTopic (pathPlanRun initial events).reader.plan frame.topic)
  refine ⟨nodup, fun a => (mem a).trans ?_⟩
  rw [now_.plan, fleetPlanPathIds_eq now_.enforced]
  cases decisionFor (plansInForce initial events).enforced frame.topic with
  | none => simp
  | some decision => simp

/-! ## One topic on two paths -/

def routedDecision (paths : List Str) : TopicPlanDecision where
  topic := lit "/r/control"
  flowId := lit "r:/r/control"
  robotId := lit "r"
  action := .send
  mode := lit "redundant"
  selectedPaths := paths
  optimizerSelectedPaths := paths
  changed := true
  heldByDwell := false
  dwellTicks := 0
  previousPaths := []
  reason := ""

theorem routable_twoPaths :
    pathFormat.Clean [routedDecision [lit "primary_wifi", lit "backup_5g"]] := by
  intro decision among
  obtain rfl := List.mem_singleton.mp (mem_routedDecisions.mp among).1
  exact ⟨by decide, by decide, by decide, by decide⟩

/-- The plan without a path does not take the first back. -/
theorem frames_follow_plans_twoPaths :
    RoutedFor [(1, octets "primary_wifi"), (2, octets "backup_5g")]
      (plansInForce (some [routedDecision [lit "primary_wifi", lit "backup_5g"]])
        [.frame, .plan [], .frame]).enforced { topic := octets "/r/control" }
      (fleetPlanTargets [(1, octets "primary_wifi"), (2, octets "backup_5g")]
        (pathPlanRun (some [routedDecision [lit "primary_wifi", lit "backup_5g"]])
          [.frame, .plan [], .frame]).reader.plan { topic := octets "/r/control" }) := by
  apply frames_follow_plans
  rintro decisions (given | given)
  · rw [← Option.some.inj given]
    exact routable_twoPaths
  · obtain rfl : decisions = [] := by simpa using given
    exact pathFormat.clean_nothing

end FleetRMW.Rmw
