import FleetRMW.Repair.PolicyText
import FleetRMW.Rmw.PlanFile
import FleetRMW.Rmw.Reassembly
import FleetRMW.Rmw.RepairLimits

/-! # The repair plan

The middleware parses a plan with tolerance: what is not a rule is passed over, and so is a field
that is not known. From the policy text of a schedule it reads exactly the rules of the repairs
that the schedule admits.
-/

namespace FleetRMW.Rmw

open Lib
open Repair (RepairDecision admitted sortedAdmitted planFile mem_sortedAdmitted)

/-! ## Parsing a plan -/

def parseSequence (item : Bytes) : Option UInt64 :=
  match strtoull item with
  | some (negative, value, []) =>
      if value < 2 ^ 64 then
        some (if negative then 0 - UInt64.ofNat value else UInt64.ofNat value)
      else none
  | _ => none

/-- `parse_sequence_list` -/
def parseSequenceList (text : Bytes) : List UInt64 :=
  (text.splitOn 44).filterMap fun item => if item = [] then none else parseSequence item

def parseAttempts (value : Bytes) : Option Int :=
  match strtoull value with
  | some (negative, parsed, []) =>
      if negative ∧ parsed ≠ 0 ∨ 2 ^ 63 ≤ parsed then none else some (min parsed 1000)
  | _ => none

def FleetRepairPlanRule.readField (rule : FleetRepairPlanRule) (field : Bytes) :
    FleetRepairPlanRule :=
  match assignment field with
  | none => rule
  | some (key, value) =>
      let key := trimCopy key
      let value := trimCopy value
      if key = octets "sequences" then
        { rule with sourceSequences := parseSequenceList (cString value) }
      else if key = octets "attempts" then
        { rule with maxAttempts := (parseAttempts (cString value)).getD rule.maxAttempts }
      else rule

def parseRepairRule (ruleText : Bytes) : Option FleetRepairPlanRule :=
  match splitNonempty ruleText 124 with
  | [] => none
  | first :: fields => do
      let (topic, paths) ← assignment first
      let rule := fields.foldl FleetRepairPlanRule.readField
        { topic := trimCopy topic, pathIds := splitNonempty paths 43, sourceSequences := [] }
      if rule.topic ≠ [] ∧ rule.pathIds ≠ [] then some rule else none

/-- `parse_fleet_repair_plan` -/
def parseFleetRepairPlan : Bytes → List FleetRepairPlanRule := parsePlan parseRepairRule

/-! ## A rule is read as it was written -/

/-- A decision that can be told from the plan. -/
structure Writable (decision : RepairDecision) : Prop where
  topic : PlanName decision.topic
  noWildcard : decision.topic ≠ lit "*"
  some_ : decision.selectedPaths ≠ []
  paths : ∀ path ∈ decision.selectedPaths, PlanName path
  nonneg : 0 ≤ decision.sourceSequenceNumber
  fits : decision.sourceSequenceNumber < 2 ^ 64

instance (decision : RepairDecision) : Decidable (Writable decision) :=
  decidable_of_iff (PlanName decision.topic ∧ decision.topic ≠ lit "*" ∧
      decision.selectedPaths ≠ [] ∧ (∀ path ∈ decision.selectedPaths, PlanName path) ∧
      0 ≤ decision.sourceSequenceNumber ∧ decision.sourceSequenceNumber < 2 ^ 64)
    ⟨fun h => ⟨h.1, h.2.1, h.2.2.1, h.2.2.2.1, h.2.2.2.2.1, h.2.2.2.2.2⟩,
      fun h => ⟨h.topic, h.noWildcard, h.some_, h.paths, h.nonneg, h.fits⟩⟩

/-- The fields of a rule with one sequence number and one attempt. -/
def ruleFields (topic : Bytes) (paths : List Bytes) (sequence : Nat) : List Bytes :=
  [routeText topic paths, octets "sequences=" ++ decimal sequence,
    octets "attempts=1"]

def ruleText (topic : Bytes) (paths : List Bytes) (sequence : Nat) : Bytes :=
  [124].intercalate (ruleFields topic paths sequence)

/-- What a decision is in the plan. -/
def planRule (decision : RepairDecision) : FleetRepairPlanRule where
  topic := utf8Bytes decision.topic
  pathIds := decision.selectedPaths.map utf8Bytes
  sourceSequences := [UInt64.ofNat decision.sourceSequenceNumber.toNat]
  maxAttempts := 1

def decisionText (decision : RepairDecision) : Bytes :=
  ruleText (utf8Bytes decision.topic) (decision.selectedPaths.map utf8Bytes)
    decision.sourceSequenceNumber.toNat

theorem utf8Bytes_rule {decision : RepairDecision} (nonneg : 0 ≤ decision.sourceSequenceNumber) :
    utf8Bytes decision.rule = decisionText decision := by
  have number : utf8Bytes (Repair.formatInt decision.sourceSequenceNumber) =
      decimal decision.sourceSequenceNumber.toNat := by
    have same : decision.sourceSequenceNumber.natAbs = decision.sourceSequenceNumber.toNat := by
      omega
    rw [Repair.formatInt, if_neg (by omega), List.nil_append, utf8Bytes_decimal, same]
  have equals : utf8Bytes (lit "=") = [61] := by decide
  have sequences : utf8Bytes (lit "|sequences=") = 124 :: octets "sequences=" := by decide
  have attempts : utf8Bytes (lit "|attempts=1") = 124 :: octets "attempts=1" := by decide
  rw [RepairDecision.rule, utf8Bytes_append, utf8Bytes_append, utf8Bytes_append, utf8Bytes_append,
    utf8Bytes_append, utf8Bytes_paths, number, equals, sequences, attempts]
  simp [decisionText, ruleText, ruleFields, routeText, List.intercalate]

section
variable {topic : Bytes} {paths : List Bytes} {n : Nat}

theorem parseSequenceList_decimal (fits : n < 2 ^ 64) :
    parseSequenceList (decimal n) = [UInt64.ofNat n] := by
  have single : (decimal n).splitOn 44 = [decimal n] :=
    List.splitOn_eq_singleton (decimal_notMem (by decide) n)
  have read : parseSequence (decimal n) = some (UInt64.ofNat n) := by
    rw [parseSequence, strtoull_decimal]
    dsimp only
    rw [if_pos fits]
    rfl
  rw [parseSequenceList, single, List.filterMap_cons, if_neg (decimal_ne_nil n), read]
  rfl

theorem readField_sequences (rule : FleetRepairPlanRule) (fits : n < 2 ^ 64) :
    rule.readField (octets "sequences=" ++ decimal n) =
      { rule with sourceSequences := [UInt64.ofNat n] } := by
  have sides : assignment (octets "sequences=" ++ decimal n) =
      some (octets "sequences", decimal n) := by
    have shape : octets "sequences=" ++ decimal n = octets "sequences" ++ 61 :: decimal n := rfl
    rw [shape, assignment_append (by decide) (by decide) (decimal_ne_nil n)]
  have solid : ∀ c ∈ decimal n, isSpace c = false :=
    fun c among => isSpace_of_plain (plain_of_isDecimal (decimal_isDecimal n c among))
  have key : trimCopy (octets "sequences") = octets "sequences" := by decide
  rw [FleetRepairPlanRule.readField, sides]
  dsimp only
  rw [key, if_pos rfl, trimCopy_of_solid solid, cString_of_notMem (decimal_notMem (by decide) n),
    parseSequenceList_decimal fits]

theorem readField_attempts (rule : FleetRepairPlanRule) :
    rule.readField (octets "attempts=1") = { rule with maxAttempts := 1 } := by
  have sides : assignment (octets "attempts=1") = some (octets "attempts", octets "1") := by decide
  have key : trimCopy (octets "attempts") = octets "attempts" := by decide
  have value : parseAttempts (cString (trimCopy (octets "1"))) = some 1 := by decide
  rw [FleetRepairPlanRule.readField, sides]
  dsimp only
  rw [key, if_neg (by decide), if_pos rfl, value]
  rfl

theorem marks_of_all {text : Bytes} (all : text.all fun c => !isPlanMark c || c == 61) :
    ∀ c ∈ text, isPlanMark c = false ∨ c = 43 ∨ c = 61 := by
  intro c inside
  have given := List.all_eq_true.mp all c inside
  rw [Bool.or_eq_true, Bool.not_eq_true', beq_iff_eq] at given
  exact given.imp_right .inr

/-- In a field stand no marks but those of the field itself. -/
theorem ruleFields_marks (name : PlainName topic) (names : ∀ path ∈ paths, PlainName path)
    {field : Bytes} (isField : field ∈ ruleFields topic paths n) :
    field ≠ [] ∧ ∀ c ∈ field, isPlanMark c = false ∨ c = 43 ∨ c = 61 := by
  simp only [ruleFields, List.mem_cons, List.not_mem_nil, or_false] at isField
  rcases isField with rfl | rfl | rfl
  · exact ⟨routeText_ne_nil, routeText_marks name names⟩
  · refine ⟨List.append_ne_nil_of_right_ne_nil _ (decimal_ne_nil n), fun c among => ?_⟩
    rcases List.mem_append.mp among with inName | digit
    · exact marks_of_all (by decide) c inName
    · exact .inl (plain_of_isDecimal (decimal_isDecimal n c digit))
  · exact ⟨by decide, marks_of_all (by decide)⟩

theorem ruleText_rule (name : PlainName topic) (names : ∀ path ∈ paths, PlainName path) :
    RuleText (ruleText topic paths n) where
  given := by simp [ruleText, ruleFields, routeText, List.intercalate]
  marks c among := by
    rcases mem_of_mem_intercalate among with rfl | ⟨field, isField, inside⟩
    · exact .inr (.inr (.inr rfl))
    · rcases (ruleFields_marks name names isField).2 c inside with plain | plus | equals
      · exact .inl plain
      · exact .inr (.inl plus)
      · exact .inr (.inr (.inl equals))

theorem parseRepairRule_ruleText (name : PlainName topic) (some_ : paths ≠ [])
    (names : ∀ path ∈ paths, PlainName path) (fits : n < 2 ^ 64) :
    parseRepairRule (ruleText topic paths n) = some {
      topic, pathIds := paths, sourceSequences := [UInt64.ofNat n], maxAttempts := 1 } := by
  have marks : ∀ field ∈ ruleFields topic paths n, ∀ c ∈ field, isSpace c = false ∧ c ≠ 124 := by
    intro field isField c inside
    rcases (ruleFields_marks name names isField).2 c inside with plain | rfl | rfl
    · exact ⟨isSpace_of_plain plain, ne_of_plain plain rfl⟩
    · exact ⟨by decide, by decide⟩
    · exact ⟨by decide, by decide⟩
  have fields : splitNonempty (ruleText topic paths n) 124 = ruleFields topic paths n :=
    splitNonempty_intercalate (fun field isField => (ruleFields_marks name names isField).1)
      (fun field isField bar => (marks field isField 124 bar).2 rfl)
      fun field isField c inside => (marks field isField c inside).1
  rw [parseRepairRule, fields, ruleFields]
  dsimp only
  rw [assignment_routeText name some_ names]
  simp only [Option.bind_eq_bind, Option.bind_some, List.foldl_cons, List.foldl_nil, name.trimmed,
    splitNonempty_paths names, readField_sequences _ fits, readField_attempts]
  rw [if_pos ⟨name.given, some_⟩]

end

/-! ## A schedule is read as it was written -/

section
variable {decisions : List RepairDecision} {decision : RepairDecision}

/-- The octets of the policy text. -/
def planText (decisions : List RepairDecision) : Bytes :=
  planLine decisionText (sortedAdmitted decisions)

theorem Writable.rule (writable : Writable decision) : RuleText (decisionText decision) :=
  ruleText_rule writable.topic.bytes (PlanName.bytes_all writable.paths)

theorem Writable.parse (writable : Writable decision) :
    parseRepairRule (decisionText decision) = some (planRule decision) := by
  have fits := writable.fits
  have some_ : decision.selectedPaths.map utf8Bytes ≠ [] :=
    fun nothing => writable.some_ (List.map_eq_nil_iff.mp nothing)
  exact parseRepairRule_ruleText writable.topic.bytes some_ (PlanName.bytes_all writable.paths)
    (by omega)

theorem scalar_rule (writable : Writable decision) : decision.rule.all isScalar := by
  have number : (Repair.formatInt decision.sourceSequenceNumber).all isScalar := by
    rw [Repair.formatInt, if_neg (by have := writable.nonneg; omega), List.nil_append, List.all_map,
      List.all_eq_true]
    intro d digit
    have bounded := d.toNat_lt
    simp only [Function.comp, isScalar, isSurrogate, Bool.and_eq_true, decide_eq_true_eq,
      Bool.not_eq_true', Bool.and_eq_false_iff, decide_eq_false_iff_not]
    omega
  have paths := scalar_paths writable.paths
  have texts : (lit "=").all isScalar ∧ (lit "|sequences=").all isScalar ∧
      (lit "|attempts=1").all isScalar := by decide
  obtain ⟨equals, sequences, attempts⟩ := texts
  simp only [RepairDecision.rule, List.all_append, writable.topic.scalar, equals, paths, sequences,
    number, attempts, Bool.and_self]

theorem planFile_eq (writable : ∀ decision ∈ admitted decisions, Writable decision) :
    planFile decisions = some (planText decisions ++ [10]) :=
  encode_planLine
    (fun decision isDecision => scalar_rule (writable decision (mem_sortedAdmitted.mp isDecision)))
    fun decision isDecision =>
      utf8Bytes_rule (writable decision (mem_sortedAdmitted.mp isDecision)).nonneg

/-- The middleware reads from the policy text exactly the rules of the admitted decisions. -/
def repairFormat : PlanFormat (List RepairDecision) FleetRepairPlanRule where
  encode := planFile
  parse := parseFleetRepairPlan
  rules decisions := (sortedAdmitted decisions).map planRule
  text := planText
  nothing := []
  Clean decisions := ∀ decision ∈ admitted decisions, Writable decision
  encode_eq _ := planFile_eq
  solid _ writable c inside := (planLine_solid
    (fun decision isDecision => (writable decision (mem_sortedAdmitted.mp isDecision)).rule)
    c inside).1
  read _ writable := parsePlan_planLine
    (fun decision isDecision => (writable decision (mem_sortedAdmitted.mp isDecision)).rule)
    fun decision isDecision => (writable decision (mem_sortedAdmitted.mp isDecision)).parse
  rules_eq_nil _ writable := by
    rw [List.map_eq_nil_iff, planText, planLine_eq_nil fun decision isDecision =>
      (writable decision (mem_sortedAdmitted.mp isDecision)).rule.given]
  clean_nothing _ among := absurd among List.not_mem_nil
  rules_nothing := rfl

/-! ## Which rule a frame finds -/

/-- The decision is about the frame. -/
structure Serves (decision : RepairDecision) (frame : DataFrame) : Prop where
  topic : utf8Bytes decision.topic = frame.topic
  sequence : decision.sourceSequenceNumber = frame.sourceSequenceNumber.toNat

/-- A frame finds the rule of the admitted decision about it, the first by its publisher where
    there are several, and none where there is no such decision. -/
structure PlannedFor (decisions : List RepairDecision) (frame : DataFrame)
    (found : Option FleetRepairPlanRule) : Prop where
  none_ : found = none → ∀ decision ∈ admitted decisions, ¬Serves decision frame
  some_ : ∀ rule, found = some rule → ∃ decision ∈ admitted decisions, Serves decision frame ∧
    rule = planRule decision ∧
    ∀ other ∈ admitted decisions, Serves other frame → decision.publisherId ≤ other.publisherId

theorem planRule_serves {frame : DataFrame} (writable : Writable decision) :
    ((planRule decision).topic = frame.topic &&
      (planRule decision).admitsSequence frame.sourceSequenceNumber) = true ↔
      Serves decision frame := by
  have fits := writable.fits
  have nonneg := writable.nonneg
  have number : UInt64.ofNat decision.sourceSequenceNumber.toNat = frame.sourceSequenceNumber ↔
      decision.sourceSequenceNumber = frame.sourceSequenceNumber.toNat := by
    rw [← UInt64.toNat_inj, UInt64.toNat_ofNat_of_lt' (by change _ < 2 ^ 64; omega)]
    omega
  simp only [planRule, FleetRepairPlanRule.admitsSequence, List.isEmpty_cons, List.any_cons,
    List.any_nil, Bool.or_false, Bool.false_or, Bool.and_eq_true, decide_eq_true_eq, number]
  exact ⟨fun h => ⟨of_decide_eq_true h.1, h.2⟩, fun h => ⟨decide_eq_true h.topic, h.sequence⟩⟩

theorem plannedFor {A : Type} {settings : RepairSettings A} {frame : DataFrame}
    (writable : ∀ decision ∈ admitted decisions, Writable decision)
    (plan : settings.repairPathPlan = (sortedAdmitted decisions).map planRule) :
    PlannedFor decisions frame (settings.repairPlanRuleForFrame frame) := by
  have sorted : (sortedAdmitted decisions).Pairwise fun x y => x.planKey ≤ y.planKey :=
    List.pairwise_insertionSort _ _
  -- no topic of the plan is the one that stands for all
  have noWildcard : settings.repairPathPlan.find? (fun rule =>
      rule.topic = octets "*" && rule.admitsSequence frame.sourceSequenceNumber) = none := by
    rw [plan, List.find?_eq_none]
    intro rule isRule matches_
    obtain ⟨decision, isDecision, rfl⟩ := List.mem_map.mp isRule
    have all := writable decision (mem_sortedAdmitted.mp isDecision)
    exact all.topic.ne_wildcard all.noWildcard
      (of_decide_eq_true ((Bool.and_eq_true _ _).mp matches_).1)
  rw [RepairSettings.repairPlanRuleForFrame, noWildcard, Option.orElse_eq_orElse,
    Option.orElse_eq_or, Option.or_none, plan]
  constructor
  · intro missing decision isDecision serves
    rw [List.find?_eq_none] at missing
    have isRule : planRule decision ∈ (sortedAdmitted decisions).map planRule :=
      List.mem_map_of_mem (mem_sortedAdmitted.mpr isDecision)
    exact missing _ isRule ((planRule_serves (writable decision isDecision)).mpr serves)
  · intro rule found
    rw [List.find?_map, Option.map_eq_some_iff] at found
    obtain ⟨decision, found, rfl⟩ := found
    obtain ⟨matches_, before, behind, split, earlier⟩ := List.find?_eq_some_iff_append.mp found
    have among : decision ∈ sortedAdmitted decisions :=
      split ▸ List.mem_append_right _ List.mem_cons_self
    have isDecision := mem_sortedAdmitted.mp among
    have serves := (planRule_serves (writable decision isDecision)).mp matches_
    refine ⟨decision, isDecision, serves, rfl, fun other isOther serves' => ?_⟩
    have place := mem_sortedAdmitted.mpr isOther
    rw [split] at place sorted
    rcases List.mem_append.mp place with inFront | isHere
    · have passed := earlier other inFront
      have matches' := (planRule_serves (writable other isOther)).mpr serves'
      rw [Function.comp_apply, matches'] at passed
      cases passed
    · rcases List.mem_cons.mp isHere with rfl | later
      · exact le_refl _
      · have le : decision.planKey ≤ other.planKey :=
          (List.pairwise_cons.mp (List.pairwise_append.mp sorted).2.1).1 other later
        have sameTopic : decision.topic = other.topic :=
          utf8Bytes_inj (writable decision isDecision).topic.scalar
            (writable other isOther).topic.scalar (serves.topic.trans serves'.topic.symm)
        have sameSequence : decision.sourceSequenceNumber = other.sourceSequenceNumber :=
          serves.sequence.trans serves'.sequence.symm
        rw [RepairDecision.planKey, RepairDecision.planKey, sameTopic, sameSequence] at le
        have le := (Prod.Lex.toLex_le_toLex.mp le).resolve_left (lt_irrefl _)
        exact ((Prod.Lex.toLex_le_toLex.mp le.2).resolve_left (lt_irrefl _)).2

end

end FleetRMW.Rmw
