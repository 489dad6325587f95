import FleetRMW.Rmw.WildcardMatch
import Mathlib.Algebra.GroupWithZero.Nat

/-! # The security policy of topics

The governance file says for which domains and topics access is controlled, the permissions file
which rules the grant of an enclave has. Both decide by the first rule that applies; an endpoint
is admitted only where they leave no doubt.
-/

namespace FleetRMW.Rmw

open Lib

/-! ## The policies as they are parsed -/

structure Sros2DomainRange where
  minimum : UInt32 := 0
  maximum : UInt32 := 0
  deriving Repr, DecidableEq

structure Sros2AccessRule where
  allow : Bool := false
  domains : List Sros2DomainRange := []
  publishTopicExpressions : List Bytes := []
  subscribeTopicExpressions : List Bytes := []
  publishUnsupportedCriteria : Bool := false
  subscribeUnsupportedCriteria : Bool := false
  deriving Repr, DecidableEq

structure Sros2Grant where
  name : Bytes := []
  subjectName : Bytes := []
  notBeforeS : Int64 := 0
  notAfterS : Int64 := 0
  rules : List Sros2AccessRule := []
  defaultAllow : Bool := false
  deriving Repr, DecidableEq

structure Sros2PermissionsPolicy where
  configured : Bool := false
  valid : Bool := false
  grants : List Sros2Grant := []
  deriving Repr, DecidableEq

structure Sros2GovernanceTopicRule where
  topicExpression : Bytes := []
  enableReadAccessControl : Bool := false
  enableWriteAccessControl : Bool := false
  metadataProtectionKind : Bytes := []
  dataProtectionKind : Bytes := []
  deriving Repr, DecidableEq

structure Sros2GovernanceDomainRule where
  domains : List Sros2DomainRange := []
  allowUnauthenticatedParticipants : Bool := false
  enableJoinAccessControl : Bool := false
  discoveryProtectionKind : Bytes := []
  livelinessProtectionKind : Bytes := []
  rtpsProtectionKind : Bytes := []
  topicRules : List Sros2GovernanceTopicRule := []
  deriving Repr, DecidableEq

structure Sros2GovernancePolicy where
  configured : Bool := false
  valid : Bool := false
  domainRules : List Sros2GovernanceDomainRule := []
  deriving Repr, DecidableEq

inductive SecurityDecision where
  | notConfigured
  | allow
  | deny
  | invalid
  deriving Repr, DecidableEq

inductive Sros2Operation where
  | publish
  | subscribe
  deriving Repr, DecidableEq

inductive Sros2GovernanceDecision where
  | notConfigured
  | allowWithoutAccessControl
  | requireAccessControl
  | participantAuthenticationRequired
  | transportProtectionRequired
  | noMatchingRule
  | invalid
  deriving Repr, DecidableEq

/-! ## The decisions -/

/-- Domains behind the 32 bits of a range are in none. -/
def sros2DomainMatches (domains : List Sros2DomainRange) (domainId : UInt64) : Bool :=
  if domainId.toNat > 2 ^ 32 - 1 then false
  else domains.any fun range =>
    domainId.toUInt32 ≥ range.minimum && domainId.toUInt32 ≤ range.maximum

def noProtection : Bytes := octets "NONE"

namespace Sros2GovernanceDomainRule

def needsProtection (rule : Sros2GovernanceDomainRule) : Bool :=
  rule.discoveryProtectionKind ≠ noProtection || rule.livelinessProtectionKind ≠ noProtection ||
    rule.rtpsProtectionKind ≠ noProtection

end Sros2GovernanceDomainRule

namespace Sros2GovernanceTopicRule

def needsProtection (rule : Sros2GovernanceTopicRule) : Bool :=
  rule.metadataProtectionKind ≠ noProtection || rule.dataProtectionKind ≠ noProtection

def accessControlEnabled (rule : Sros2GovernanceTopicRule) : Sros2Operation → Bool
  | .publish => rule.enableWriteAccessControl
  | .subscribe => rule.enableReadAccessControl

end Sros2GovernanceTopicRule

def evaluateSros2GovernancePolicy (policy : Sros2GovernancePolicy)
    (permissions : Sros2PermissionsPolicy) (operation : Sros2Operation) (topicName : Bytes)
    (domainId : UInt64) : Sros2GovernanceDecision :=
  if !policy.configured then .notConfigured
  else if !policy.valid then .invalid
  else
    match policy.domainRules.find? fun rule => sros2DomainMatches rule.domains domainId with
    | none => .noMatchingRule
    | some domainRule =>
        if domainRule.needsProtection then .transportProtectionRequired
        else if !domainRule.allowUnauthenticatedParticipants then
          .participantAuthenticationRequired
        else if domainRule.enableJoinAccessControl &&
            (!permissions.configured || !permissions.valid) then .invalid
        else
          match domainRule.topicRules.find? fun rule =>
              sros2TopicMatches rule.topicExpression topicName with
          | none => .noMatchingRule
          | some topicRule =>
              if topicRule.needsProtection then .transportProtectionRequired
              else if topicRule.accessControlEnabled operation then .requireAccessControl
              else .allowWithoutAccessControl

def sros2GrantMatches (grant : Sros2Grant) (enclave : Bytes) : Bool :=
  grant.name = enclave || grant.subjectName = octets "CN=" ++ enclave

namespace Sros2AccessRule

def topicExpressions (rule : Sros2AccessRule) : Sros2Operation → List Bytes
  | .publish => rule.publishTopicExpressions
  | .subscribe => rule.subscribeTopicExpressions

def unsupportedCriteria (rule : Sros2AccessRule) : Sros2Operation → Bool
  | .publish => rule.publishUnsupportedCriteria
  | .subscribe => rule.subscribeUnsupportedCriteria

end Sros2AccessRule

/-- The loop over the rules of a grant. -/
def evaluateRules (operation : Sros2Operation) (topicName : Bytes) (domainId : UInt64)
    (defaultAllow : Bool) : List Sros2AccessRule → SecurityDecision
  | [] => if defaultAllow then .allow else .deny
  | rule :: rest =>
      if !sros2DomainMatches rule.domains domainId then
        evaluateRules operation topicName domainId defaultAllow rest
      else if !(rule.topicExpressions operation).any fun expression =>
          sros2TopicMatches expression topicName then
        evaluateRules operation topicName domainId defaultAllow rest
      else if rule.unsupportedCriteria operation && rule.allow then
        evaluateRules operation topicName domainId defaultAllow rest
      else if rule.allow then .allow else .deny

def evaluateSros2PermissionsPolicy (policy : Sros2PermissionsPolicy) (nowS : Int64)
    (operation : Sros2Operation) (topicName enclave : Bytes) (domainId : UInt64) :
    SecurityDecision :=
  if !policy.configured then .notConfigured
  else if !policy.valid then .invalid
  else
    match policy.grants.find? fun grant => sros2GrantMatches grant enclave with
    | none => .deny
    | some grant =>
        if nowS < grant.notBeforeS || nowS > grant.notAfterS then .deny
        else evaluateRules operation topicName domainId grant.defaultAllow grant.rules

def evaluateSros2TopicPolicy (governance : Sros2GovernancePolicy)
    (permissions : Sros2PermissionsPolicy) (nowS : Int64) (operation : Sros2Operation)
    (topicName enclave : Bytes) (domainId : UInt64) : SecurityDecision :=
  match evaluateSros2GovernancePolicy governance permissions operation topicName domainId with
  | .invalid => .invalid
  | .participantAuthenticationRequired => .deny
  | .transportProtectionRequired => .deny
  | .noMatchingRule => .deny
  | .allowWithoutAccessControl => .allow
  | .requireAccessControl =>
      if evaluateSros2PermissionsPolicy permissions nowS operation topicName enclave domainId =
          .notConfigured then .deny
      else evaluateSros2PermissionsPolicy permissions nowS operation topicName enclave domainId
  | .notConfigured =>
      evaluateSros2PermissionsPolicy permissions nowS operation topicName enclave domainId

/-! ## What an admission rests on -/

/-- The first element that meets the condition. -/
def IsFirst {α : Type*} (meets : α → Prop) (items : List α) (item : α) : Prop :=
  meets item ∧ ∃ before after, items = before ++ item :: after ∧ ∀ other ∈ before, ¬meets other

/-- The rule speaks about the topic in the domain. One with criteria that are not supported is left
    out where it allows. -/
def Sros2AccessRule.Applies (operation : Sros2Operation) (topicName : Bytes) (domainId : UInt64)
    (rule : Sros2AccessRule) : Prop :=
  sros2DomainMatches rule.domains domainId = true ∧
    (∃ expression ∈ rule.topicExpressions operation,
      sros2TopicMatches expression topicName = true) ∧
    (rule.unsupportedCriteria operation = true → rule.allow = false)

/-- The first rule that applies allows, or none applies and the default does. -/
def Sros2Grant.Allows (operation : Sros2Operation) (topicName : Bytes) (domainId : UInt64)
    (grant : Sros2Grant) : Prop :=
  (∃ rule, IsFirst (Sros2AccessRule.Applies operation topicName domainId) grant.rules rule ∧
      rule.allow = true) ∨
    (∀ rule ∈ grant.rules, ¬rule.Applies operation topicName domainId) ∧
      grant.defaultAllow = true

/-- A valid permissions file whose first grant for the enclave is in date and allows. -/
def Sros2PermissionsPolicy.Allows (nowS : Int64) (operation : Sros2Operation)
    (topicName enclave : Bytes) (domainId : UInt64) (policy : Sros2PermissionsPolicy) : Prop :=
  policy.configured = true ∧ policy.valid = true ∧
    ∃ grant, IsFirst (fun grant => sros2GrantMatches grant enclave = true) policy.grants grant ∧
      grant.notBeforeS ≤ nowS ∧ nowS ≤ grant.notAfterS ∧ grant.Allows operation topicName domainId

/-- A valid governance file whose first rules for the domain and the topic need no protection, no
    authentication and no access control. -/
def Sros2GovernancePolicy.Opens (operation : Sros2Operation) (topicName : Bytes)
    (domainId : UInt64) (policy : Sros2GovernancePolicy) : Prop :=
  policy.configured = true ∧ policy.valid = true ∧
    ∃ domainRule topicRule,
      IsFirst (fun rule => sros2DomainMatches rule.domains domainId = true) policy.domainRules
        domainRule ∧
      IsFirst (fun rule => sros2TopicMatches rule.topicExpression topicName = true)
        domainRule.topicRules topicRule ∧
      domainRule.needsProtection = false ∧ domainRule.allowUnauthenticatedParticipants = true ∧
      topicRule.needsProtection = false ∧ topicRule.accessControlEnabled operation = false

/-- A rule that denies is put somewhere among the rules of a grant. -/
def DenyInserted (policy changed : Sros2PermissionsPolicy) : Prop :=
  ∃ (before : List Sros2Grant) (grant : Sros2Grant) (after : List Sros2Grant)
    (front : List Sros2AccessRule) (rule : Sros2AccessRule) (back : List Sros2AccessRule),
    rule.allow = false ∧ policy.grants = before ++ grant :: after ∧ grant.rules = front ++ back ∧
      changed =
        { policy with grants := before ++ { grant with rules := front ++ rule :: back } :: after }

/-! ## First rules -/

section
variable {α : Type*} {meets : α → Prop} {x item : α} {items : List α}

theorem isFirst_cons : IsFirst meets (x :: items) item ↔
    meets x ∧ item = x ∨ ¬meets x ∧ IsFirst meets items item := by
  constructor
  · intro isFirst
    obtain ⟨here, before, after, same, others⟩ := isFirst
    cases before with
    | nil =>
        obtain ⟨rfl, -⟩ := List.cons.inj same
        exact .inl ⟨here, rfl⟩
    | cons y before =>
        obtain ⟨rfl, rest⟩ := List.cons.inj same
        refine .inr ⟨others x List.mem_cons_self, here, before, after, rest, ?_⟩
        intro other among
        exact others other (List.mem_cons_of_mem _ among)
  · intro either
    cases either with
    | inl first =>
        obtain ⟨here, rfl⟩ := first
        exact ⟨here, [], items, rfl, fun other among => absurd among List.not_mem_nil⟩
    | inr later =>
        obtain ⟨notHere, meets_, before, after, rfl, others⟩ := later
        exact ⟨meets_, x :: before, after, rfl, List.forall_mem_cons.mpr ⟨notHere, others⟩⟩

theorem isFirst_of_find? {found : α → Bool} (isFound : items.find? found = some item) :
    IsFirst (fun item => found item = true) items item := by
  obtain ⟨here, before, after, same, others⟩ := List.find?_eq_some_iff_append.mp isFound
  refine ⟨here, before, after, same, ?_⟩
  intro other among meets_
  have fails := others other among
  rw [meets_] at fails
  cases fails

end

/-! ## The rules of a grant -/

section
variable {operation : Sros2Operation} {topicName enclave : Bytes} {domainId : UInt64}
  {nowS : Int64} {defaultAllow : Bool} {rule : Sros2AccessRule}
  {rules front back : List Sros2AccessRule}

theorem applies_iff : rule.Applies operation topicName domainId ↔
    sros2DomainMatches rule.domains domainId = true ∧
      ((rule.topicExpressions operation).any fun expression =>
        sros2TopicMatches expression topicName) = true ∧
      (rule.unsupportedCriteria operation && rule.allow) = false := by
  unfold Sros2AccessRule.Applies
  rw [List.any_eq_true]
  cases rule.unsupportedCriteria operation <;> simp

theorem evaluateRules_of_applies (applies : rule.Applies operation topicName domainId) :
    evaluateRules operation topicName domainId defaultAllow (rule :: rules) =
      if rule.allow then .allow else .deny := by
  obtain ⟨domain, topic, supported⟩ := applies_iff.mp applies
  unfold evaluateRules
  rw [domain, topic, supported]
  rfl

theorem evaluateRules_of_not_applies (other : ¬rule.Applies operation topicName domainId) :
    evaluateRules operation topicName domainId defaultAllow (rule :: rules) =
      evaluateRules operation topicName domainId defaultAllow rules := by
  rw [applies_iff] at other
  rw [evaluateRules]
  split
  case isTrue => rfl
  case isFalse domain =>
    split
    case isTrue => rfl
    case isFalse topic =>
      rw [Bool.not_eq_true', Bool.not_eq_false] at domain topic
      split
      case isTrue => rfl
      case isFalse supported => exact absurd ⟨domain, topic, Bool.not_eq_true _ ▸ supported⟩ other

theorem evaluateRules_eq_allow_iff {grant : Sros2Grant} :
    evaluateRules operation topicName domainId grant.defaultAllow grant.rules = .allow ↔
      grant.Allows operation topicName domainId := by
  unfold Sros2Grant.Allows
  generalize grant.rules = rules
  induction rules with
  | nil =>
      have none_ : ¬∃ rule, IsFirst (Sros2AccessRule.Applies operation topicName domainId) [] rule ∧
          rule.allow = true := by
        rintro ⟨rule, ⟨-, before, after, same, -⟩, -⟩
        exact List.cons_ne_nil _ _ (List.append_eq_nil_iff.mp same.symm).2
      rw [or_iff_right none_, evaluateRules]
      cases grant.defaultAllow <;> simp
  | cons rule rules ih =>
      simp only [isFirst_cons, List.forall_mem_cons]
      by_cases applies : rule.Applies operation topicName domainId
      · rw [evaluateRules_of_applies applies]
        cases allow : rule.allow <;> simp [applies, allow]
      · rw [evaluateRules_of_not_applies applies, ih]
        simp [applies]

/-- A rule that denies takes no admission away from the rules behind it and gives none. -/
theorem evaluateRules_insert_deny (denies : rule.allow = false)
    (allowed : evaluateRules operation topicName domainId defaultAllow (front ++ rule :: back) =
      .allow) :
    evaluateRules operation topicName domainId defaultAllow (front ++ back) = .allow := by
  induction front with
  | nil =>
      by_cases applies : rule.Applies operation topicName domainId
      · rw [List.nil_append, evaluateRules_of_applies applies, denies] at allowed
        cases allowed
      · rwa [List.nil_append, evaluateRules_of_not_applies applies] at allowed
  | cons first front ih =>
      rw [List.cons_append] at allowed ⊢
      by_cases applies : first.Applies operation topicName domainId
      · rw [evaluateRules_of_applies applies] at allowed ⊢
        exact allowed
      · rw [evaluateRules_of_not_applies applies] at allowed ⊢
        exact ih allowed

/-! ## The two files -/

theorem evaluateSros2GovernancePolicy_opens {governance : Sros2GovernancePolicy}
    {permissions : Sros2PermissionsPolicy}
    (opens : evaluateSros2GovernancePolicy governance permissions operation topicName domainId =
      .allowWithoutAccessControl) : governance.Opens operation topicName domainId := by
  unfold evaluateSros2GovernancePolicy at opens
  split at opens
  case isTrue => cases opens
  case isFalse configured =>
    split at opens
    case isTrue => cases opens
    case isFalse valid =>
      rw [Bool.not_eq_true', Bool.not_eq_false] at configured valid
      split at opens
      case h_1 => cases opens
      case h_2 domainRule isDomainRule =>
        split at opens
        case isTrue => cases opens
        case isFalse noProtection =>
          split at opens
          case isTrue => cases opens
          case isFalse authenticated =>
            split at opens
            case isTrue => cases opens
            case isFalse =>
              split at opens
              case h_1 => cases opens
              case h_2 topicRule isTopicRule =>
                split at opens
                case isTrue => cases opens
                case isFalse noTopicProtection =>
                  split at opens
                  case isTrue => cases opens
                  case isFalse noControl =>
                    rw [Bool.not_eq_true', Bool.not_eq_false] at authenticated
                    rw [Bool.not_eq_true] at noProtection noTopicProtection noControl
                    exact ⟨configured, valid, domainRule, topicRule,
                      isFirst_of_find? isDomainRule, isFirst_of_find? isTopicRule, noProtection,
                      authenticated, noTopicProtection, noControl⟩

theorem evaluateSros2PermissionsPolicy_allows {permissions : Sros2PermissionsPolicy}
    (allowed : evaluateSros2PermissionsPolicy permissions nowS operation topicName enclave domainId =
      .allow) : permissions.Allows nowS operation topicName enclave domainId := by
  unfold evaluateSros2PermissionsPolicy at allowed
  split at allowed
  case isTrue => cases allowed
  case isFalse configured =>
    split at allowed
    case isTrue => cases allowed
    case isFalse valid =>
      rw [Bool.not_eq_true', Bool.not_eq_false] at configured valid
      split at allowed
      case h_1 => cases allowed
      case h_2 grant isGrant =>
        split at allowed
        case isTrue => cases allowed
        case isFalse inDate =>
          have dates : grant.notBeforeS ≤ nowS ∧ nowS ≤ grant.notAfterS := by
            simpa [Int64.not_lt] using inDate
          exact ⟨configured, valid, grant, isFirst_of_find? isGrant, dates.1, dates.2,
            evaluateRules_eq_allow_iff.mp allowed⟩

/-- The rule is found among those of the grant that is looked at, or it changes nothing. -/
theorem evaluateSros2PermissionsPolicy_insert_deny {policy changed : Sros2PermissionsPolicy}
    (inserted : DenyInserted policy changed)
    (allowed : evaluateSros2PermissionsPolicy changed nowS operation topicName enclave domainId =
      .allow) :
    evaluateSros2PermissionsPolicy policy nowS operation topicName enclave domainId = .allow := by
  obtain ⟨before, grant, after, front, rule, back, denies, grants, rules, rfl⟩ := inserted
  unfold evaluateSros2PermissionsPolicy at allowed ⊢
  rw [grants]
  split at allowed
  case isTrue => cases allowed
  case isFalse configured =>
    split at allowed
    case isTrue => cases allowed
    case isFalse valid =>
      rw [if_neg configured, if_neg valid]
      rw [List.find?_append, List.find?_cons] at allowed ⊢
      cases earlier : before.find? fun grant => sros2GrantMatches grant enclave with
      | some first =>
          rw [earlier] at allowed
          exact allowed
      | none =>
          rw [earlier] at allowed
          have matches_ : ∀ rules, sros2GrantMatches { grant with rules := rules } enclave =
              sros2GrantMatches grant enclave := fun _ => rfl
          rw [matches_] at allowed
          cases found : sros2GrantMatches grant enclave with
          | false =>
              rw [found] at allowed
              exact allowed
          | true =>
              rw [found] at allowed
              dsimp only [Option.none_or] at allowed ⊢
              split at allowed
              case isTrue => cases allowed
              case isFalse inDate =>
                rw [if_neg inDate, rules]
                exact evaluateRules_insert_deny denies allowed

theorem DenyInserted.governance {policy changed : Sros2PermissionsPolicy}
    (inserted : DenyInserted policy changed) (governance : Sros2GovernancePolicy) :
    evaluateSros2GovernancePolicy governance changed operation topicName domainId =
      evaluateSros2GovernancePolicy governance policy operation topicName domainId := by
  obtain ⟨_, _, _, _, _, _, _, _, _, rfl⟩ := inserted
  rfl

end

/-! ## The gate -/

/-- A topic is allowed only where the governance file opens it or the permissions file allows it,
    and no rule that denies, wherever it is put into a grant, lets anything through. -/
theorem topic_gate_fails_closed (governance : Sros2GovernancePolicy)
    (permissions : Sros2PermissionsPolicy) (nowS : Int64) (operation : Sros2Operation)
    (topicName enclave : Bytes) (domainId : UInt64) :
    (evaluateSros2TopicPolicy governance permissions nowS operation topicName enclave domainId =
        .allow →
      governance.Opens operation topicName domainId ∨
        permissions.Allows nowS operation topicName enclave domainId) ∧
    ∀ changed, DenyInserted permissions changed →
      evaluateSros2TopicPolicy governance permissions nowS operation topicName enclave domainId ≠
        .allow →
      evaluateSros2TopicPolicy governance changed nowS operation topicName enclave domainId ≠
        .allow := by
  constructor
  · intro allowed
    unfold evaluateSros2TopicPolicy at allowed
    split at allowed
    case h_5 opens => exact .inl (evaluateSros2GovernancePolicy_opens opens)
    case h_6 =>
      split at allowed
      case isTrue => cases allowed
      case isFalse => exact .inr (evaluateSros2PermissionsPolicy_allows allowed)
    case h_7 => exact .inr (evaluateSros2PermissionsPolicy_allows allowed)
    all_goals cases allowed
  · intro changed inserted refused allowed
    apply refused
    unfold evaluateSros2TopicPolicy at allowed ⊢
    rw [inserted.governance] at allowed
    split at allowed
    case h_5 => rfl
    case h_6 =>
      split at allowed
      case isTrue => cases allowed
      case isFalse =>
        rw [evaluateSros2PermissionsPolicy_insert_deny inserted allowed]
        rfl
    case h_7 => exact evaluateSros2PermissionsPolicy_insert_deny inserted allowed
    all_goals cases allowed

end FleetRMW.Rmw
