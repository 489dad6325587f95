import FleetRMW.Lib.Lines
import FleetRMW.Lib.Utf8
import FleetRMW.Rmw.StreamKeys

/-! # Plan files

A planner writes a plan to a file as one line of rules. The middleware looks at the file before it
uses the plan, and parses the text unless it has done so before. A text without a rule does not
take the plan in force back.
-/

namespace FleetRMW.Rmw

open Lib

/-! ## Parsing -/

/-- What `c_str()` gives of a text. -/
def cString (text : Bytes) : Bytes := text.takeWhile fun c => c ≠ 0

/-- A name and a value, both given, on the two sides of the first `=`. -/
def assignment (text : Bytes) : Option (Bytes × Bytes) :=
  (cut 61 text).filter fun sides => sides.1 ≠ [] ∧ sides.2 ≠ []

/-- `parse_fleet_path_plan` and `parse_fleet_repair_plan` read their rules one by one. -/
def parsePlan {ρ : Type} (parseRule : Bytes → Option ρ) (plan : Bytes) : List ρ :=
  if plan = [] then [] else (splitNonempty plan 59).filterMap parseRule

/-- The plan and the text that it was parsed from. -/
structure PlanReader (ρ : Type) where
  plan : List ρ := []
  contents : Bytes := []

/-- `refresh_fleet_path_plan_from_file` and `refresh_repair_path_plan_from_file`, where `none`
    stands for a file that cannot be opened. -/
def PlanReader.refresh {ρ : Type} (parse : Bytes → List ρ) (reader : PlanReader ρ)
    (file : Option Bytes) : PlanReader ρ :=
  match file with
  | none => reader
  | some buffer =>
      let planText := trimCopy buffer
      if planText = [] ∧ reader.contents ≠ [] then reader
      else if planText = reader.contents then reader
      else { plan := parse (cString planText), contents := planText }

/-! ## Names in a plan -/

/-- The octets that mean something in a plan. -/
def isPlanMark (c : UInt8) : Bool :=
  isSpace c || c == 0 || c == 43 || c == 59 || c == 61 || c == 124

/-- A name that stands in a plan unchanged. -/
structure PlanName (name : Str) : Prop where
  given : name ≠ []
  scalar : name.all isScalar
  plain : ∀ c ∈ name, c < 128 → isPlanMark (UInt8.ofNat c) = false

instance (name : Str) : Decidable (PlanName name) :=
  decidable_of_iff (name ≠ [] ∧ name.all isScalar ∧
      ∀ c ∈ name, c < 128 → isPlanMark (UInt8.ofNat c) = false)
    ⟨fun h => ⟨h.1, h.2.1, h.2.2⟩, fun h => ⟨h.given, h.scalar, h.plain⟩⟩

/-- The same of the octets. -/
structure PlainName (name : Bytes) : Prop where
  given : name ≠ []
  plain : ∀ c ∈ name, isPlanMark c = false

variable {text : Bytes} {b c : UInt8} {s : Str}

theorem ne_of_plain {mark : UInt8} (plain : isPlanMark c = false) (isMark : isPlanMark mark) :
    c ≠ mark := by
  intro same
  rw [same, isMark] at plain
  cases plain

theorem isSpace_of_plain (plain : isPlanMark c = false) : isSpace c = false := by
  simp only [isPlanMark, Bool.or_eq_false_iff] at plain
  exact plain.1.1.1.1.1

theorem toNat_of_mark (mark : isPlanMark c) : c.toNat ≤ 13 ∨ c.toNat = 32 ∨ c.toNat = 43 ∨
    c.toNat = 59 ∨ c.toNat = 61 ∨ c.toNat = 124 := by
  simp only [isPlanMark, isSpace, Bool.or_eq_true, beq_iff_eq, Bool.and_eq_true,
    decide_eq_true_eq] at mark
  rcases mark with (((((rfl | ⟨_, small⟩) | rfl) | rfl) | rfl) | rfl) | rfl
  case inl.inl.inl.inl.inl.inr => exact .inl (UInt8.le_iff_toNat_le.mp small)
  all_goals decide

theorem plain_of_high (high : 128 ≤ c.toNat) : isPlanMark c = false := by
  rw [← Bool.not_eq_true]
  intro mark
  have cases := toNat_of_mark mark
  omega

theorem plain_of_isDecimal (digit : isDecimal c) : isPlanMark c = false := by
  rw [← Bool.not_eq_true]
  intro mark
  obtain ⟨low, high⟩ := (Bool.and_eq_true _ _).mp digit
  have low : 48 ≤ c.toNat := UInt8.le_iff_toNat_le.mp (of_decide_eq_true low)
  have high : c.toNat ≤ 57 := UInt8.le_iff_toNat_le.mp (of_decide_eq_true high)
  have cases := toNat_of_mark mark
  omega

theorem PlanName.bytes (name : PlanName s) : PlainName (utf8Bytes s) where
  given := by
    obtain ⟨n, rest, rfl⟩ := List.exists_cons_of_ne_nil name.given
    unfold utf8Bytes utf8Octets
    rw [List.flatMap_cons]
    split_ifs <;> exact List.cons_ne_nil _ _
  plain c among := by
    obtain ⟨n, isChar, octet⟩ := List.mem_flatMap.mp among
    rcases utf8Octets_cases (List.all_eq_true.mp name.scalar n isChar) octet with
      ⟨ascii, rfl⟩ | high
    · exact name.plain n isChar ascii
    · exact plain_of_high high

theorem PlanName.bytes_all {names : List Str} (all : ∀ name ∈ names, PlanName name) :
    ∀ name ∈ names.map utf8Bytes, PlainName name := by
  intro name among
  obtain ⟨s, isName, rfl⟩ := List.mem_map.mp among
  exact (all s isName).bytes

/-- Only the topic that stands for all is written as it is. -/
theorem PlanName.ne_wildcard (name : PlanName s) (other : s ≠ lit "*") :
    utf8Bytes s ≠ octets "*" := by
  intro same
  have wildcard : octets "*" = utf8Bytes (lit "*") := by decide
  exact other (utf8Bytes_inj name.scalar (by decide) (same.trans wildcard))

/-! ## Texts without blanks -/

theorem trimCopy_of_solid (solid : ∀ c ∈ text, isSpace c = false) : trimCopy text = text :=
  trimCopy_eq_self ⟨fun c first => solid c (List.mem_of_head? first),
    fun c last => solid c (List.mem_of_getLast? last)⟩

theorem trimCopy_line (solid : ∀ c ∈ text, isSpace c = false) : trimCopy (text ++ [10]) = text := by
  cases text with
  | nil => decide
  | cons c rest =>
      have first : (c :: rest ++ [10]).dropWhile isSpace = c :: rest ++ [10] := by
        rw [List.cons_append, List.dropWhile_cons_of_neg]
        rw [solid c List.mem_cons_self]
        decide
      rw [trimCopy, first, List.rdropWhile_concat_pos _ _ _ (by decide)]
      have whole := trimCopy_of_solid solid
      rwa [trimCopy, List.dropWhile_cons_of_neg] at whole
      rw [solid c List.mem_cons_self]
      decide

theorem cString_of_notMem (noNul : 0 ∉ text) : cString text = text := by
  rw [cString, List.takeWhile_eq_self_iff]
  intro c among
  exact decide_eq_true fun zero => noNul (zero ▸ among)

/-- What is written with a delimiter between the items is split into them. -/
theorem splitNonempty_intercalate {items : List Bytes} (given : ∀ item ∈ items, item ≠ [])
    (plain : ∀ item ∈ items, b ∉ item) (solid : ∀ item ∈ items, ∀ c ∈ item, isSpace c = false) :
    splitNonempty ([b].intercalate items) b = items := by
  by_cases some_ : items = []
  case pos =>
    rw [some_]
    rfl
  case neg =>
    have trimmed : items.map trimCopy = items := by
      rw [List.map_congr_left fun item among => trimCopy_of_solid (solid item among), List.map_id']
    rw [splitNonempty, List.splitOn_intercalate _ plain some_, trimmed, List.filter_eq_self]
    exact fun item among => decide_eq_true (given item among)

theorem assignment_append {key value : Bytes} (noMark : 61 ∉ key) (key_ : key ≠ [])
    (value_ : value ≠ []) : assignment (key ++ 61 :: value) = some (key, value) := by
  rw [assignment, cut_append noMark, Option.filter_some, if_pos]
  exact decide_eq_true ⟨key_, value_⟩

/-! ## Texts of rules -/

/-- A topic and its paths. -/
def routeText (topic : Bytes) (paths : List Bytes) : Bytes := topic ++ 61 :: [43].intercalate paths

section
variable {topic : Bytes} {paths : List Bytes}

theorem routeText_ne_nil : routeText topic paths ≠ [] :=
  List.append_ne_nil_of_right_ne_nil _ (List.cons_ne_nil _ _)

theorem routeText_marks (name : PlainName topic) (names : ∀ path ∈ paths, PlainName path) :
    ∀ c ∈ routeText topic paths, isPlanMark c = false ∨ c = 43 ∨ c = 61 := by
  intro c among
  rcases List.mem_append.mp among with inTopic | behind
  · exact .inl (name.plain c inTopic)
  · rcases List.mem_cons.mp behind with rfl | inPaths
    · exact .inr (.inr rfl)
    · rcases mem_of_mem_intercalate inPaths with rfl | ⟨path, isPath, inside⟩
      · exact .inr (.inl rfl)
      · exact .inl ((names path isPath).plain c inside)

theorem splitNonempty_paths (names : ∀ path ∈ paths, PlainName path) :
    splitNonempty ([43].intercalate paths) 43 = paths :=
  splitNonempty_intercalate (fun path isPath => (names path isPath).given)
    (fun path isPath plus => ne_of_plain ((names path isPath).plain 43 plus) rfl rfl)
    fun path isPath c inside => isSpace_of_plain ((names path isPath).plain c inside)

theorem PlainName.trimmed (name : PlainName topic) : trimCopy topic = topic :=
  trimCopy_of_solid fun c inside => isSpace_of_plain (name.plain c inside)

theorem assignment_routeText (name : PlainName topic) (some_ : paths ≠ [])
    (names : ∀ path ∈ paths, PlainName path) :
    assignment (routeText topic paths) = some (topic, [43].intercalate paths) := by
  have list : [43].intercalate paths ≠ [] := by
    intro nothing
    have pathIds := splitNonempty_paths names
    rw [nothing] at pathIds
    exact some_ pathIds.symm
  exact assignment_append (fun equals => ne_of_plain (name.plain 61 equals) rfl rfl) name.given list

end

/-- A text of one rule: no mark is in it but those between its parts. -/
structure RuleText (text : Bytes) : Prop where
  given : text ≠ []
  marks : ∀ c ∈ text, isPlanMark c = false ∨ c = 43 ∨ c = 61 ∨ c = 124

theorem RuleText.solid (rule : RuleText text) (inside : c ∈ text) :
    isSpace c = false ∧ c ≠ 0 ∧ c ≠ 59 := by
  rcases rule.marks c inside with plain | rfl | rfl | rfl
  · exact ⟨isSpace_of_plain plain, ne_of_plain plain rfl, ne_of_plain plain rfl⟩
  all_goals decide

/-- The rules of a plan, with a semicolon between them. -/
def planLine {α : Type} (ruleText : α → Bytes) (items : List α) : Bytes :=
  [59].intercalate (items.map ruleText)

section
variable {α ρ : Type} {ruleText : α → Bytes} {items : List α}

theorem planLine_eq_nil (rules : ∀ x ∈ items, ruleText x ≠ []) :
    planLine ruleText items = [] ↔ items = [] := by
  cases items with
  | nil => exact ⟨fun _ => rfl, fun _ => rfl⟩
  | cons x rest =>
      refine ⟨fun nothing => ?_, nofun⟩
      have given := rules x List.mem_cons_self
      cases rest with
      | nil =>
          rw [planLine, List.map_cons, List.map_nil, List.intercalate_singleton] at nothing
          exact absurd nothing given
      | cons next rest =>
          rw [planLine, List.map_cons, List.map_cons, List.intercalate_cons_cons,
            List.append_assoc] at nothing
          exact absurd (List.append_eq_nil_iff.mp nothing).1 given

theorem planLine_solid (rules : ∀ x ∈ items, RuleText (ruleText x)) :
    ∀ c ∈ planLine ruleText items, isSpace c = false ∧ c ≠ 0 := by
  intro c among
  rcases mem_of_mem_intercalate among with rfl | ⟨rule, isRule, inside⟩
  · decide
  · obtain ⟨x, isItem, rfl⟩ := List.mem_map.mp isRule
    exact ⟨((rules x isItem).solid inside).1, ((rules x isItem).solid inside).2.1⟩

/-- A plan is read as it was written if each of its rules is. -/
theorem parsePlan_planLine {parseRule : Bytes → Option ρ} {rule : α → ρ}
    (rules : ∀ x ∈ items, RuleText (ruleText x))
    (read : ∀ x ∈ items, parseRule (ruleText x) = some (rule x)) :
    parsePlan parseRule (cString (planLine ruleText items)) = items.map rule := by
  have each : ∀ text ∈ items.map ruleText, RuleText text := by
    intro text isRule
    obtain ⟨x, isItem, rfl⟩ := List.mem_map.mp isRule
    exact rules x isItem
  have pieces : splitNonempty (planLine ruleText items) 59 = items.map ruleText :=
    splitNonempty_intercalate (fun text isRule => (each text isRule).given)
      (fun text isRule mark => ((each text isRule).solid mark).2.2 rfl)
      fun text isRule c inside => ((each text isRule).solid inside).1
  rw [cString_of_notMem fun nul => (planLine_solid rules 0 nul).2 rfl, parsePlan]
  split
  case isTrue nothing =>
    rw [(planLine_eq_nil fun x isItem => (rules x isItem).given).mp nothing]
    rfl
  case isFalse =>
    rw [pieces, List.filterMap_map]
    exact (List.filterMap_congr read).trans (congrFun List.filterMap_eq_map _)

end

/-! ## Encoded plans -/

theorem scalar_paths {paths : List Str} (names : ∀ path ∈ paths, PlanName path) :
    ((lit "+").intercalate paths).all isScalar := by
  rw [List.all_eq_true]
  intro c among
  rcases mem_of_mem_intercalate among with rfl | ⟨path, isPath, inside⟩
  · decide
  · exact List.all_eq_true.mp (names path isPath).scalar c inside

theorem utf8Bytes_paths (paths : List Str) :
    utf8Bytes ((lit "+").intercalate paths) = [43].intercalate (paths.map utf8Bytes) :=
  utf8Bytes_intercalate (lit "+") paths

/-- The octets of a line of rules, from those of the rules. -/
theorem encode_planLine {α : Type} {items : List α} {rule : α → Str} {ruleText : α → Bytes}
    (scalar : ∀ x ∈ items, (rule x).all isScalar)
    (same : ∀ x ∈ items, utf8Bytes (rule x) = ruleText x) :
    utf8Encode ((lit ";").intercalate (items.map rule) ++ [10]) =
      some (planLine ruleText items ++ [10]) := by
  have scalars : ((lit ";").intercalate (items.map rule) ++ [10]).all isScalar := by
    rw [List.all_append, Bool.and_eq_true]
    refine ⟨List.all_eq_true.mpr fun c among => ?_, by decide⟩
    rcases mem_of_mem_intercalate among with rfl | ⟨text, isRule, inside⟩
    · decide
    · obtain ⟨x, isItem, rfl⟩ := List.mem_map.mp isRule
      exact List.all_eq_true.mp (scalar x isItem) c inside
  have rules : (items.map rule).map utf8Bytes = items.map ruleText := by
    rw [List.map_map]
    exact List.map_congr_left same
  have separator : utf8Bytes (lit ";") = [59] := by decide
  rw [utf8Encode, if_pos scalars]
  change some (utf8Bytes ((lit ";").intercalate (items.map rule) ++ [10])) = _
  rw [utf8Bytes_append, utf8Bytes_intercalate, rules, separator]
  rfl

/-! ## Formats -/

/-- How plans are written and parsed, and the plans that are read as they were written. -/
structure PlanFormat (σ ρ : Type) where
  /-- What is written to the file, where it has an encoding. -/
  encode : σ → Option Bytes
  parse : Bytes → List ρ
  rules : σ → List ρ
  text : σ → Bytes
  nothing : σ
  Clean : σ → Prop
  encode_eq : ∀ x, Clean x → encode x = some (text x ++ [10])
  solid : ∀ x, Clean x → ∀ c ∈ text x, isSpace c = false
  read : ∀ x, Clean x → parse (cString (text x)) = rules x
  rules_eq_nil : ∀ x, Clean x → (rules x = [] ↔ text x = [])
  clean_nothing : Clean nothing
  rules_nothing : rules nothing = []

/-- The file, and what the middleware has read of it. -/
structure PlanHost (ρ : Type) where
  file : Option Bytes := none
  reader : PlanReader ρ := {}

/-- The plan that was written last, and the one in force: the last with a rule that was found in
    the file. -/
structure InForce (σ : Type) where
  written : σ
  enforced : σ

namespace PlanFormat

variable {σ ρ : Type} (F : PlanFormat σ ρ)

/-- A text without an encoding leaves an empty file. -/
def write (s : PlanHost ρ) (x : σ) : PlanHost ρ := { s with file := some ((F.encode x).getD []) }

def look (s : PlanHost ρ) : PlanHost ρ := { s with reader := s.reader.refresh F.parse s.file }

/-- The middleware looks at the file when it starts. No plan is given in its environment. -/
def start (initial : Option σ) : PlanHost ρ :=
  F.look { file := initial.map fun x => (F.encode x).getD [] }

def found (s : InForce σ) : InForce σ :=
  if F.rules s.written = [] then s else { s with enforced := s.written }

def begun (initial : Option σ) : InForce σ :=
  F.found { written := initial.getD F.nothing, enforced := F.nothing }

/-- The middleware has the plan in force. -/
structure Enforces (s : PlanHost ρ) (force : InForce σ) : Prop where
  file : s.file = none ∧ force.written = F.nothing ∨
    s.file = some (F.text force.written ++ [10])
  contents : s.reader.contents = F.text force.enforced
  plan : s.reader.plan = F.rules force.enforced
  written : F.Clean force.written
  enforced : F.Clean force.enforced

variable {F} {s : PlanHost ρ} {force : InForce σ}

theorem Enforces.write (h : F.Enforces s force) {x : σ} (clean : F.Clean x) :
    F.Enforces (F.write s x) { force with written := x } where
  file := .inr (by rw [PlanFormat.write, F.encode_eq x clean]; rfl)
  contents := h.contents
  plan := h.plan
  written := clean
  enforced := h.enforced

/-- A look at the file brings the plan into force that was written last, if that has a rule. -/
theorem Enforces.look (h : F.Enforces s force) : F.Enforces (F.look s) (F.found force) := by
  rcases h.file with ⟨missing, nothing⟩ | holds
  · have none_ : F.rules force.written = [] := by rw [nothing, F.rules_nothing]
    rw [found, if_pos none_, PlanFormat.look, missing]
    exact ⟨.inl ⟨rfl, nothing⟩, h.contents, h.plan, h.written, h.enforced⟩
  · have text : trimCopy (F.text force.written ++ [10]) = F.text force.written :=
      trimCopy_line (F.solid _ h.written)
    have empty := F.rules_eq_nil _ h.written
    rw [PlanFormat.look, holds, PlanReader.refresh, text, found]
    by_cases none_ : F.rules force.written = []
    case pos =>
      have file : some ([] ++ [10]) = some (F.text force.written ++ [10]) := by
        rw [empty.mp none_]
      rw [if_pos none_, empty.mp none_]
      split
      case isTrue => exact ⟨.inr file, h.contents, h.plan, h.written, h.enforced⟩
      case isFalse kept =>
        rw [if_pos (not_not.mp fun other => kept ⟨rfl, fun same => other same.symm⟩)]
        exact ⟨.inr file, h.contents, h.plan, h.written, h.enforced⟩
    case neg =>
      rw [if_neg none_, if_neg fun both : _ ∧ _ => none_ (empty.mpr both.1)]
      split
      case isTrue same =>
        -- the same text was parsed before
        refine ⟨.inr rfl, same.symm, h.plan.trans ?_,
          h.written, h.written⟩
        rw [← F.read _ h.enforced, ← h.contents, ← same, F.read _ h.written]
      case isFalse => exact ⟨.inr rfl, rfl, F.read _ h.written, h.written, h.written⟩

theorem Enforces.start {initial : Option σ} (clean : ∀ x, initial = some x → F.Clean x) :
    F.Enforces (F.start initial) (F.begun initial) := by
  have none_ : F.text F.nothing = [] := (F.rules_eq_nil _ F.clean_nothing).mp F.rules_nothing
  apply Enforces.look
  cases initial with
  | none =>
      exact ⟨.inl ⟨rfl, rfl⟩, none_.symm, F.rules_nothing.symm, F.clean_nothing, F.clean_nothing⟩
  | some x =>
      have file : some ((F.encode x).getD []) = some (F.text x ++ [10]) := by
        rw [F.encode_eq x (clean x rfl)]
        rfl
      exact ⟨.inr file, none_.symm, F.rules_nothing.symm, clean x rfl, F.clean_nothing⟩

end PlanFormat

end FleetRMW.Rmw
