import FleetRMW.Lib.Decimal
import FleetRMW.Lib.Unicode
import FleetRMW.Repair.Optimal

/-! # The policy text of a schedule

The admitted repairs are written as one line of rules, each with the paths of one frame and a
single attempt.
-/

namespace FleetRMW.Repair

open Lib

/-- A number in a formatted text. -/
def formatInt (n : Int) : Str :=
  (if n < 0 then [45] else []) ++ (decimal n.natAbs).map UInt8.toNat

namespace RepairDecision

variable (decision : RepairDecision)

/-- The rules are sorted by it. -/
def planKey : Str ×ₗ Int ×ₗ Str :=
  toLex (decision.topic, toLex (decision.sourceSequenceNumber, decision.publisherId))

def rule : Str :=
  decision.topic ++ lit "=" ++ (lit "+").intercalate decision.selectedPaths ++
    lit "|sequences=" ++ formatInt decision.sourceSequenceNumber ++ lit "|attempts=1"

end RepairDecision

variable (decisions : List RepairDecision)

def sortedAdmitted : List RepairDecision :=
  (admitted decisions).insertionSort fun x y => x.planKey ≤ y.planKey

/-- `FleetRepairSchedule.policy_text` -/
def policyText : Str := (lit ";").intercalate ((sortedAdmitted decisions).map RepairDecision.rule)

/-- `write_text` of the policy text and the end of its line. -/
def planFile : Option Bytes := utf8Encode (policyText decisions ++ [10])

theorem mem_sortedAdmitted {decisions : List RepairDecision} {decision : RepairDecision} :
    decision ∈ sortedAdmitted decisions ↔ decision ∈ admitted decisions :=
  (List.perm_insertionSort _ _).mem_iff

end FleetRMW.Repair
