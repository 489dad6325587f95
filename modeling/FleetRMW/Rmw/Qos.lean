import FleetRMW.Rmw.Ledger

/-! # Quality of service

The profile of an endpoint. A policy is the number that its enumeration gives it: what comes in
from the wire is cast without a check.
-/

namespace FleetRMW.Rmw

/-- `rmw_qos_profile_t`, with the values of `rmw_qos_profile_default`. -/
structure RmwQosProfile where
  history : UInt32 := 1
  depth : UInt64 := 10
  reliability : UInt32 := 1
  durability : UInt32 := 2
  deadline : RmwTime := {}
  lifespan : RmwTime := {}
  liveliness : UInt32 := 0
  livelinessLeaseDuration : RmwTime := {}
  avoidRosNamespaceConventions : Bool := false
  deriving Repr, DecidableEq

def reliabilityReliable : UInt32 := 1
def reliabilityBestEffort : UInt32 := 2
def durabilityTransientLocal : UInt32 := 1
def durabilityVolatile : UInt32 := 2
def livelinessManualByNode : UInt32 := 2
def livelinessManualByTopic : UInt32 := 3

end FleetRMW.Rmw
