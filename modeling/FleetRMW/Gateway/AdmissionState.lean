import FleetRMW.Gateway.Policy

/-! # The admission state as a document

`export_durable_state` writes what a policy remembers with times made relative to now, and
`restore_durable_state` reads it back. Restoring assigns field by field as it goes, so a
document that it refuses half-way leaves some of them assigned.
-/

namespace FleetRMW.Gateway

open Lib

namespace GatewayAdmissionPolicy

variable (env : Environment) (policy : GatewayAdmissionPolicy)

def admissionStateSchema : Str := lit "fleetrmw.quic_gateway_admission_state.v1"

/-- `dict(sorted(counts.items()))`. -/
def countsDict (counts : Dict Str Int) : PyJson :=
  .dict <| (counts.insertionSort fun x y => x.1 ≤ y.1).map fun e => (e.1, .int e.2)

def number_ (q : Rat) : PyJson := .float (.finite q)

def observationRow (now : Rat) (o : GatewayObservation) : PyJson :=
  .dict [
    (lit "domain_id", .int o.domainId), (lit "topic", .str o.topic),
    (lit "publisher_id", .str o.publisherId), (lit "qoe_debt", number_ o.qoeDebt),
    (lit "measured_loss", number_ o.measuredLoss),
    (lit "measured_rtt_ms", number_ o.measuredRttMs),
    (lit "measured_jitter_ms", number_ o.measuredJitterMs), (lit "source", .str o.source),
    (lit "qoe_debt_source", .str o.qoeDebtSource),
    (lit "age_ms", number_ (max 0 ((now - o.updatedAt) * 1000)))]

/-- `sorted(...)` by domain, topic and publisher. -/
def sortedObservations (s : PolicyState) : List GatewayObservation :=
  (s.observations.map Prod.snd).insertionSort fun x y =>
    toLex (x.domainId, toLex (x.topic, x.publisherId)) ≤
      toLex (y.domainId, toLex (y.topic, y.publisherId))

def exportDurableState (s : PolicyState) : PyJson × PolicyState :=
  let s := policy.expireObservations env (policy.refreshEpoch env s)
  let (now, s) := now env s
  let streams := s.acceptedByStream.insertionSort fun x y => toLex x.1 ≤ toLex y.1
  (.dict [
    (lit "schema_version", .str admissionStateSchema),
    (lit "policy_fingerprint", .str policy.fingerprint),
    (lit "epoch_elapsed_ms", number_ (max 0 ((now - s.epochStarted) * 1000))),
    (lit "epoch_reset_count", .int s.epochResetCount),
    (lit "accepted_total", .int s.acceptedTotal),
    (lit "accepted_cumulative", .int s.acceptedCumulative),
    (lit "accepted_by_stream", .list <| streams.map fun e => .dict [
      (lit "domain_id", .int e.1.1), (lit "topic", .str e.1.2), (lit "count", .int e.2)]),
    (lit "accepted_by_class", countsDict s.acceptedByClass),
    (lit "rejected_by_reason", countsDict s.rejectedByReason),
    (lit "repair_allocated_bytes", .int s.repairAllocatedBytes),
    (lit "repair_admitted_count", .int s.repairAdmittedCount),
    (lit "repair_deferred_count", .int s.repairDeferredCount),
    (lit "repair_decisions", .list s.repairDecisions),
    (lit "observations", .list ((sortedObservations s).map (observationRow now))),
    (lit "observation_updates", .int s.observationUpdates),
    (lit "observation_updates_by_source", countsDict s.observationUpdatesBySource),
    (lit "observation_expirations", .int s.observationExpirations),
    (lit "observation_score_uses", .int s.observationScoreUses),
    (lit "native_qoe_debt_updates", .int s.nativeQoeDebtUpdates),
    (lit "application_outcome_qoe_debt_updates", .int s.applicationOutcomeQoeDebtUpdates),
    (lit "application_task_outcome_updates", .int s.applicationTaskOutcomeUpdates),
    (lit "application_task_outcome_failures", .int s.applicationTaskOutcomeFailures)], s)

/-! ## Reading it back -/

section
variable (document : List (Str × PyJson))

/-- The local function `count`. -/
def restoredCount (name : String) : Except PolicyError Int :=
  require ((asInt (PyJson.lookup document (lit name))).filter (0 ≤ ·))
    (.valueError ("durable admission " ++ name ++ " is invalid"))

/-- The local function `count_map`. -/
def restoredCounts (name : String) : Except PolicyError (Dict Str Int) := do
  let invalid : PolicyError := .valueError ("durable admission " ++ name ++ " is invalid")
  let entries ← require (asDict (PyJson.lookup document (lit name))) invalid
  entries.foldlM (fun counts e => do
    let item ← require ((asInt (some e.2)).filter (0 ≤ ·)) invalid
    raiseIf (e.1 = []) invalid
    pure (Dict.set counts e.1 item)) []

/-- The elements of a list. -/
def asList : Option PyJson → Option (List PyJson)
  | some (.list items) => some items
  | _ => none

/-- A finite `int` or `float`. -/
def asFinite : Option PyJson → Option Rat
  | some (.int i) => some i
  | some (.float (.finite q)) => some q
  | _ => none

def restoredStreams : Except PolicyError (Dict StreamKey Int) := do
  let rows ← require (asList (PyJson.lookup document (lit "accepted_by_stream")))
    (.valueError "durable admission accepted_by_stream is invalid")
  let invalid : PolicyError := .valueError "durable admission stream row is invalid"
  rows.foldlM (fun streams row => do
    let row ← require (asDict (some row)) invalid
    let domainId ← require ((asInt (PyJson.lookup row (lit "domain_id"))).filter (0 ≤ ·)) invalid
    let topic ← require
      ((asStr (PyJson.lookup row (lit "topic"))).filter (lit "/").isPrefixOf) invalid
    let count ← require ((asInt (PyJson.lookup row (lit "count"))).filter (0 ≤ ·)) invalid
    raiseIf (Dict.get? streams (domainId, topic) ≠ none) invalid
    raiseIf ((policy.rule? (domainId, topic)).any fun rule => count > rule.maxAcceptedFrames)
      (.valueError "durable admission stream quota is exceeded")
    pure (Dict.set streams (domainId, topic) count)) []

/-- The update that a row of the observations asks for, with its age; none where it has
    expired by now. -/
def rowUpdate (row : PyJson) : Except PolicyError (Option (ObservationUpdate × Rat)) := do
  let row ← require (asDict (some row)) (.valueError "durable observation row is invalid")
  let metric (name : String) := require (asFinite (PyJson.lookup row (lit name)))
    (PolicyError.valueError "durable observation metrics are invalid")
  let qoeDebt ← metric "qoe_debt"
  let measuredLoss ← metric "measured_loss"
  let measuredRttMs ← metric "measured_rtt_ms"
  let measuredJitterMs ← metric "measured_jitter_ms"
  let ageMs ← metric "age_ms"
  if ageMs < 0 ∨ ageMs ≥ policy.observationTtlMs then
    pure none
  else
    let domainId ← require (asInt (PyJson.lookup row (lit "domain_id"))) PolicyError.typeError
    let topic ← require (asStr (PyJson.lookup row (lit "topic"))) PolicyError.typeError
    let publisherId ← require (asStr (PyJson.lookup row (lit "publisher_id"))) PolicyError.typeError
    let source ← require (asStr (PyJson.lookup row (lit "source")))
      (PolicyError.valueError "observation source is unsupported")
    let qoeDebtSource ← require (asStr (some ((PyJson.lookup row (lit "qoe_debt_source")).getD
      (.str (if source = lit "external_api" then lit "external_api"
        else lit "publisher_metadata")))))
      (PolicyError.valueError "observation QoE debt source is unsupported")
    pure (some ({
      domainId, topic, publisherId, qoeDebt := .finite qoeDebt,
      measuredLoss := .finite measuredLoss, measuredRttMs := .finite measuredRttMs,
      measuredJitterMs := .finite measuredJitterMs, source,
      qoeDebtSource := some qoeDebtSource }, ageMs))

/-- The loop over the rows. Each row is stored by `update_observation` first and collected,
    with its time, from there. -/
def restoreRows (now : Rat) (restored : Dict ObservationKey GatewayObservation) :
    List PyJson → PolicyState →
      Except PolicyError (Dict ObservationKey GatewayObservation) × PolicyState
  | [], s => (.ok restored, s)
  | row :: rows, s =>
      match policy.rowUpdate row with
      | .error e => (.error e, s)
      | .ok none => restoreRows now restored rows s
      | .ok (some (update, ageMs)) =>
          match updateObservation env s update with
          | (.error e, s) => (.error e, s)
          | (.ok (), s) =>
              let restored := match s.observations.get? update.key with
                | some o => restored.set update.key { o with updatedAt := now - ageMs / 1000 }
                | none => restored
              restoreRows now restored rows s

/-- What is checked before anything is assigned. -/
structure RestoredHead where
  epochElapsedMs : Rat
  acceptedByStream : Dict StreamKey Int
  acceptedTotal : Int
  acceptedCumulative : Int
  repairAllocatedBytes : Int
  repairAdmittedCount : Int
  repairDecisions : List PyJson

def restoredHead : Except PolicyError RestoredHead := do
  raiseIf (asStr (PyJson.lookup document (lit "schema_version")) ≠ some admissionStateSchema)
    (PolicyError.valueError "unsupported durable admission state schema")
  raiseIf (asStr (PyJson.lookup document (lit "policy_fingerprint")) ≠ some policy.fingerprint)
    (PolicyError.valueError "durable admission policy fingerprint mismatch")
  let epochElapsedMs ← require
    ((asFinite (PyJson.lookup document (lit "epoch_elapsed_ms"))).filter (0 ≤ ·))
    (PolicyError.valueError "durable admission epoch_elapsed_ms is invalid")
  let acceptedByStream ← restoredStreams policy document
  let acceptedTotal ← restoredCount document "accepted_total"
  let acceptedCumulative ← restoredCount document "accepted_cumulative"
  raiseIf (acceptedCumulative < acceptedTotal ∨
      policy.maxAcceptedFrames.any fun limit => acceptedTotal > limit)
    (PolicyError.valueError "durable admission accepted counters are inconsistent")
  let repairAllocatedBytes ← restoredCount document "repair_allocated_bytes"
  let repairAdmittedCount ← restoredCount document "repair_admitted_count"
  raiseIf (repairAllocatedBytes > policy.repairCapacityBytes ∨
      policy.repairMaxAdmitted.any fun limit => repairAdmittedCount > limit)
    (PolicyError.valueError "durable repair allocation exceeds policy")
  let repairDecisions ← require
    ((asList (PyJson.lookup document (lit "repair_decisions"))).filter fun rows =>
      rows.all fun row => (asDict (some row)).isSome)
    (PolicyError.valueError "durable repair decisions are invalid")
  pure ⟨epochElapsedMs, acceptedByStream, acceptedTotal, acceptedCumulative,
    repairAllocatedBytes, repairAdmittedCount, repairDecisions⟩

/-- A counter that older documents lack. -/
def optionalCount (name : String) : Except PolicyError Int :=
  if (PyJson.lookup document (lit name)).isSome then restoredCount document name else .ok 0

/-- The assignments at the end, in their order. -/
def assignments (head : RestoredHead) (now : Rat)
    (observations : Dict ObservationKey GatewayObservation) :
    List (Except PolicyError (PolicyState → PolicyState)) :=
  let count := restoredCount document
  let counts := restoredCounts document
  [.ok fun s => { s with epochStarted := now - head.epochElapsedMs / 1000 },
    (count "epoch_reset_count").map fun n s => { s with epochResetCount := n },
    .ok fun s => { s with
      acceptedTotal := head.acceptedTotal
      acceptedCumulative := head.acceptedCumulative
      acceptedByStream := head.acceptedByStream },
    (counts "accepted_by_class").map fun d s => { s with acceptedByClass := d },
    (counts "rejected_by_reason").map fun d s => { s with rejectedByReason := d },
    .ok fun s => { s with
      repairAllocatedBytes := head.repairAllocatedBytes
      repairAdmittedCount := head.repairAdmittedCount },
    (count "repair_deferred_count").map fun n s => { s with repairDeferredCount := n },
    .ok fun s => { s with repairDecisions := head.repairDecisions, observations },
    (count "observation_updates").map fun n s => { s with observationUpdates := n },
    (counts "observation_updates_by_source").map fun d s =>
      { s with observationUpdatesBySource := d },
    (count "observation_expirations").map fun n s => { s with observationExpirations := n },
    (count "observation_score_uses").map fun n s => { s with observationScoreUses := n },
    (optionalCount document "native_qoe_debt_updates").map fun n s =>
      { s with nativeQoeDebtUpdates := n },
    (optionalCount document "application_outcome_qoe_debt_updates").map fun n s =>
      { s with applicationOutcomeQoeDebtUpdates := n },
    (optionalCount document "application_task_outcome_updates").map fun n s =>
      { s with applicationTaskOutcomeUpdates := n },
    (optionalCount document "application_task_outcome_failures").map fun n s =>
      { s with applicationTaskOutcomeFailures := n }]

end

/-- Assign until one raises. -/
def assign : List (Except PolicyError (PolicyState → PolicyState)) → PolicyState →
    Except PolicyError Unit × PolicyState
  | [], s => (.ok (), s)
  | .ok f :: rest, s => assign rest (f s)
  | .error e :: _, s => (.error e, s)

def restoreDurableState (document : PyJson) (s : PolicyState) :
    Except PolicyError Unit × PolicyState :=
  match asDict (some document) with
  | none => (.error .typeError, s)
  | some document =>
      match policy.restoredHead document with
      | .error e => (.error e, s)
      | .ok head =>
          let (now, s) := now env s
          match asList (PyJson.lookup document (lit "observations")) with
          | none => (.error (.valueError "durable observations are invalid"), s)
          | some rows =>
              match policy.restoreRows env now [] rows s with
              | (.error e, s) => (.error e, s)
              | (.ok observations, s) =>
                  match assign (assignments document head now observations) s with
                  | (.error e, s) => (.error e, s)
                  | (.ok (), s) => (.ok (), policy.refreshEpoch env s)

end GatewayAdmissionPolicy

end FleetRMW.Gateway
