import FleetRMW.Gateway.Fencing
import FleetRMW.Lib.Decimal
import FleetRMW.Lib.Delimited
import FleetRMW.Raft.Election

/-! # Writers that Raft elects

A gateway started with a Raft status URL asks no coordination service for permission to
write. It waits until the Raft node beside it leads, makes a holder id of that node and its
term, and takes the store's writer lease under this id: Raft decides who may write, the
store's fence enforces it. The cluster, the store and one gateway process for each node run
side by side here; a node that is asked for its status answers, or it does not.
-/

namespace FleetRMW.Raft

variable {Command : Type}

/-- What `/status` answers, as far as a gateway reads it. -/
structure RaftStatus where
  role : Role
  term : Nat

def RaftNode.status (n : RaftNode Command) : RaftStatus := ⟨n.role, n.currentTerm⟩

/-- A status that did not come is `none`. -/
def isStillLeader (status : Option RaftStatus) (expectedTerm : Nat) : Bool :=
  status.any fun s => s.role = .leader ∧ s.term = expectedTerm

/-- The node has been through term `t` and no longer leads in it. -/
def RaftNode.Past (t : Nat) (n : RaftNode Command) : Prop :=
  t < n.currentTerm ∨ t = n.currentTerm ∧ n.role = .follower

namespace RaftNode.Past

variable {cluster : Cluster} {s : ClusterState Command} {a b : NodeId} {t : Nat}
  {n m : RaftNode Command}

theorem put (past : (s.nodes b).Past t) (at_ : s.nodes a = n) (keeps : n.Past t → m.Past t) :
    ((s.put a m).nodes b).Past t := by
  rcases eq_or_ne b a with rfl | other
  · rw [ClusterState.put_nodes_self]
    exact keeps (at_ ▸ past)
  · rwa [ClusterState.put_nodes, Function.update_of_ne other]

/-- Terms only rise, and within a term a follower stays one. -/
theorem move {admits : List (LogEntry Command) → AppendEntriesRequest Command → Prop}
    {x y : Annotated Command} (past : (x.1.nodes b).Past t) (move : Move cluster admits x y) :
    (y.1.nodes b).Past t := by
  cases move with
  | stepDown at_ stale =>
      exact past.put at_ fun old => .inl (old.elim (·.trans stale) (·.1.trans_lt stale))
  | campaign _ at_ =>
      exact past.put at_ fun old => .inl (old.elim Nat.lt_succ_of_lt (·.1 ▸ Nat.lt_succ_self _))
  | grant _ at_ => exact past.put at_ id
  | countVote _ at_ => exact past.put at_ id
  | elect at_ candidate =>
      refine past.put at_ fun old => old.imp_right fun ⟨_, follower⟩ => ?_
      cases candidate.symm.trans follower
  | follow _ at_ => exact past.put at_ fun old => old.imp_right fun now => ⟨now.1, rfl⟩
  | retarget at_ | commit at_ | propose at_ | take at_ => exact past.put at_ id
  | truncate _ at_ | accept _ at_ | recordMatch _ at_ => exact past.put at_ id
  | refuse | grantAgain | replicate => exact past

/-- A term that the node has won is past as soon as the node does not lead in it. -/
theorem of_won {h : History Command} (I : ElectionInv cluster s h) (won : h.winner t = some a)
    (deposed : ¬((s.nodes a).role = .leader ∧ (s.nodes a).currentTerm = t)) :
    (s.nodes a).Past t := by
  have ok := I.node a
  have reached := (I.history.won t a won).2.1
  rw [ok.term] at reached
  rcases reached.lt_or_eq with later | rfl
  · exact .inl later
  · refine .inr ⟨rfl, ?_⟩
    cases role : (s.nodes a).role with
    | follower => rfl
    | candidate => exact absurd won (ok.unopposed role)
    | leader => exact absurd ⟨role, rfl⟩ deposed

theorem not_leader (past : n.Past t) : isStillLeader (some n.status) t = false := by
  refine decide_eq_false fun ⟨leads, same⟩ => ?_
  rcases past with later | ⟨_, follower⟩
  · exact absurd same later.ne'
  · cases leads.symm.trans follower

end RaftNode.Past

end FleetRMW.Raft

namespace FleetRMW.Gateway

open Lib Raft

/-- The Raft node beside a gateway and the term that `require_leadership` returned. -/
structure RaftWriter where
  nodeId : NodeId
  term : Nat
  deriving DecidableEq

/-- The holder id `raft-{node_id}-term-{term}`. -/
def RaftWriter.instanceId (w : RaftWriter) : Str :=
  (lit "raft-" ++ lit w.nodeId ++ lit "-term") ++ 45 :: (decimal w.term).map UInt8.toNat

theorem lit_injective : Function.Injective lit := fun _ _ same =>
  String.toList_injective (List.map_injective_iff.mpr (fun _ _ => Char.toNat_inj.mp) same)

theorem RaftWriter.instanceId_injective : Function.Injective RaftWriter.instanceId := by
  rintro ⟨a, t⟩ ⟨b, u⟩ same
  have noDash (n : Nat) : (45 : Nat) ∉ (decimal n).map UInt8.toNat := by
    intro among
    obtain ⟨digit, inside, dash⟩ := List.mem_map.mp among
    obtain rfl : digit = 45 := UInt8.toNat_inj.mp dash
    exact decimal_notMem rfl n inside
  obtain ⟨fronts, terms⟩ := append_separator_inj (noDash t) (noDash u) same
  have nodes : lit a = lit b := List.append_cancel_left (List.append_cancel_right fronts)
  obtain rfl : a = b := lit_injective nodes
  obtain rfl : t = u := decimal_injective (List.map_injective_iff.mpr (fun _ _ => UInt8.toNat_inj.mp) terms)
  rfl

/-- How far `run_service` has come: in `require_leadership`, in
    `acquire_gateway_state_with_lease_wait` before and after `acquire_writer_lease`, serving
    requests while the renewal task sleeps, serving between its two questions, and serving
    although the lease is lost. -/
inductive ServicePhase where
  | stopped
  | waiting
  | elected (term : Nat)
  | recovering (term : Nat)
  | serving (term : Nat)
  | renewed (term : Nat)
  | losing (term : Nat)
  deriving DecidableEq

namespace ServicePhase

def term? : ServicePhase → Option Nat
  | .stopped | .waiting => none
  | .elected t | .recovering t | .serving t | .renewed t | .losing t => some t

/-- The term of a gateway that has taken the writer lease. -/
def leased? : ServicePhase → Option Nat
  | .stopped | .waiting | .elected _ => none
  | .recovering t | .serving t | .renewed t | .losing t => some t

/-- The term of a gateway that answers requests. -/
def serves? : ServicePhase → Option Nat
  | .stopped | .waiting | .elected _ | .recovering _ => none
  | .serving t | .renewed t | .losing t => some t

/-- How often a gateway may still renew the lease of term `t` before it asks its node again. -/
def mayRenew (t : Nat) : ServicePhase → Nat
  | .elected u | .recovering u | .serving u => if u = t then 1 else 0
  | .stopped | .waiting | .renewed _ | .losing _ => 0

/-- One turn of the loop of `require_leadership`. -/
def requireLeadership (status : Option RaftStatus) (timedOut : Bool) : ServicePhase :=
  match status.filter fun s => s.role = .leader with
  | some s => .elected s.term
  | none => if timedOut then .stopped else .waiting

theorem term_of_leased {phase : ServicePhase} {t : Nat} (leased : phase.leased? = some t) :
    phase.term? = some t := by
  cases phase with
  | stopped | waiting | elected => cases leased
  | recovering | serving | renewed | losing => exact leased

theorem leased_of_serves {phase : ServicePhase} {t : Nat} (serves : phase.serves? = some t) :
    phase.leased? = some t := by
  cases phase with
  | stopped | waiting | elected | recovering => cases serves
  | serving | renewed | losing => exact serves

/-- A gateway goes on to the term in which its node has answered that it leads. -/
theorem of_requireLeadership {status : Option RaftStatus} {timedOut : Bool} {t : Nat}
    (elected : (requireLeadership status timedOut).term? = some t) :
    status = some ⟨.leader, t⟩ := by
  unfold requireLeadership at elected
  split at elected
  case h_1 leading =>
    obtain ⟨rfl, leads⟩ := Option.filter_eq_some_iff.mp leading
    obtain rfl := Option.some.inj elected
    rw [← of_decide_eq_true leads]
  case h_2 =>
    split at elected
    · cases elected
    · cases elected

theorem mayRenew_le_one (t : Nat) (phase : ServicePhase) : phase.mayRenew t ≤ 1 := by
  cases phase with
  | stopped | waiting | renewed | losing => exact Nat.zero_le 1
  | elected | recovering | serving =>
      simp only [mayRenew]
      split
      · exact le_rfl
      · exact Nat.zero_le 1

theorem mayRenew_requireLeadership {status : Option RaftStatus} {timedOut : Bool} {t : Nat}
    (deposed : isStillLeader status t = false) :
    (requireLeadership status timedOut).mayRenew t = 0 := by
  unfold requireLeadership
  split
  case h_1 s leading =>
    obtain ⟨rfl, leads⟩ := Option.filter_eq_some_iff.mp leading
    refine if_neg fun same => ?_
    exact absurd ⟨of_decide_eq_true leads, same⟩ (of_decide_eq_false deposed)
  case h_2 => split <;> rfl

theorem leased_requireLeadership (status : Option RaftStatus) (timedOut : Bool) :
    (requireLeadership status timedOut).leased? = none := by
  unfold requireLeadership
  split
  · rfl
  · split <;> rfl

end ServicePhase

namespace SharedStore

variable {Doc Conn : Type}

/-- Whether the call returns. -/
def succeeds (holder : Conn → Str) (s : SharedStore Doc Conn) (e : StoreEvent Doc Conn) : Bool :=
  match e.call with
  | .acquireWriterLease leaseMs now =>
      (transaction e.commits (s.db.acquireWriterLease (holder e.conn) leaseMs now)).isOk
  | .renewWriterLease now =>
      (transaction e.commits (s.db.renewWriterLease (s.lease e.conn) now)).isOk
  | .releaseWriterLease now =>
      (transaction e.commits (s.db.releaseWriterLease (s.lease e.conn) now)).isOk
  | .write w => (transaction e.commits (w.exec s.db (s.lease e.conn))).isOk

/-- The connections that a process opens anew remember nothing. -/
def reopen (s : SharedStore Doc Conn) (mine : Conn → Bool) : SharedStore Doc Conn :=
  { s with lease := fun c => if mine c then none else s.lease c }

end SharedStore

/-- The Raft cluster, the store and the gateway beside each node. -/
structure Deployment (Command Doc : Type) where
  raft : ClusterState Command
  store : SharedStore Doc RaftWriter
  gateway : NodeId → ServicePhase

/-- `recovered` is the rest of the state's construction: where it raises, the lease is
    released again. `exit` is a process that gives up or is killed. -/
inductive DeploymentEvent (Command Doc : Type) where
  | raft (e : Event Command)
  | start (a : NodeId)
  | pollStatus (a : NodeId) (answered timedOut : Bool)
  | acquire (a : NodeId) (leaseMs now : Int) (commits : Bool)
  | recovered (a : NodeId)
  | recoveryFailed (a : NodeId) (now : Int) (commits : Bool)
  | write (a : NodeId) (w : Write Doc) (commits : Bool)
  | renewWriterLease (a : NodeId) (now : Int) (commits : Bool)
  | checkLeadership (a : NodeId) (answered : Bool)
  | close (a : NodeId) (now : Int) (commits : Bool)
  | exit (a : NodeId)

namespace Deployment

variable {Command Doc : Type}

def init (cluster : Cluster) (db : Database Doc) : Deployment Command Doc :=
  ⟨.init cluster, .init db, fun _ => .stopped⟩

def enter (s : Deployment Command Doc) (a : NodeId) (phase : ServicePhase) :
    Deployment Command Doc :=
  { s with gateway := Function.update s.gateway a phase }

def call (s : Deployment Command Doc) (e : StoreEvent Doc RaftWriter) : Deployment Command Doc :=
  { s with store := s.store.step RaftWriter.instanceId e }

def status (s : Deployment Command Doc) (a : NodeId) (answered : Bool) : Option RaftStatus :=
  if answered then some (s.raft.nodes a).status else none

def step (cluster : Cluster) (s : Deployment Command Doc) :
    DeploymentEvent Command Doc → Option (Deployment Command Doc)
  | .raft e => (ClusterState.step cluster s.raft e).map fun raft => { s with raft }
  | .start a =>
      match s.gateway a with
      | .stopped => some ({ s with store := s.store.reopen (·.nodeId = a) }.enter a .waiting)
      | _ => none
  | .pollStatus a answered timedOut =>
      match s.gateway a with
      | .waiting => some (s.enter a (.requireLeadership (s.status a answered) timedOut))
      | _ => none
  | .acquire a leaseMs now commits =>
      match s.gateway a with
      | .elected t =>
          let e := ⟨⟨a, t⟩, .acquireWriterLease leaseMs now, commits⟩
          some ((s.call e).enter a
            (if s.store.succeeds RaftWriter.instanceId e then .recovering t else .elected t))
      | _ => none
  | .recovered a =>
      match s.gateway a with
      | .recovering t => some (s.enter a (.serving t))
      | _ => none
  | .recoveryFailed a now commits =>
      match s.gateway a with
      | .recovering t => some ((s.call ⟨⟨a, t⟩, .releaseWriterLease now, commits⟩).enter a (.elected t))
      | _ => none
  | .write a w commits =>
      (s.gateway a).serves?.map fun t => s.call ⟨⟨a, t⟩, .write w, commits⟩
  | .renewWriterLease a now commits =>
      match s.gateway a with
      | .serving t =>
          let e := ⟨⟨a, t⟩, .renewWriterLease now, commits⟩
          some ((s.call e).enter a
            (if s.store.succeeds RaftWriter.instanceId e then .renewed t else .losing t))
      | _ => none
  | .checkLeadership a answered =>
      match s.gateway a with
      | .renewed t =>
          some (s.enter a (if isStillLeader (s.status a answered) t then .serving t else .losing t))
      | _ => none
  | .close a now commits =>
      (s.gateway a).serves?.map fun t =>
        (s.call ⟨⟨a, t⟩, .releaseWriterLease now, commits⟩).enter a .stopped
  | .exit a => some (s.enter a .stopped)

def runs (cluster : Cluster) (db : Database Doc) (events : List (DeploymentEvent Command Doc)) :
    Option (Deployment Command Doc) :=
  run (step cluster) (init cluster db) events

end Deployment

/-! ## What a call does to the leases -/

namespace SharedStore

variable {Doc Conn : Type} [DecidableEq Conn] {holder : Conn → Str} {s : SharedStore Doc Conn}
  {e : StoreEvent Doc Conn} {c : Conn}

theorem lease_step_of_ne (other : c ≠ e.conn) : (s.step holder e).lease c = s.lease c := by
  unfold step
  dsimp only
  split
  · split
    · exact Function.update_of_ne other _ _
    · rfl
  · split <;> rfl
  · split <;> exact Function.update_of_ne other _ _
  · split <;> rfl

theorem lease_step_renew (now : Int) (commits : Bool) :
    (s.step holder ⟨c, .renewWriterLease now, commits⟩).lease = s.lease := by
  simp only [step]
  split <;> rfl

theorem lease_step_write (w : Write Doc) (commits : Bool) :
    (s.step holder ⟨c, .write w, commits⟩).lease = s.lease := by
  simp only [step]
  split <;> rfl

theorem lease_step_acquire {leaseMs now : Int} {commits : Bool}
    (granted : s.succeeds holder ⟨c, .acquireWriterLease leaseMs now, commits⟩ = true) :
    (s.step holder ⟨c, .acquireWriterLease leaseMs now, commits⟩).lease c ≠ none := by
  simp only [succeeds] at granted
  simp only [step]
  split
  case h_1 =>
    simp only [Function.update_self]
    exact Option.some_ne_none _
  case h_2 answer =>
    rw [answer] at granted
    cases granted

/-- The log of grants grows by the caller's. -/
theorem acquired_step : ∀ grant ∈ (s.step holder e).acquired,
    grant ∈ s.acquired ∨ grant.1 = e.conn := by
  intro grant among
  rcases step_cases holder s e with ⟨_, _, _, _, _, after⟩ | ⟨_, log, _⟩
  · rw [after] at among
    refine (List.mem_append.mp among).imp_right fun new => ?_
    rw [List.mem_singleton.mp new]
  · exact .inl (log ▸ among)

theorem Fenced.reopen (I : Fenced holder s) (mine : Conn → Bool) :
    Fenced holder (s.reopen mine) where
  log := I.log
  last := I.last
  remembered c held h := by
    simp only [SharedStore.reopen] at h
    split at h
    · cases h
    · exact I.remembered c held h

end SharedStore

/-! ## The invariant -/

namespace Deployment

variable {Command Doc : Type} {cluster : Cluster} {s s' : Deployment Command Doc}
  {h h' : History Command} {a b : NodeId} {t : Nat}

/-- A call that leaves the gateway in its phase. -/
theorem call_enter (s : Deployment Command Doc) (e : StoreEvent Doc RaftWriter) (a : NodeId) :
    (s.call e).enter a (s.gateway a) = s.call e := by
  rw [enter, call, Function.update_eq_self]

/-- A gateway's term was won by its node, also where a grant of the store is all that is
    left of it, and a gateway that may write remembers a lease. -/
structure Elected (cluster : Cluster) (s : Deployment Command Doc) (h : History Command) : Prop where
  raft : ElectionInv cluster s.raft h
  fenced : SharedStore.Fenced RaftWriter.instanceId s.store
  won : ∀ {a t}, (s.gateway a).term? = some t → h.winner t = some a
  granted : ∀ grant ∈ s.store.acquired, h.winner grant.1.term = some grant.1.nodeId
  leased : ∀ {a t}, (s.gateway a).leased? = some t → s.store.lease ⟨a, t⟩ ≠ none

namespace Elected

theorem init (cluster : Cluster) (db : Database Doc) :
    Elected cluster (Deployment.init cluster db : Deployment Command Doc) {} where
  raft := ElectionInv.init cluster
  fenced := .init db
  won never := by cases never
  granted := nofun
  leased never := by cases never

theorem enter (I : Elected cluster s h) {phase : ServicePhase}
    (won : ∀ t, phase.term? = some t → h.winner t = some a)
    (leased : ∀ t, phase.leased? = some t → s.store.lease ⟨a, t⟩ ≠ none) :
    Elected cluster (s.enter a phase) h where
  raft := I.raft
  fenced := I.fenced
  won {b t} now := by
    rcases eq_or_ne b a with rfl | other
    · simp only [Deployment.enter, Function.update_self] at now
      exact won t now
    · simp only [Deployment.enter, Function.update_of_ne other] at now
      exact I.won now
  granted := I.granted
  leased {b t} now := by
    rcases eq_or_ne b a with rfl | other
    · simp only [Deployment.enter, Function.update_self] at now
      exact leased t now
    · simp only [Deployment.enter, Function.update_of_ne other] at now
      exact I.leased now

/-- A gateway calls the store and goes on in the same term, or in none. -/
theorem call (I : Elected cluster s h) {c : StoreCall Doc} {commits : Bool} {phase : ServicePhase}
    (mine : (s.gateway a).term? = some t) (same : ∀ u, phase.term? = some u → u = t)
    (leased : phase.leased? ≠ none →
      (s.store.step RaftWriter.instanceId ⟨⟨a, t⟩, c, commits⟩).lease ⟨a, t⟩ ≠ none) :
    Elected cluster ((s.call ⟨⟨a, t⟩, c, commits⟩).enter a phase) h where
  raft := I.raft
  fenced := I.fenced.step RaftWriter.instanceId_injective _
  won {b u} now := by
    rcases eq_or_ne b a with rfl | other
    · simp only [Deployment.enter, Function.update_self] at now
      exact same u now ▸ I.won mine
    · simp only [Deployment.enter, Function.update_of_ne other] at now
      exact I.won now
  granted grant among := by
    rcases SharedStore.acquired_step grant among with old | new
    · exact I.granted grant old
    · rw [new]
      exact I.won mine
  leased {b u} now := by
    rcases eq_or_ne b a with rfl | other
    · simp only [Deployment.enter, Function.update_self] at now
      obtain rfl := same u (ServicePhase.term_of_leased now)
      exact leased (by rw [now]; exact Option.some_ne_none _)
    · simp only [Deployment.enter, Function.update_of_ne other] at now
      have elsewhere : (⟨b, u⟩ : RaftWriter) ≠ ⟨a, t⟩ := fun same => other (congrArg RaftWriter.nodeId same)
      simp only [Deployment.enter, Deployment.call]
      rw [SharedStore.lease_step_of_ne elsewhere]
      exact I.leased now

theorem reopen (I : Elected cluster s h) (stopped : s.gateway a = .stopped) :
    Elected cluster { s with store := s.store.reopen (·.nodeId = a) } h where
  raft := I.raft
  fenced := I.fenced.reopen _
  won := I.won
  granted := I.granted
  leased {b t} now := by
    have other : ¬b = a := by
      rintro rfl
      rw [stopped] at now
      cases now
    simp only [SharedStore.reopen, other, decide_false, Bool.false_eq_true, if_false]
    exact I.leased now

theorem raftStep (I : Elected cluster s h) {e : Event Command} {raft : ClusterState Command}
    (moved : ClusterState.step cluster s.raft e = some raft) :
    ∃ h', Elected cluster { s with raft } h' ∧ h.Extends h' := by
  have ran : Lib.run (ClusterState.step cluster) s.raft [e] = some raft := by
    rw [Lib.run, moved]
    rfl
  have keeps {x y : Annotated Command} (J : ElectionInv cluster x.1 x.2)
      (move : Move cluster (fun _ _ => True) x y) := (J.move move).1
  obtain ⟨h', raft', grows⟩ := run_keeps (R := ElectionInv cluster) id keeps I.raft
    (runs_unrestricted cluster [e]) ran
  exact ⟨h', ⟨raft', I.fenced, fun now => grows.winner (I.won now),
    fun grant among => grows.winner (I.granted grant among), I.leased⟩, grows⟩

theorem step (I : Elected cluster s h) {e : DeploymentEvent Command Doc}
    (taken : Deployment.step cluster s e = some s') :
    ∃ h', Elected cluster s' h' ∧ h.Extends h' := by
  suffices (∃ raft e, ClusterState.step cluster s.raft e = some raft ∧ s' = { s with raft }) ∨
      Elected cluster s' h by
    rcases this with ⟨raft, e, moved, rfl⟩ | kept
    · exact I.raftStep moved
    · exact ⟨h, kept, .refl h⟩
  cases e with
  | raft e =>
      obtain ⟨raft, moved, rfl⟩ := Option.map_eq_some_iff.mp taken
      exact .inl ⟨raft, e, moved, rfl⟩
  | start a =>
      simp only [Deployment.step] at taken
      split at taken
      case h_2 => cases taken
      case h_1 stopped =>
        cases taken
        refine .inr ((I.reopen stopped).enter ?_ ?_)
        · intro t waits
          cases waits
        · intro t waits
          cases waits
  | pollStatus a answered timedOut =>
      simp only [Deployment.step] at taken
      split at taken
      case h_2 => cases taken
      case h_1 =>
        cases taken
        refine .inr (I.enter ?_ ?_)
        · intro t elected
          have answer := ServicePhase.of_requireLeadership elected
          simp only [status] at answer
          split at answer
          · obtain ⟨leads, rfl⟩ := RaftStatus.mk.inj (Option.some.inj answer)
            exact (I.raft.node a).leads leads
          · cases answer
        · intro t leased
          rw [ServicePhase.leased_requireLeadership] at leased
          cases leased
  | acquire a leaseMs now commits =>
      simp only [Deployment.step] at taken
      split at taken
      case h_2 => cases taken
      case h_1 t elected =>
        cases taken
        refine .inr (I.call (by rw [elected]; rfl) ?_ ?_)
        · intro u same
          split at same <;> exact (Option.some.inj same).symm
        · intro leased
          split at leased
          case isTrue granted => exact SharedStore.lease_step_acquire granted
          case isFalse => exact absurd rfl leased
  | recovered a =>
      simp only [Deployment.step] at taken
      split at taken
      case h_2 => cases taken
      case h_1 t recovering =>
        cases taken
        refine .inr (I.enter (fun u same => I.won ?_) (fun u same => I.leased ?_))
        · rw [recovering]
          exact same
        · rw [recovering]
          exact same
  | recoveryFailed a now commits =>
      simp only [Deployment.step] at taken
      split at taken
      case h_2 => cases taken
      case h_1 t recovering =>
        cases taken
        refine .inr (I.call (by rw [recovering]; rfl) ?_ ?_)
        · exact fun u same => (Option.some.inj same).symm
        · exact fun leased => absurd rfl leased
  | write a w commits =>
      obtain ⟨t, serves, rfl⟩ := Option.map_eq_some_iff.mp taken
      have leased := ServicePhase.leased_of_serves serves
      have mine := ServicePhase.term_of_leased leased
      have called : Elected cluster
          ((s.call ⟨⟨a, t⟩, .write w, commits⟩).enter a (s.gateway a)) h := by
        refine I.call mine (fun u same => Option.some.inj (same.symm.trans mine)) fun _ => ?_
        rw [SharedStore.lease_step_write]
        exact I.leased leased
      rw [call_enter] at called
      exact .inr called
  | renewWriterLease a now commits =>
      simp only [Deployment.step] at taken
      split at taken
      case h_2 => cases taken
      case h_1 t serving =>
        cases taken
        refine .inr (I.call (by rw [serving]; rfl) ?_ ?_)
        · intro u same
          split at same <;> exact (Option.some.inj same).symm
        · intro _
          rw [SharedStore.lease_step_renew]
          exact I.leased (by rw [serving]; rfl)
  | checkLeadership a answered =>
      simp only [Deployment.step] at taken
      split at taken
      case h_2 => cases taken
      case h_1 t renewed =>
        cases taken
        refine .inr (I.enter (fun u same => I.won ?_) (fun u same => I.leased ?_))
        · rw [renewed]
          split at same <;> exact same
        · rw [renewed]
          split at same <;> exact same
  | close a now commits =>
      obtain ⟨t, serves, rfl⟩ := Option.map_eq_some_iff.mp taken
      have mine := ServicePhase.term_of_leased (ServicePhase.leased_of_serves serves)
      refine .inr (I.call mine ?_ ?_)
      · intro u same
        cases same
      · exact fun leased => absurd rfl leased
  | exit a =>
      cases taken
      refine .inr (I.enter ?_ ?_)
      · intro t gone
        cases gone
      · intro t gone
        cases gone

theorem run {events : List (DeploymentEvent Command Doc)} (I : Elected cluster s h)
    (ran : Lib.run (Deployment.step cluster) s events = some s') :
    ∃ h', Elected cluster s' h' ∧ h.Extends h' :=
  run_simulates History.Extends.refl History.Extends.trans (fun J _ taken => J.step taken) I
    (RunMeets.trivial s events) ran

end Elected

/-! ## What Raft and the fence give together -/

/-- Every grant in a term is made to the gateway of one node, every token belongs to one writer,
    and a write that changes the store is made under the last grant, by the gateway of a node
    that was elected in the term of its holder id and next to which no other node ever leads in
    that term. -/
theorem elected_writers_fenced (cluster : Cluster) {db : Database Doc}
    {events later : List (DeploymentEvent Command Doc)} (ran : runs cluster db events = some s)
    (ran' : Lib.run (step cluster) s later = some s') :
    (∀ x ∈ s'.store.acquired, ∀ y ∈ s'.store.acquired,
      x.1.term = y.1.term ∨ x.2 = y.2 → x.1 = y.1) ∧
    ∀ a w commits after, step cluster s (.write a w commits) = some after →
      after.store.db ≠ s.store.db → ∃ writer token row,
        writer.nodeId = a ∧ (s.gateway a).serves? = some writer.term ∧
        s.store.acquired.getLast? = some (writer, token) ∧
        s.store.db.writerLease = some row ∧ row.holderId = writer.instanceId ∧
        row.fenceToken = token ∧
        ∀ b, (s'.raft.nodes b).role = .leader → (s'.raft.nodes b).currentTerm = writer.term →
          b = a := by
  obtain ⟨h, I, -⟩ := (Elected.init cluster db).run ran
  obtain ⟨h', I', grows⟩ := I.run ran'
  constructor
  · intro x hx y hy same
    rcases same with sameTerm | sameToken
    · have won := I'.granted x hx
      rw [sameTerm, I'.granted y hy] at won
      have sameNode := Option.some.inj won
      exact (RaftWriter.mk.injEq ..).mpr ⟨sameNode.symm, sameTerm⟩
    · exact I'.fenced.same_holder hx hy sameToken
  · intro a w commits after taken changed
    obtain ⟨t, serves, rfl⟩ := Option.map_eq_some_iff.mp taken
    have leased := ServicePhase.leased_of_serves serves
    obtain ⟨held, remembers⟩ := Option.ne_none_iff_exists'.mp (I.leased leased)
    have went : ∃ db', w.exec s.store.db (s.store.lease ⟨a, t⟩) = .ok db' := by
      simp only [call, SharedStore.step] at changed
      split at changed
      case h_1 db' answer => exact ⟨db', transaction_eq_ok answer⟩
      case h_2 => exact absurd rfl changed
    obtain ⟨db', answer⟩ := went
    obtain ⟨now, verified⟩ := (Write.exec_eq_ok answer).1
    have latest := I.fenced.last_of_verified remembers verified
    obtain ⟨row, stored, heldBy, token⟩ := I.fenced.last _ latest
    refine ⟨⟨a, t⟩, held.fenceToken, row, rfl, serves, latest, stored, heldBy, token, ?_⟩
    intro b leads sameTerm
    have won := grows.winner (I.won (ServicePhase.term_of_leased leased))
    have won' := (I'.raft.node b).leads leads
    rw [sameTerm, won] at won'
    exact (Option.some.inj won').symm

/-- The gateway beside a node that has been elected. -/
def serveFirst : List (DeploymentEvent String Unit) :=
  electFirst.map .raft ++ [.start "n1", .pollStatus "n1" true false, .acquire "n1" 1000 0 true,
    .recovered "n1"]

theorem elected_writers_fenced_threeNodes :
    ∃ s s', runs threeNodes ({} : Database Unit) serveFirst = some s ∧
      Lib.run (step threeNodes) s [.raft (.electionTimeout "n2")] = some s' ∧
      ∀ x ∈ s'.store.acquired, ∀ y ∈ s'.store.acquired,
        x.1.term = y.1.term ∨ x.2 = y.2 → x.1 = y.1 := by
  have ran := (Option.some_get
    (x := runs threeNodes ({} : Database Unit) serveFirst) (by decide)).symm
  have ran' := (Option.some_get (x := Lib.run (step threeNodes)
    ((runs threeNodes ({} : Database Unit) serveFirst).get (by decide))
    [.raft (.electionTimeout "n2")]) (by decide)).symm
  exact ⟨_, _, ran, ran', (elected_writers_fenced threeNodes ran ran').1⟩

/-! ## A deposed gateway -/

/-- The event is a renewal of the writer's lease that returns. -/
def renews (w : RaftWriter) (s : Deployment Command Doc) : DeploymentEvent Command Doc → Bool
  | .renewWriterLease a now commits =>
      a = w.nodeId && s.gateway a = .serving w.term &&
        s.store.succeeds RaftWriter.instanceId ⟨w, .renewWriterLease now, commits⟩
  | _ => false

/-- How often a writer's lease is renewed in a run. -/
def renewals (cluster : Cluster) (w : RaftWriter) :
    Deployment Command Doc → List (DeploymentEvent Command Doc) → Nat
  | _, [] => 0
  | s, e :: es =>
      match step cluster s e with
      | some s' => (s.renews w e).toNat + renewals cluster w s' es
      | none => 0

theorem not_leader (s : Deployment Command Doc) (past : (s.raft.nodes a).Past t) (answered : Bool) :
    isStillLeader (s.status a answered) t = false := by
  unfold status
  split
  · exact past.not_leader
  · rfl

theorem mayRenew_enter {phase : ServicePhase}
    (le : a = b → phase.mayRenew t ≤ (s.gateway b).mayRenew t) :
    ((s.enter b phase).gateway a).mayRenew t ≤ (s.gateway a).mayRenew t := by
  rcases eq_or_ne a b with rfl | other
  · simp only [enter, Function.update_self]
    exact le rfl
  · simp only [enter, Function.update_of_ne other]
    exact le_rfl

/-- A gateway whose node does not lead in its term any more spends its one renewal. -/
theorem renewals_step {e : DeploymentEvent Command Doc} (past : (s.raft.nodes a).Past t)
    (taken : step cluster s e = some s') :
    (s.renews ⟨a, t⟩ e).toNat + (s'.gateway a).mayRenew t ≤ (s.gateway a).mayRenew t := by
  cases e with
  | raft e =>
      obtain ⟨raft, -, rfl⟩ := Option.map_eq_some_iff.mp taken
      exact (Nat.zero_add _).le
  | start b =>
      simp only [step] at taken
      split at taken
      case h_2 => cases taken
      case h_1 =>
        cases taken
        exact (Nat.zero_add _).le.trans <| mayRenew_enter fun _ => Nat.zero_le _
  | pollStatus b answered timedOut =>
      simp only [step] at taken
      split at taken
      case h_2 => cases taken
      case h_1 =>
        cases taken
        refine (Nat.zero_add _).le.trans (mayRenew_enter ?_)
        rintro rfl
        rw [ServicePhase.mayRenew_requireLeadership (s.not_leader past answered)]
        exact Nat.zero_le _
  | acquire b leaseMs now commits =>
      simp only [step] at taken
      split at taken
      case h_2 => cases taken
      case h_1 u elected =>
        cases taken
        refine (Nat.zero_add _).le.trans (mayRenew_enter (s := s.call _) fun _ => ?_)
        simp only [call, elected]
        split <;> exact le_rfl
  | recovered b =>
      simp only [step] at taken
      split at taken
      case h_2 => cases taken
      case h_1 u recovering =>
        cases taken
        refine (Nat.zero_add _).le.trans (mayRenew_enter fun _ => ?_)
        rw [recovering]
        exact le_rfl
  | recoveryFailed b now commits =>
      simp only [step] at taken
      split at taken
      case h_2 => cases taken
      case h_1 u recovering =>
        cases taken
        refine (Nat.zero_add _).le.trans (mayRenew_enter (s := s.call _) fun _ => ?_)
        simp only [call, recovering]
        exact le_rfl
  | write b w commits =>
      obtain ⟨u, -, rfl⟩ := Option.map_eq_some_iff.mp taken
      exact (Nat.zero_add _).le
  | renewWriterLease b now commits =>
      simp only [step] at taken
      split at taken
      case h_2 => cases taken
      case h_1 u serving =>
        cases taken
        have spent (granted : Bool) :
            (if granted then ServicePhase.renewed u else .losing u).mayRenew t = 0 := by
          cases granted <;> rfl
        rcases eq_or_ne a b with rfl | other
        · simp only [enter, Function.update_self, spent, Nat.add_zero]
          rcases eq_or_ne u t with rfl | otherTerm
          · rw [serving, ServicePhase.mayRenew, if_pos rfl]
            exact Bool.toNat_le _
          · have elsewhere : ¬s.gateway a = .serving t := by
              rw [serving]
              exact fun same => otherTerm (ServicePhase.serving.inj same)
            simp only [renews, elsewhere, decide_false, Bool.and_false, Bool.false_and,
              Bool.toNat_false, Nat.zero_le]
        · simp only [renews, other.symm, decide_false, Bool.false_and, Bool.toNat_false,
            Nat.zero_add]
          exact mayRenew_enter (s := s.call _) fun same => absurd same other
  | checkLeadership b answered =>
      simp only [step] at taken
      split at taken
      case h_2 => cases taken
      case h_1 u renewed =>
        cases taken
        refine (Nat.zero_add _).le.trans (mayRenew_enter ?_)
        rintro rfl
        rcases eq_or_ne u t with rfl | otherTerm
        · rw [s.not_leader past answered]
          exact Nat.zero_le _
        · split
          · rw [ServicePhase.mayRenew, if_neg otherTerm]
            exact Nat.zero_le _
          · exact Nat.zero_le _
  | close b now commits =>
      obtain ⟨u, -, rfl⟩ := Option.map_eq_some_iff.mp taken
      exact (Nat.zero_add _).le.trans <| mayRenew_enter (s := s.call _) fun _ => Nat.zero_le _
  | exit b =>
      cases taken
      exact (Nat.zero_add _).le.trans <| mayRenew_enter fun _ => Nat.zero_le _

/-- Only an event of the cluster moves the cluster. -/
theorem raft_of_step {e : DeploymentEvent Command Doc} (taken : step cluster s e = some s') :
    s'.raft = s.raft ∨ ∃ moved, ClusterState.step cluster s.raft moved = some s'.raft := by
  cases e with
  | raft e =>
      obtain ⟨raft, moved, rfl⟩ := Option.map_eq_some_iff.mp taken
      exact .inr ⟨e, moved⟩
  | write | close =>
      obtain ⟨u, -, rfl⟩ := Option.map_eq_some_iff.mp taken
      exact .inl rfl
  | exit =>
      cases taken
      exact .inl rfl
  | start | pollStatus | acquire | recovered | recoveryFailed | renewWriterLease
  | checkLeadership =>
      simp only [step] at taken
      split at taken
      · cases taken
        exact .inl rfl
      · cases taken

theorem past_step (I : Elected cluster s h) (past : (s.raft.nodes a).Past t)
    {e : DeploymentEvent Command Doc} (taken : step cluster s e = some s') :
    (s'.raft.nodes a).Past t := by
  rcases raft_of_step taken with same | ⟨e, moved⟩
  · rwa [same]
  have ran : Lib.run (ClusterState.step cluster) s.raft [e] = some s'.raft := by
    rw [Lib.run, moved]
    rfl
  obtain ⟨h', kept, -⟩ := run_keeps
    (R := fun raft h => ElectionInv cluster raft h ∧ (raft.nodes a).Past t) And.left
    (fun held move => ⟨(held.1.move move).1, held.2.move move⟩) ⟨I.raft, past⟩
    (runs_unrestricted cluster [e]) ran
  exact kept.2

/-- As soon as its node does not lead in its term any more, a gateway renews its lease at most
    once, in whatever order everything else goes on. -/
theorem deposed_renews_once (cluster : Cluster) {db : Database Doc}
    {events : List (DeploymentEvent Command Doc)} (ran : runs cluster db events = some s)
    (elected : (s.gateway a).term? = some t)
    (deposed : ¬((s.raft.nodes a).role = .leader ∧ (s.raft.nodes a).currentTerm = t))
    (later : List (DeploymentEvent Command Doc)) : renewals cluster ⟨a, t⟩ s later ≤ 1 := by
  obtain ⟨h, I, -⟩ := (Elected.init cluster db).run ran
  have past := RaftNode.Past.of_won I.raft (I.won elected) deposed
  suffices renewals cluster ⟨a, t⟩ s later ≤ (s.gateway a).mayRenew t from
    this.trans (ServicePhase.mayRenew_le_one t _)
  clear ran elected deposed
  induction later generalizing s h with
  | nil => exact Nat.zero_le _
  | cons e es ih =>
      unfold renewals
      cases taken : step cluster s e with
      | none => exact Nat.zero_le _
      | some s' =>
          obtain ⟨h', I', -⟩ := I.step taken
          have rest := ih h' I' (past_step I past taken)
          exact (Nat.add_le_add_left rest _).trans (renewals_step past taken)

/-- Another node campaigns and the elected one hears of it. -/
def deposeFirst : List (DeploymentEvent String Unit) :=
  serveFirst ++ [.raft (.electionTimeout "n2"), .raft (.deliver 5)]

theorem deposed_renews_once_threeNodes :
    ∃ s, runs threeNodes ({} : Database Unit) deposeFirst = some s ∧
      renewals threeNodes ⟨"n1", 1⟩ s
        [.renewWriterLease "n1" 10 true, .checkLeadership "n1" true,
          .renewWriterLease "n1" 20 true] ≤ 1 := by
  have ran := (Option.some_get
    (x := runs threeNodes ({} : Database Unit) deposeFirst) (by decide)).symm
  exact ⟨_, ran, deposed_renews_once threeNodes ran (by decide) (by decide) _⟩

end Deployment

end FleetRMW.Gateway
