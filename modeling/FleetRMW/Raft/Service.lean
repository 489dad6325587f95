import FleetRMW.Raft.Matching

/-! # The key-value service on a replica

`RaftService` drives one replica and applies what it commits to a dictionary. A client's
write is proposed and then waited for: the wait looks only at whether `last_applied` has
reached the index that the proposal was given, not at what stands there by then.
-/

namespace FleetRMW.Raft

open ClusterState

/-- The command `{"kind": "put", "key": key, "value": value}`. -/
structure Put where
  key : String
  value : String
  deriving Repr, DecidableEq

/-- What `propose_put` returned, with the term in which the entry was appended. -/
structure Proposal where
  index : Nat
  term : Nat
  put : Put
  deriving Repr, DecidableEq

/-- `appliedAt a i` is the command that `a` has applied for log index `i`; `proposed` and
    `acknowledged` list the writes that were proposed on a node and those for which
    `wait_for_commit` has returned true there. -/
structure ServiceState where
  cluster : ClusterState Put
  stateMachine : NodeId → String → Option String
  appliedAt : NodeId → Nat → Option Put
  proposed : NodeId → List Proposal
  acknowledged : NodeId → List Proposal

inductive ServiceEvent where
  | electionTimeout (a : NodeId)
  | heartbeatDue (a : NodeId)
  | proposePut (a : NodeId) (put : Put)
  | deliver (i : Nat)
  /-- One turn of the loop in `wait_for_commit` for the proposal number `k` on `a`. -/
  | poll (a : NodeId) (k : Nat)

namespace RaftNode

/-- One turn of the loop in `wait_for_commit`: true, false, or look again. -/
def waitForCommitTurn {Command : Type} (n : RaftNode Command) (index : Nat) : Option Bool :=
  if n.lastApplied ≥ index then
    some true
  else if n.role ≠ .leader then
    some false
  else
    none

end RaftNode

namespace ServiceState

def init (cluster : Cluster) : ServiceState where
  cluster := ClusterState.init cluster
  stateMachine _ _ := none
  appliedAt _ _ := none
  proposed _ := []
  acknowledged _ := []

/-- `_apply_committed_locked`. The first command that `take_newly_committed` returns is
    that of index `last_applied + 1`. -/
def applyCommitted (s : ServiceState) (a : NodeId) : ServiceState :=
  let old := s.cluster.nodes a
  let (n, commands) := old.takeNewlyCommitted
  { s with
    cluster := (s.cluster.put a n).apply a commands
    stateMachine := Function.update s.stateMachine a
      (commands.foldl (fun dict put => Function.update dict put.key (some put.value))
        (s.stateMachine a))
    appliedAt := Function.update s.appliedAt a fun i =>
      if old.lastApplied < i ∧ (i : Int) ≤ n.lastApplied then
        commands[(i - (old.lastApplied + 1)).toNat]?
      else
        s.appliedAt a i }

def proposePut (s : ServiceState) (a : NodeId) (put : Put) : ServiceState :=
  match (s.cluster.nodes a).propose put with
  | (n, none) => { s with cluster := s.cluster.put a n }
  | (n, some index) =>
      { s with
        cluster := (s.cluster.put a n).send (n.onHeartbeatDue.messages a)
        proposed := Function.update s.proposed a
          (s.proposed a ++ [⟨index.toNat, n.currentTerm, put⟩]) }

/-- The handlers of the two Raft requests and of their replies. -/
def receive (s : ServiceState) (m : Message Put) : ServiceState :=
  let s := { s with cluster := s.cluster.receive m }
  match m with
  | .appendEntries _ dst _ => s.applyCommitted dst
  | .appendEntriesReply _ dst _ => s.applyCommitted dst
  | _ => s

def acknowledge (s : ServiceState) (a : NodeId) (p : Proposal) : ServiceState :=
  if (s.cluster.nodes a).waitForCommitTurn p.index = some true then
    { s with acknowledged := Function.update s.acknowledged a (s.acknowledged a ++ [p]) }
  else
    s

def step (cluster : Cluster) (s : ServiceState) : ServiceEvent → Option ServiceState
  | .electionTimeout a =>
      (s.cluster.step cluster (.electionTimeout a)).map fun c => { s with cluster := c }
  | .heartbeatDue a =>
      (s.cluster.step cluster (.heartbeatDue a)).map fun c => { s with cluster := c }
  | .proposePut a put => if a ∈ cluster.members then some (s.proposePut a put) else none
  | .deliver i => (s.cluster.network[i]?).map s.receive
  | .poll a k => ((s.proposed a)[k]?).map (s.acknowledge a)

def runs (cluster : Cluster) (events : List ServiceEvent) : Option ServiceState :=
  Lib.run (step cluster) (init cluster) events

end ServiceState

/-- The entries about to be applied on `a` are, in the slots of its proposals, of the terms
    in which they were proposed. -/
def ServiceState.SlotsHold (s : ServiceState) (a : NodeId) : Prop :=
  ∀ p ∈ s.proposed a, (s.cluster.nodes a).lastApplied < p.index →
    p.index ≤ (s.cluster.nodes a).commitIndex →
      ((s.cluster.nodes a).log[p.index]?).map LogEntry.term = some p.term

instance (s : ServiceState) (a : NodeId) : Decidable (s.SlotsHold a) := by
  unfold ServiceState.SlotsHold; infer_instance

/-- A write is proposed where nothing is applied yet, and when a message has been handled
    and `take_newly_committed` is due, no slot of a proposal has been given to an entry
    of another term. -/
def ServiceEvent.Kept (s : ServiceState) : ServiceEvent → Prop
  | .proposePut a _ =>
      (s.cluster.nodes a).role = .leader →
        (s.cluster.nodes a).lastApplied < (s.cluster.nodes a).log.length
  | .deliver i => match s.cluster.network[i]? with
    | some (.appendEntries src dst request) =>
        { s with cluster := s.cluster.receive (.appendEntries src dst request) }.SlotsHold dst
    | some (.appendEntriesReply src dst response) =>
        { s with cluster := s.cluster.receive (.appendEntriesReply src dst response) }.SlotsHold dst
    | _ => True
  | _ => True

instance (s : ServiceState) (e : ServiceEvent) : Decidable (e.Kept s) := by
  unfold ServiceEvent.Kept
  split
  · infer_instance
  · split <;> infer_instance
  · infer_instance

section LastApplied

variable {Command : Type} (n : RaftNode Command)

theorem stepDown_lastApplied (t : Nat) : (n.stepDownIfStale t).lastApplied = n.lastApplied := by
  unfold RaftNode.stepDownIfStale
  split <;> rfl

theorem requestVote_lastApplied (request : RequestVoteRequest) :
    (n.handleRequestVote request).1.lastApplied = n.lastApplied := by
  simp only [RaftNode.handleRequestVote]
  split
  · exact stepDown_lastApplied n _
  · split <;> exact stepDown_lastApplied n _

theorem requestVoteResponse_lastApplied (response : RequestVoteResponse) :
    (n.handleRequestVoteResponse response).1.lastApplied = n.lastApplied := by
  simp only [RaftNode.handleRequestVoteResponse]
  split
  · exact stepDown_lastApplied n _
  · split
    · split <;> exact stepDown_lastApplied n _
    · exact stepDown_lastApplied n _

theorem appendEntries_lastApplied (request : AppendEntriesRequest Command) :
    (n.handleAppendEntries request).1.lastApplied = n.lastApplied := by
  simp only [RaftNode.handleAppendEntries]
  split
  · exact stepDown_lastApplied n _
  · split
    · exact stepDown_lastApplied n _
    · split
      · exact stepDown_lastApplied n _
      · split <;> exact stepDown_lastApplied n _

theorem advanceFrom_lastApplied (count : Nat) :
    (n.advanceFrom count).lastApplied = n.lastApplied := by
  induction count with
  | zero => rfl
  | succ index ih =>
      simp only [RaftNode.advanceFrom]
      split
      · rfl
      · split
        · exact ih
        · split
          · rfl
          · exact ih

theorem appendEntriesResponse_lastApplied (peer : NodeId) (response : AppendEntriesResponse) :
    (n.handleAppendEntriesResponse peer response).1.lastApplied = n.lastApplied := by
  simp only [RaftNode.handleAppendEntriesResponse]
  split
  · exact stepDown_lastApplied n _
  · split
    · exact (advanceFrom_lastApplied _ _).trans (stepDown_lastApplied n _)
    · exact stepDown_lastApplied n _

theorem electionTimeout_lastApplied : n.onElectionTimeout.1.lastApplied = n.lastApplied := by
  unfold RaftNode.onElectionTimeout
  split <;> rfl

theorem put_lastApplied (s : ClusterState Command) (a b : NodeId) {n : RaftNode Command}
    (same : n.lastApplied = (s.nodes a).lastApplied) :
    ((s.put a n).nodes b).lastApplied = (s.nodes b).lastApplied := by
  by_cases hb : b = a
  · subst hb
    rw [put_nodes_self, same]
  · rw [put_nodes, Function.update_of_ne hb]

/-- Only `take_newly_committed` moves `last_applied`. -/
theorem receive_lastApplied (s : ClusterState Command) (m : Message Command) (b : NodeId) :
    ((s.receive m).nodes b).lastApplied = (s.nodes b).lastApplied := by
  cases m with
  | requestVote src dst request => exact put_lastApplied s dst b (requestVote_lastApplied ..)
  | requestVoteReply src dst response =>
      exact put_lastApplied s dst b (requestVoteResponse_lastApplied ..)
  | appendEntries src dst request => exact put_lastApplied s dst b (appendEntries_lastApplied ..)
  | appendEntriesReply src dst response =>
      exact put_lastApplied s dst b (appendEntriesResponse_lastApplied ..)

/-- What a call of `take_newly_committed` does to `last_applied`, and which command it
    returns for an index. -/
theorem takeNewlyCommitted_spec (started : -1 ≤ n.lastApplied) :
    n.lastApplied ≤ n.takeNewlyCommitted.1.lastApplied ∧
      ∀ i : Nat, n.lastApplied < i → i ≤ n.takeNewlyCommitted.1.lastApplied →
        i ≤ n.commitIndex ∧ n.takeNewlyCommitted.2[(i - (n.lastApplied + 1)).toNat]? =
          (n.log[i]?).map LogEntry.command := by
  unfold RaftNode.takeNewlyCommitted
  split
  · refine ⟨le_rfl, fun i after upto => ?_⟩
    simp only at upto
    omega
  · rename_i behind
    refine ⟨by simp only; omega, fun i after upto => ⟨upto, ?_⟩⟩
    simp only at upto
    rw [List.getElem?_map, List.getElem?_drop, List.getElem?_take_of_lt (by omega)]
    congr 2
    omega

end LastApplied

/-- Every proposal is in the log of its term's leader, and what has been applied in its
    slot is the proposed write. -/
structure ServiceInv (cluster : Cluster) (s : ServiceState) (h : History Put) : Prop where
  election : ElectionInv cluster s.cluster h
  logs : LogInv s.cluster h
  started : ∀ a, -1 ≤ (s.cluster.nodes a).lastApplied
  written : ∀ a, ∀ p ∈ s.proposed a, (h.leaderLog p.term)[p.index]? = some ⟨p.term, p.put⟩
  applied : ∀ a, ∀ p ∈ s.proposed a, (p.index : Int) ≤ (s.cluster.nodes a).lastApplied →
    s.appliedAt a p.index = some p.put
  acknowledged : ∀ a, ∀ p ∈ s.acknowledged a,
    p ∈ s.proposed a ∧ (p.index : Int) ≤ (s.cluster.nodes a).lastApplied

namespace ServiceInv

variable {cluster : Cluster} {s s' : ServiceState} {h : History Put} {a : NodeId}

theorem init (cluster : Cluster) : ServiceInv cluster (.init cluster) {} where
  election := .init cluster
  logs := .init cluster
  started _ := le_rfl
  written a p hp := by cases hp
  applied a p hp := by cases hp
  acknowledged a p hp := by cases hp

/-- The cluster takes some moves in which nothing is applied. -/
theorem moves (I : ServiceInv cluster s h) {c : ClusterState Put}
    (resolves : Resolves cluster (fun _ _ => True) s.cluster c)
    (lastApplied : ∀ b, (c.nodes b).lastApplied = (s.cluster.nodes b).lastApplied) :
    ∃ h', ServiceInv cluster { s with cluster := c } h' := by
  obtain ⟨h', E, L, grows⟩ := resolves_traced I.election I.logs resolves
  exact ⟨h',
    { election := E
      logs := L
      started := fun b => by rw [lastApplied]; exact I.started b
      written := fun b p hp => Lib.getElem?_of_isPrefix (grows p.term) (I.written b p hp)
      applied := fun b p hp reached => I.applied b p hp (lastApplied b ▸ reached)
      acknowledged := fun b p hp => by
        obtain ⟨proposed, reached⟩ := I.acknowledged b p hp
        exact ⟨proposed, (lastApplied b).symm ▸ reached⟩ }⟩

/-- Applying keeps what was applied, and applies proposals whose slots hold. -/
theorem applyCommitted (I : ServiceInv cluster s h) (hold : s.SlotsHold a) :
    ∃ h', ServiceInv cluster (s.applyCommitted a) h' := by
  have taken : Resolves cluster (fun _ _ => True) s.cluster (s.applyCommitted a).cluster :=
    take_resolves s.cluster a
  obtain ⟨h', E, L, grows⟩ := resolves_traced I.election I.logs taken
  obtain ⟨advances, returned⟩ := takeNewlyCommitted_spec (s.cluster.nodes a) (I.started a)
  have lastApplied b : (s.cluster.nodes b).lastApplied ≤
      ((s.applyCommitted a).cluster.nodes b).lastApplied := by
    by_cases hb : b = a
    · subst hb
      simpa only [ServiceState.applyCommitted, apply_nodes, put_nodes_self] using advances
    · simp [ServiceState.applyCommitted, hb]
  refine ⟨h', ⟨E, L, fun b => (I.started b).trans (lastApplied b), fun b p hp =>
    Lib.getElem?_of_isPrefix (grows p.term) (I.written b p hp), fun b p hp reached => ?_,
    fun b p hp => ?_⟩⟩
  · by_cases hb : b = a
    · subst hb
      simp only [ServiceState.applyCommitted, apply_nodes, put_nodes_self] at reached
      simp only [ServiceState.applyCommitted, Function.update_self]
      by_cases old : (p.index : Int) ≤ (s.cluster.nodes b).lastApplied
      · rw [if_neg (by omega)]
        exact I.applied b p hp old
      · rw [if_pos ⟨by omega, reached⟩]
        obtain ⟨committed, command⟩ := returned p.index (by omega) reached
        have slot := hold p hp (by omega) committed
        obtain ⟨e, at_, term⟩ := Option.map_eq_some_iff.mp slot
        -- the entry in the slot is traced to the same leader as the proposal
        have copied := (I.logs.node b).traced.getElem? at_
        rw [term, I.written b p hp] at copied
        rw [command, at_, ← Option.some.inj copied]
        rfl
    · simp only [ServiceState.applyCommitted, apply_nodes, put_nodes, Function.update_of_ne hb]
        at reached ⊢
      exact I.applied b p hp reached
  · obtain ⟨proposed, reached⟩ := I.acknowledged b p hp
    exact ⟨proposed, reached.trans (lastApplied b)⟩

theorem proposePut (I : ServiceInv cluster s h) (put : Put)
    (room : (s.cluster.nodes a).role = .leader →
      (s.cluster.nodes a).lastApplied < (s.cluster.nodes a).log.length) :
    ∃ h', ServiceInv cluster (s.proposePut a put) h' := by
  by_cases leads : (s.cluster.nodes a).role = .leader
  · let n := s.cluster.nodes a
    let m : RaftNode Put := { n with log := n.log ++ [⟨n.currentTerm, put⟩] }
    let c := (s.cluster.put a m).send (m.onHeartbeatDue.messages a)
    have proposed : (s.cluster.nodes a).propose put = (m, some (n.log.length : Int)) := by
      simp [RaftNode.propose, leads, RaftNode.lastLogIndex, m, n]
    have resolves : Resolves cluster (fun _ _ => True) s.cluster c := by
      have appended : Resolves cluster (fun _ _ => True) s.cluster _ :=
        propose_resolves s.cluster a put
      have beats := appended.trans (heartbeat_resolves _ a)
      rwa [put_nodes_self, proposed] at beats
    obtain ⟨h', I'⟩ := I.moves resolves fun b => put_lastApplied s.cluster a b rfl
    have result : s.proposePut a put =
        { s with
          cluster := c
          proposed := Function.update s.proposed a
            (s.proposed a ++ [⟨n.log.length, n.currentTerm, put⟩]) } := by
      simp [ServiceState.proposePut, proposed, c, m]
    have at_ : c.nodes a = m := put_nodes_self s.cluster a m
    have whole : m.log = h'.leaderLog n.currentTerm := (I'.logs.node_at at_).leader leads
    have entry : (h'.leaderLog n.currentTerm)[n.log.length]? = some ⟨n.currentTerm, put⟩ := by
      rw [← whole]
      simp [m]
    have unapplied : ¬((n.log.length : Int) ≤ (c.nodes a).lastApplied) := by
      rw [at_]
      exact not_le.mpr (room leads)
    have known {b p} (hp : p ∈ (s.proposePut a put).proposed b) :
        p ∈ s.proposed b ∨ b = a ∧ p = ⟨n.log.length, n.currentTerm, put⟩ := by
      rw [result] at hp
      by_cases hb : b = a
      · subst hb
        simp only [Function.update_self] at hp
        exact (List.mem_append.mp hp).imp id fun new => ⟨rfl, List.mem_singleton.mp new⟩
      · simp only [Function.update_of_ne hb] at hp
        exact .inl hp
    refine ⟨h', ⟨?_, ?_, ?_, fun b p hp => ?_, fun b p hp => ?_, fun b p hp => ?_⟩⟩
    · rw [result]
      exact I'.election
    · rw [result]
      exact I'.logs
    · rw [result]
      exact I'.started
    · obtain old | ⟨rfl, rfl⟩ := known hp
      · exact I'.written b p old
      · exact entry
    · have known := known hp
      rw [result]
      obtain old | ⟨rfl, rfl⟩ := known
      · exact I'.applied b p old
      · exact fun reached => absurd reached unapplied
    · rw [result] at hp ⊢
      obtain ⟨old, reached⟩ := I'.acknowledged b p hp
      refine ⟨?_, reached⟩
      by_cases hb : b = a
      · subst hb
        simp only [Function.update_self]
        exact List.mem_append_left _ old
      · simp only [Function.update_of_ne hb]
        exact old
  · have refused : (s.cluster.nodes a).propose put = (s.cluster.nodes a, none) := by
      simp [RaftNode.propose, leads]
    have unchanged : s.proposePut a put = s := by
      simp [ServiceState.proposePut, refused]
    rw [unchanged]
    exact ⟨h, I⟩

theorem acknowledge (I : ServiceInv cluster s h) {p : Proposal} (hp : p ∈ s.proposed a) :
    ServiceInv cluster (s.acknowledge a p) h := by
  unfold ServiceState.acknowledge
  split
  · rename_i answer
    have reached : (p.index : Int) ≤ (s.cluster.nodes a).lastApplied := by
      unfold RaftNode.waitForCommitTurn at answer
      split at answer
      · assumption
      · split at answer <;> cases answer
    exact
      { election := I.election
        logs := I.logs
        started := I.started
        written := I.written
        applied := I.applied
        acknowledged := fun b q hq => by
          by_cases hb : b = a
          · subst hb
            simp only [Function.update_self] at hq
            obtain old | new := List.mem_append.mp hq
            · exact I.acknowledged b q old
            · rw [List.mem_singleton.mp new]
              exact ⟨hp, reached⟩
          · simp only [Function.update_of_ne hb] at hq
            exact I.acknowledged b q hq }
  · exact I

theorem step {e : ServiceEvent} (I : ServiceInv cluster s h) (kept : e.Kept s)
    (taken : s.step cluster e = some s') : ∃ h', ServiceInv cluster s' h' := by
  cases e with
  | electionTimeout a =>
      obtain ⟨ha, rfl⟩ : a ∈ cluster.members ∧ _ = s' := by
        simpa [ServiceState.step, ClusterState.step] using taken
      exact I.moves (electionTimeout_resolves ha)
        fun b => put_lastApplied s.cluster a b (electionTimeout_lastApplied _)
  | heartbeatDue a =>
      obtain ⟨ha, rfl⟩ : a ∈ cluster.members ∧ _ = s' := by
        simpa [ServiceState.step, ClusterState.step] using taken
      exact I.moves (heartbeat_resolves s.cluster a) fun _ => rfl
  | proposePut a put =>
      obtain ⟨ha, rfl⟩ : a ∈ cluster.members ∧ _ = s' := by
        simpa [ServiceState.step] using taken
      exact I.proposePut put kept
  | deliver i =>
      obtain ⟨m, at_, rfl⟩ : ∃ m, s.cluster.network[i]? = some m ∧ s.receive m = s' := by
        simpa [ServiceState.step] using taken
      have handled : Resolves cluster (fun _ _ => True) s.cluster (s.cluster.receive m) :=
        receive_resolves (List.mem_of_getElem? at_) (fun _ _ _ => I.election.replies_from_peers)
          fun _ _ _ _ _ => True.intro
      obtain ⟨h₁, I₁⟩ := I.moves handled (receive_lastApplied s.cluster m)
      simp only [ServiceEvent.Kept, at_] at kept
      cases m with
      | requestVote src dst request => exact ⟨h₁, I₁⟩
      | requestVoteReply src dst response => exact ⟨h₁, I₁⟩
      | appendEntries src dst request => exact I₁.applyCommitted kept
      | appendEntriesReply src dst response => exact I₁.applyCommitted kept
  | poll a k =>
      obtain ⟨p, at_, rfl⟩ : ∃ p, (s.proposed a)[k]? = some p ∧ s.acknowledge a p = s' := by
        simpa [ServiceState.step] using taken
      exact ⟨h, I.acknowledge (List.mem_of_getElem? at_)⟩

end ServiceInv

/-- A write that `n1` proposes in term 1, commits with `n2` and finds applied. -/
def putCommitted : List ServiceEvent :=
  [.electionTimeout "n1", .deliver 0, .deliver 2, .proposePut "n1" ⟨"k", "a"⟩, .deliver 5,
    .deliver 7, .poll "n1" 0]

/-- `n1` proposes a write in term 1 that no other node receives. `n2` wins term 2 with the
    vote of `n3`, proposes another write in the same slot and commits it with `n3`. Its next
    request overwrites the slot on `n1` and commits it there, and the wait on `n1` ends with
    true. -/
def putOverwritten : List ServiceEvent :=
  [.electionTimeout "n1", .deliver 0, .deliver 2, .proposePut "n1" ⟨"k", "a"⟩,
    .electionTimeout "n2", .deliver 8, .deliver 9, .proposePut "n2" ⟨"k", "b"⟩,
    .deliver 13, .deliver 14, .heartbeatDue "n2", .deliver 15, .poll "n1" 0]

end FleetRMW.Raft
