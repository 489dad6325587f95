import FleetRMW.Lib.Run
import FleetRMW.Raft.Node

/-! # A cluster of Raft replicas

The network keeps every message that was ever sent. Delivering one hands it to its
addressee without removing it, so a message may arrive late, out of order, more than
once or never. A reply travels back on the connection of its request, which is why it
carries the two ends and why the leader knows which peer a reply comes from.
-/

namespace FleetRMW.Raft

/-- Distinct node ids, each with the list of all the others as its peers. -/
structure Cluster where
  members : Finset NodeId
  peers : NodeId → List NodeId
  several : 2 ≤ members.card
  named : ∀ a ∈ members, a ≠ ""
  peersNodup : ∀ a ∈ members, (peers a).Nodup
  memPeers : ∀ a ∈ members, ∀ b, b ∈ peers a ↔ b ∈ members ∧ b ≠ a

inductive Message (Command : Type) where
  | requestVote (src dst : NodeId) (request : RequestVoteRequest)
  | requestVoteReply (src dst : NodeId) (response : RequestVoteResponse)
  | appendEntries (src dst : NodeId) (request : AppendEntriesRequest Command)
  | appendEntriesReply (src dst : NodeId) (response : AppendEntriesResponse)

/-- `applied a` lists what the calls of `take_newly_committed` on `a` have returned. -/
structure ClusterState (Command : Type) where
  nodes : NodeId → RaftNode Command
  network : List (Message Command)
  applied : NodeId → List Command

inductive Event (Command : Type) where
  | electionTimeout (a : NodeId)
  | heartbeatDue (a : NodeId)
  | propose (a : NodeId) (command : Command)
  | takeNewlyCommitted (a : NodeId)
  /-- Deliver the message that was sent as number `i`, again or for the first time. -/
  | deliver (i : Nat)

variable {Command : Type}

def Outbox.messages (src : NodeId) (outbox : Outbox Command) : List (Message Command) :=
  outbox.requestVotes.map (fun (dst, request) => .requestVote src dst request) ++
    outbox.appendEntries.map (fun (dst, request) => .appendEntries src dst request)

namespace ClusterState

def init (cluster : Cluster) : ClusterState Command where
  nodes a := { nodeId := a, peerIds := cluster.peers a }
  network := []
  applied _ := []

/-- Replace the state of one node. -/
def put (s : ClusterState Command) (a : NodeId) (n : RaftNode Command) : ClusterState Command :=
  { s with nodes := Function.update s.nodes a n }

def send (s : ClusterState Command) (messages : List (Message Command)) : ClusterState Command :=
  { s with network := s.network ++ messages }

/-- Record what a call of `take_newly_committed` returned. -/
def apply (s : ClusterState Command) (a : NodeId) (commands : List Command) :
    ClusterState Command :=
  { s with applied := Function.update s.applied a (s.applied a ++ commands) }

def receive (s : ClusterState Command) : Message Command → ClusterState Command
  | .requestVote src dst request =>
      let (n, response) := (s.nodes dst).handleRequestVote request
      (s.put dst n).send [.requestVoteReply dst src response]
  | .requestVoteReply _ dst response =>
      let (n, outbox) := (s.nodes dst).handleRequestVoteResponse response
      (s.put dst n).send (outbox.messages dst)
  | .appendEntries src dst request =>
      let (n, response) := (s.nodes dst).handleAppendEntries request
      (s.put dst n).send [.appendEntriesReply dst src response]
  | .appendEntriesReply src dst response =>
      let (n, outbox) := (s.nodes dst).handleAppendEntriesResponse src response
      (s.put dst n).send (outbox.messages dst)

/-- One event; events of nodes outside the cluster and deliveries of messages that
    were never sent are not enabled. -/
def step (cluster : Cluster) (s : ClusterState Command) :
    Event Command → Option (ClusterState Command)
  | .electionTimeout a =>
      if a ∈ cluster.members then
        let (n, outbox) := (s.nodes a).onElectionTimeout
        some ((s.put a n).send (outbox.messages a))
      else
        none
  | .heartbeatDue a =>
      if a ∈ cluster.members then
        some (s.send ((s.nodes a).onHeartbeatDue.messages a))
      else
        none
  | .propose a command =>
      if a ∈ cluster.members then some (s.put a ((s.nodes a).propose command).1) else none
  | .takeNewlyCommitted a =>
      if a ∈ cluster.members then
        let (n, commands) := (s.nodes a).takeNewlyCommitted
        some ((s.put a n).apply a commands)
      else
        none
  | .deliver i => (s.network[i]?).map s.receive

/-- The state after the listed events, from the cluster's start. -/
def runs (cluster : Cluster) (events : List (Event Command)) : Option (ClusterState Command) :=
  Lib.run (step cluster) (init cluster) events

section
variable (s : ClusterState Command) (a : NodeId) (n : RaftNode Command)

@[simp] theorem put_nodes : (s.put a n).nodes = Function.update s.nodes a n := rfl
theorem put_nodes_self : (s.put a n).nodes a = n := Function.update_self ..
@[simp] theorem put_network : (s.put a n).network = s.network := rfl
@[simp] theorem put_applied : (s.put a n).applied = s.applied := rfl

@[simp] theorem send_nodes (ms : List (Message Command)) : (s.send ms).nodes = s.nodes := rfl
@[simp] theorem send_network (ms : List (Message Command)) :
    (s.send ms).network = s.network ++ ms := rfl
@[simp] theorem send_applied (ms : List (Message Command)) :
    (s.send ms).applied = s.applied := rfl

@[simp] theorem apply_nodes (cs : List Command) : (s.apply a cs).nodes = s.nodes := rfl
@[simp] theorem apply_network (cs : List Command) : (s.apply a cs).network = s.network := rfl
@[simp] theorem apply_applied (cs : List Command) :
    (s.apply a cs).applied = Function.update s.applied a (s.applied a ++ cs) := rfl

@[simp] theorem put_put (m : RaftNode Command) : (s.put a n).put a m = s.put a m := by
  simp only [put, Function.update_idem]

@[simp] theorem put_self : s.put a (s.nodes a) = s := by
  simp only [put, Function.update_eq_self]

@[simp] theorem send_nil : s.send [] = s := by
  simp only [send, List.append_nil]

@[simp] theorem apply_nil : s.apply a [] = s := by
  simp only [apply, List.append_nil, Function.update_eq_self]

theorem send_put (ms : List (Message Command)) : (s.send ms).put a n = (s.put a n).send ms := rfl

end

end ClusterState

/-- The constructor accepts the arguments that a cluster gives it. -/
theorem Cluster.node_constructed (cluster : Cluster) {a : NodeId} (ha : a ∈ cluster.members) :
    RaftNode.new a (cluster.peers a) =
      .ok ((ClusterState.init cluster : ClusterState Command).nodes a) := by
  have absent : a ∉ cluster.peers a := fun h => ((cluster.memPeers a ha a).mp h).2 rfl
  have somePeer : cluster.peers a ≠ [] := by
    obtain ⟨b, hb, hne⟩ := Finset.exists_mem_ne cluster.several a
    exact List.ne_nil_of_mem ((cluster.memPeers a ha b).mpr ⟨hb, hne⟩)
  simp [RaftNode.new, cluster.named a ha, absent, somePeer, ClusterState.init]

theorem Cluster.peers_length (cluster : Cluster) {a : NodeId} (ha : a ∈ cluster.members) :
    (cluster.peers a).length + 1 = cluster.members.card := by
  have same : (cluster.peers a).toFinset = cluster.members.erase a := by
    ext b
    rw [List.mem_toFinset, cluster.memPeers a ha b, Finset.mem_erase, and_comm]
  rw [← List.toFinset_card_of_nodup (cluster.peersNodup a ha), same,
    Finset.card_erase_add_one ha]

/-- The smallest cluster that survives the loss of a node. -/
def threeNodes : Cluster where
  members := {"n1", "n2", "n3"}
  peers a := ["n1", "n2", "n3"].erase a
  several := by decide
  named := by decide
  peersNodup := by decide
  memPeers a ha b := by
    rw [List.Nodup.mem_erase_iff (by decide)]
    simp [and_comm]

/-- `n1` wins the first election with the vote of `n2`. -/
def electFirst : List (Event String) := [.electionTimeout "n1", .deliver 0, .deliver 2]

end FleetRMW.Raft
