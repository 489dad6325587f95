import Mathlib.Data.Finset.Insert
import Mathlib.Data.Finset.Card
import Mathlib.Logic.Function.Basic

/-! # One Raft replica

The transport-free core of `fleetqox/raft.py`. Every method of `RaftNode` is a pure
function from the node's state and one incoming event to the next state and the
messages to send. Log positions are 0-based; `-1` stands for "before the log", so
indices that may take that value are integers, while a length is a natural number.
-/

namespace FleetRMW.Raft

abbrev NodeId := String

inductive Role where
  | follower
  | candidate
  | leader
  deriving Repr, DecidableEq

structure LogEntry (Command : Type) where
  term : Nat
  command : Command
  deriving Repr, DecidableEq

structure RequestVoteRequest where
  term : Nat
  candidateId : NodeId
  lastLogIndex : Int
  lastLogTerm : Nat
  deriving Repr, DecidableEq

structure RequestVoteResponse where
  term : Nat
  voteGranted : Bool
  voterId : NodeId
  deriving Repr, DecidableEq

structure AppendEntriesRequest (Command : Type) where
  term : Nat
  leaderId : NodeId
  prevLogIndex : Int
  prevLogTerm : Nat
  entries : List (LogEntry Command)
  leaderCommit : Int
  deriving Repr, DecidableEq

/-- `matchLengthHint` is the follower's whole log length after the request, also
    where the request covers only a part of that log. -/
structure AppendEntriesResponse where
  term : Nat
  success : Bool
  followerId : NodeId
  matchLengthHint : Nat
  deriving Repr, DecidableEq

/-- Messages that a single call produced, for the driver to send. -/
structure Outbox (Command : Type) where
  requestVotes : List (NodeId × RequestVoteRequest) := []
  appendEntries : List (NodeId × AppendEntriesRequest Command) := []

/-- The two dictionaries `next_index` and `match_index` are read only by a leader,
    which has given every peer a value when it was elected, so they are total here. -/
structure RaftNode (Command : Type) where
  nodeId : NodeId
  peerIds : List NodeId
  currentTerm : Nat := 0
  votedFor : Option NodeId := none
  log : List (LogEntry Command) := []
  commitIndex : Int := -1
  lastApplied : Int := -1
  nextIndex : NodeId → Nat := fun _ => 0
  matchIndex : NodeId → Int := fun _ => -1
  votesReceived : Finset NodeId := ∅
  role : Role := .follower
  leaderId : Option NodeId := none

/-- The term of the entry at a position inside the log. -/
def termAt {Command : Type} (log : List (LogEntry Command)) (index : Nat) : Nat :=
  (log[index]?).elim 0 LogEntry.term

namespace RaftNode

variable {Command : Type}

/-- `RaftNode.__init__`. -/
def new (nodeId : NodeId) (peerIds : List NodeId) : Except String (RaftNode Command) :=
  if nodeId = "" ∨ nodeId ∈ peerIds then
    .error "node_id must be set and absent from peer_ids"
  else if peerIds = [] then
    .error "a Raft cluster needs at least one peer"
  else
    .ok { nodeId := nodeId, peerIds := peerIds }

def clusterSize (n : RaftNode Command) : Nat := n.peerIds.length + 1

def majority (n : RaftNode Command) : Nat := n.clusterSize / 2 + 1

def lastLogIndex (n : RaftNode Command) : Int := (n.log.length : Int) - 1

def lastLogTerm (n : RaftNode Command) : Nat := (n.log.getLast?).elim 0 LogEntry.term

def logUpToDate (n : RaftNode Command) (candidateLastTerm : Nat) (candidateLastIndex : Int) :
    Bool :=
  if candidateLastTerm ≠ n.lastLogTerm then
    decide (candidateLastTerm > n.lastLogTerm)
  else
    decide (candidateLastIndex ≥ n.lastLogIndex)

def stepDownIfStale (n : RaftNode Command) (term : Nat) : RaftNode Command :=
  if term > n.currentTerm then
    { n with currentTerm := term, votedFor := none, role := .follower, votesReceived := ∅ }
  else
    n

def appendEntriesFor (n : RaftNode Command) (peer : NodeId) : AppendEntriesRequest Command :=
  let nextIdx := n.nextIndex peer
  let prevIndex : Int := (nextIdx : Int) - 1
  { term := n.currentTerm
    leaderId := n.nodeId
    prevLogIndex := prevIndex
    prevLogTerm :=
      if 0 ≤ prevIndex ∧ prevIndex < n.log.length then termAt n.log prevIndex.toNat else 0
    entries := n.log.drop nextIdx
    leaderCommit := n.commitIndex }

def onHeartbeatDue (n : RaftNode Command) : Outbox Command :=
  if n.role ≠ .leader then
    {}
  else
    { appendEntries := n.peerIds.map fun peer => (peer, n.appendEntriesFor peer) }

def onElectionTimeout (n : RaftNode Command) : RaftNode Command × Outbox Command :=
  if n.role = .leader then
    (n, {})
  else
    let n := { n with
      role := .candidate
      currentTerm := n.currentTerm + 1
      votedFor := some n.nodeId
      votesReceived := {n.nodeId}
      leaderId := none }
    let request : RequestVoteRequest :=
      { term := n.currentTerm
        candidateId := n.nodeId
        lastLogIndex := n.lastLogIndex
        lastLogTerm := n.lastLogTerm }
    (n, { requestVotes := n.peerIds.map fun peer => (peer, request) })

def becomeLeader (n : RaftNode Command) : RaftNode Command × Outbox Command :=
  let nextLen := n.log.length
  let n := { n with
    role := .leader
    leaderId := some n.nodeId
    nextIndex := fun _ => nextLen
    matchIndex := fun _ => -1 }
  (n, n.onHeartbeatDue)

def handleRequestVote (n : RaftNode Command) (request : RequestVoteRequest) :
    RaftNode Command × RequestVoteResponse :=
  let n := n.stepDownIfStale request.term
  if request.term < n.currentTerm then
    (n, ⟨n.currentTerm, false, n.nodeId⟩)
  else
    let canVote := n.votedFor = none ∨ n.votedFor = some request.candidateId
    if canVote ∧ n.logUpToDate request.lastLogTerm request.lastLogIndex then
      ({ n with votedFor := some request.candidateId }, ⟨n.currentTerm, true, n.nodeId⟩)
    else
      (n, ⟨n.currentTerm, false, n.nodeId⟩)

/-- The loop of `handle_append_entries` over `enumerate(request.entries)`, at `index`. -/
def appendLoop : List (LogEntry Command) → Nat → List (LogEntry Command) →
    List (LogEntry Command)
  | log, _, [] => log
  | log, index, entry :: entries =>
      let log :=
        if index < log.length then
          if termAt log index ≠ entry.term then log.take index ++ [entry] else log
        else
          log ++ [entry]
      appendLoop log (index + 1) entries

def handleAppendEntries (n : RaftNode Command) (request : AppendEntriesRequest Command) :
    RaftNode Command × AppendEntriesResponse :=
  let n := n.stepDownIfStale request.term
  if request.term < n.currentTerm then
    (n, ⟨n.currentTerm, false, n.nodeId, n.log.length⟩)
  else
    let n := { n with role := .follower, leaderId := some request.leaderId }
    if request.prevLogIndex ≥ 0 ∧ request.prevLogIndex ≥ n.log.length then
      (n, ⟨n.currentTerm, false, n.nodeId, n.log.length⟩)
    else if request.prevLogIndex ≥ 0 ∧
        termAt n.log request.prevLogIndex.toNat ≠ request.prevLogTerm then
      let n := { n with log := n.log.take request.prevLogIndex.toNat }
      (n, ⟨n.currentTerm, false, n.nodeId, n.log.length⟩)
    else
      let insertAt := (request.prevLogIndex + 1).toNat
      let n := { n with log := appendLoop n.log insertAt request.entries }
      let n :=
        if request.leaderCommit > n.commitIndex then
          { n with commitIndex := min request.leaderCommit ((n.log.length : Int) - 1) }
        else
          n
      (n, ⟨n.currentTerm, true, n.nodeId, n.log.length⟩)

def handleRequestVoteResponse (n : RaftNode Command) (response : RequestVoteResponse) :
    RaftNode Command × Outbox Command :=
  let n := n.stepDownIfStale response.term
  if n.role ≠ .candidate ∨ response.term ≠ n.currentTerm then
    (n, {})
  else if response.voteGranted then
    let n := { n with votesReceived := insert response.voterId n.votesReceived }
    if n.votesReceived.card ≥ n.majority then n.becomeLeader else (n, {})
  else
    (n, {})

/-- How many nodes, the leader among them, are taken to hold the entry at `index`. -/
def replicas (n : RaftNode Command) (index : Int) : Nat :=
  1 + n.peerIds.countP fun peer => decide (n.matchIndex peer ≥ index)

/-- The loop of `_advance_commit_index`: candidates `count - 1` down to `commit_index + 1`. -/
def advanceFrom (n : RaftNode Command) : Nat → RaftNode Command
  | 0 => n
  | candidateIndex + 1 =>
      if (candidateIndex : Int) ≤ n.commitIndex then
        n
      else if termAt n.log candidateIndex ≠ n.currentTerm then
        n.advanceFrom candidateIndex
      else if n.replicas candidateIndex ≥ n.majority then
        { n with commitIndex := candidateIndex }
      else
        n.advanceFrom candidateIndex

def advanceCommitIndex (n : RaftNode Command) : RaftNode Command := n.advanceFrom n.log.length

def handleAppendEntriesResponse (n : RaftNode Command) (peerId : NodeId)
    (response : AppendEntriesResponse) : RaftNode Command × Outbox Command :=
  let n := n.stepDownIfStale response.term
  if n.role ≠ .leader ∨ response.term ≠ n.currentTerm then
    (n, {})
  else if response.success then
    let n := { n with
      matchIndex := Function.update n.matchIndex peerId ((response.matchLengthHint : Int) - 1)
      nextIndex := Function.update n.nextIndex peerId response.matchLengthHint }
    (n.advanceCommitIndex, {})
  else
    let n := { n with
      nextIndex := Function.update n.nextIndex peerId (max 0 response.matchLengthHint) }
    (n, { appendEntries := [(peerId, n.appendEntriesFor peerId)] })

def propose (n : RaftNode Command) (command : Command) : RaftNode Command × Option Int :=
  if n.role ≠ .leader then
    (n, none)
  else
    let n := { n with log := n.log ++ [⟨n.currentTerm, command⟩] }
    (n, some n.lastLogIndex)

/-- `take_newly_committed`. A slice of a list ends at the list's end, so an index past
    the log contributes nothing although `last_applied` moves over it. -/
def takeNewlyCommitted (n : RaftNode Command) : RaftNode Command × List Command :=
  if n.commitIndex ≤ n.lastApplied then
    (n, [])
  else
    let entries := (n.log.take (n.commitIndex + 1).toNat).drop (n.lastApplied + 1).toNat
    ({ n with lastApplied := n.commitIndex }, entries.map LogEntry.command)

end RaftNode

end FleetRMW.Raft
