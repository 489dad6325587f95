import FleetRMW.Raft.Cluster
import Mathlib.Logic.Relation

/-! # Elementary moves of a cluster, with a history

A handler of `RaftNode` does several things in one call: it may leave a stale term,
follow a leader, change its log, acknowledge and send. The safety argument speaks of
these one at a time and of what happened earlier in the run, so each event of a
cluster is resolved here into elementary moves (`Move`), which also write a history:
who voted for whom and with which log, who won a term, how far a term's leader has
written its log, and how much of that log each node has acknowledged. The history
never influences the nodes.
-/

namespace FleetRMW.Raft

variable {Command : Type}

/-- Update a table with two keys. -/
def set₂ {α β γ : Type} [DecidableEq α] [DecidableEq β] (f : α → β → γ) (a : α) (b : β) (c : γ) :
    α → β → γ :=
  Function.update f a (Function.update (f a) b c)

theorem set₂_apply {α β γ : Type} [DecidableEq α] [DecidableEq β] (f : α → β → γ) (a a' : α)
    (b b' : β) (c : γ) : set₂ f a b c a' b' = if a' = a ∧ b' = b then c else f a' b' := by
  by_cases ha : a' = a
  · subst ha
    by_cases hb : b' = b <;> simp [set₂, hb]
  · simp [set₂, ha]

/-- `term v` is the term that `v` is in, `baseLog t` the log with which term `t` was won
    and `leaderLog t` that log with what its leader has appended since; `acked t v` is the
    length of the longest log that `v` has reported to the leader of term `t`. -/
structure History (Command : Type) where
  term : NodeId → Nat := fun _ => 0
  voted : Nat → NodeId → Option NodeId := fun _ _ => none
  voteLog : Nat → NodeId → List (LogEntry Command) := fun _ _ => []
  candidacy : Nat → NodeId → List (LogEntry Command) := fun _ _ => []
  winner : Nat → Option NodeId := fun _ => none
  baseLog : Nat → List (LogEntry Command) := fun _ => []
  leaderLog : Nat → List (LogEntry Command) := fun _ => []
  acked : Nat → NodeId → Nat := fun _ _ => 0

namespace History

def recordTerm (h : History Command) (a : NodeId) (term : Nat) : History Command :=
  { h with term := Function.update h.term a term }

def recordVote (h : History Command) (term : Nat) (voter candidate : NodeId)
    (log : List (LogEntry Command)) : History Command :=
  { h with
    voted := set₂ h.voted term voter (some candidate)
    voteLog := set₂ h.voteLog term voter log }

def recordCandidacy (h : History Command) (term : Nat) (a : NodeId)
    (log : List (LogEntry Command)) : History Command :=
  { h with candidacy := set₂ h.candidacy term a log }

def recordWinner (h : History Command) (term : Nat) (a : NodeId)
    (log : List (LogEntry Command)) : History Command :=
  { h with
    winner := Function.update h.winner term (some a)
    baseLog := Function.update h.baseLog term log
    leaderLog := Function.update h.leaderLog term log
    acked := set₂ h.acked term a log.length }

def recordLeaderLog (h : History Command) (term : Nat) (a : NodeId)
    (log : List (LogEntry Command)) : History Command :=
  { h with
    leaderLog := Function.update h.leaderLog term log
    acked := set₂ h.acked term a log.length }

def recordAck (h : History Command) (term : Nat) (a : NodeId) (length : Nat) : History Command :=
  { h with acked := set₂ h.acked term a (max (h.acked term a) length) }

end History

/-- The request to a peer whose `next_index` is `next`. -/
def RaftNode.requestFrom (n : RaftNode Command) (next : Nat) : AppendEntriesRequest Command :=
  let prevIndex : Int := (next : Int) - 1
  { term := n.currentTerm
    leaderId := n.nodeId
    prevLogIndex := prevIndex
    prevLogTerm :=
      if 0 ≤ prevIndex ∧ prevIndex < n.log.length then termAt n.log prevIndex.toNat else 0
    entries := n.log.drop next
    leaderCommit := n.commitIndex }

/-- The two ways in which the check of `prev_log_index` can fail. -/
def AppendEntriesRequest.Beyond (request : AppendEntriesRequest Command)
    (log : List (LogEntry Command)) : Prop :=
  request.prevLogIndex ≥ 0 ∧ request.prevLogIndex ≥ log.length

def AppendEntriesRequest.Conflicts (request : AppendEntriesRequest Command)
    (log : List (LogEntry Command)) : Prop :=
  request.prevLogIndex ≥ 0 ∧ termAt log request.prevLogIndex.toNat ≠ request.prevLogTerm

instance (request : AppendEntriesRequest Command) (log : List (LogEntry Command)) :
    Decidable (request.Beyond log) := by unfold AppendEntriesRequest.Beyond; infer_instance

instance (request : AppendEntriesRequest Command) (log : List (LogEntry Command)) :
    Decidable (request.Conflicts log) := by unfold AppendEntriesRequest.Conflicts; infer_instance

/-- The position in the log at which the request's entries belong. -/
def AppendEntriesRequest.insertAt (request : AppendEntriesRequest Command) : Nat :=
  (request.prevLogIndex + 1).toNat

/-- A reply that reports no vote and no success. -/
def Message.Quiet : Message Command → Prop
  | .requestVoteReply _ _ response => response.voteGranted = false
  | .appendEntriesReply _ _ response => response.success = false
  | _ => False

def Message.ends : Message Command → NodeId × NodeId
  | .requestVote src dst _ => (src, dst)
  | .requestVoteReply src dst _ => (src, dst)
  | .appendEntries src dst _ => (src, dst)
  | .appendEntriesReply src dst _ => (src, dst)

abbrev Annotated (Command : Type) := ClusterState Command × History Command

open ClusterState

/-- The elementary moves. `admits` restricts the requests that a follower may act upon,
    given its log; the moves of unrestricted runs take it to be always true. -/
inductive Move (cluster : Cluster)
    (admits : List (LogEntry Command) → AppendEntriesRequest Command → Prop) :
    Annotated Command → Annotated Command → Prop where
  | stepDown {s h a n t} : s.nodes a = n → n.currentTerm < t →
      Move cluster admits (s, h)
        (s.put a { n with
          currentTerm := t, votedFor := none, role := .follower, votesReceived := ∅ },
          h.recordTerm a t)
  | campaign {s h a n} : a ∈ cluster.members → s.nodes a = n → n.role ≠ .leader →
      Move cluster admits (s, h)
        ((s.put a { n with
            role := .candidate
            currentTerm := n.currentTerm + 1
            votedFor := some n.nodeId
            votesReceived := {n.nodeId}
            leaderId := none }).send
          (n.peerIds.map fun peer => .requestVote a peer
            ⟨n.currentTerm + 1, n.nodeId, n.lastLogIndex, n.lastLogTerm⟩),
          ((h.recordTerm a (n.currentTerm + 1)).recordCandidacy (n.currentTerm + 1) a
            n.log).recordVote (n.currentTerm + 1) a a n.log)
  | refuse {s h} {m answered : Message Command} : answered ∈ s.network →
      m.Quiet → m.ends = answered.ends.swap → Move cluster admits (s, h) (s.send [m], h)
  | grant {s h a n src request} : .requestVote src a request ∈ s.network → s.nodes a = n →
      request.term = n.currentTerm → n.votedFor = none →
      n.logUpToDate request.lastLogTerm request.lastLogIndex →
      Move cluster admits (s, h)
        ((s.put a { n with votedFor := some request.candidateId }).send
          [.requestVoteReply a src ⟨n.currentTerm, true, n.nodeId⟩],
          h.recordVote n.currentTerm a request.candidateId n.log)
  | grantAgain {s h a n src request} : .requestVote src a request ∈ s.network → s.nodes a = n →
      request.term = n.currentTerm → n.votedFor = some request.candidateId →
      Move cluster admits (s, h)
        (s.send [.requestVoteReply a src ⟨n.currentTerm, true, n.nodeId⟩], h)
  | countVote {s h a n src response} : .requestVoteReply src a response ∈ s.network →
      s.nodes a = n → response.term = n.currentTerm → response.voteGranted = true →
      n.role = .candidate →
      Move cluster admits (s, h)
        (s.put a { n with votesReceived := insert response.voterId n.votesReceived }, h)
  | elect {s h a n} : s.nodes a = n → n.role = .candidate → n.majority ≤ n.votesReceived.card →
      Move cluster admits (s, h)
        (s.put a { n with
          role := .leader
          leaderId := some n.nodeId
          nextIndex := fun _ => n.log.length
          matchIndex := fun _ => -1 }, h.recordWinner n.currentTerm a n.log)
  | replicate {s h a n} {targets : List (NodeId × Nat)} : s.nodes a = n → n.role = .leader →
      (∀ target ∈ targets, target.1 ∈ n.peerIds) →
      Move cluster admits (s, h)
        (s.send (targets.map fun target => .appendEntries a target.1 (n.requestFrom target.2)), h)
  | retarget {s h a n next} : s.nodes a = n →
      Move cluster admits (s, h) (s.put a { n with nextIndex := next }, h)
  | follow {s h a n src request} : .appendEntries src a request ∈ s.network → s.nodes a = n →
      request.term = n.currentTerm →
      Move cluster admits (s, h)
        (s.put a { n with role := .follower, leaderId := some request.leaderId }, h)
  | truncate {s h a n src request} : .appendEntries src a request ∈ s.network → s.nodes a = n →
      request.term = n.currentTerm → n.role = .follower → admits n.log request →
      ¬request.Beyond n.log → request.Conflicts n.log →
      Move cluster admits (s, h)
        (s.put a { n with log := n.log.take request.prevLogIndex.toNat }, h)
  | accept {s h a n src request log} : .appendEntries src a request ∈ s.network →
      s.nodes a = n → request.term = n.currentTerm → n.role = .follower → admits n.log request →
      ¬request.Beyond n.log → ¬request.Conflicts n.log →
      log = RaftNode.appendLoop n.log request.insertAt request.entries →
      Move cluster admits (s, h)
        ((s.put a { n with
            log := log
            commitIndex :=
              if request.leaderCommit > n.commitIndex then
                min request.leaderCommit ((log.length : Int) - 1)
              else
                n.commitIndex }).send
          [.appendEntriesReply a src ⟨n.currentTerm, true, n.nodeId, log.length⟩],
          h.recordAck n.currentTerm a log.length)
  | recordMatch {s h a n src response next} : .appendEntriesReply src a response ∈ s.network →
      s.nodes a = n → response.term = n.currentTerm → response.success = true →
      n.role = .leader →
      Move cluster admits (s, h)
        (s.put a { n with
          matchIndex := Function.update n.matchIndex src ((response.matchLengthHint : Int) - 1)
          nextIndex := next }, h)
  | commit {s h a n} {index : Nat} : s.nodes a = n → n.role = .leader →
      n.commitIndex < (index : Int) → index < n.log.length → termAt n.log index = n.currentTerm →
      n.majority ≤ n.replicas index →
      Move cluster admits (s, h) (s.put a { n with commitIndex := index }, h)
  | propose {s h a n command} : s.nodes a = n → n.role = .leader →
      Move cluster admits (s, h)
        (s.put a { n with log := n.log ++ [⟨n.currentTerm, command⟩] },
          h.recordLeaderLog n.currentTerm a (n.log ++ [⟨n.currentTerm, command⟩]))
  | take {s h a n} : s.nodes a = n → n.lastApplied < n.commitIndex →
      Move cluster admits (s, h)
        ((s.put a { n with lastApplied := n.commitIndex }).apply a
          (((n.log.take (n.commitIndex + 1).toNat).drop (n.lastApplied + 1).toNat).map
            LogEntry.command), h)

/-- A delivered request that is not stale is one that `admits` allows. -/
def Event.Admitted (admits : List (LogEntry Command) → AppendEntriesRequest Command → Prop)
    (s : ClusterState Command) : Event Command → Prop
  | .deliver i => match s.network[i]? with
    | some (.appendEntries _ dst request) =>
        (s.nodes dst).currentTerm ≤ request.term → admits (s.nodes dst).log request
    | _ => True
  | _ => True

instance (admits : List (LogEntry Command) → AppendEntriesRequest Command → Prop)
    [∀ log request, Decidable (admits log request)] (s : ClusterState Command)
    (e : Event Command) : Decidable (e.Admitted admits s) := by
  unfold Event.Admitted
  split
  · split <;> infer_instance
  · infer_instance

theorem Event.admitted_always (s : ClusterState Command) (e : Event Command) :
    e.Admitted (fun _ _ => True) s := by
  cases e with
  | deliver i =>
      simp only [Event.Admitted]
      split
      · exact fun _ => True.intro
      · exact True.intro
  | _ => exact True.intro

section Resolution

variable (cluster : Cluster)
  (admits : List (LogEntry Command) → AppendEntriesRequest Command → Prop)

/-- A finite sequence of moves leads from `s` to `s'`, whatever happened before. -/
def Resolves (s s' : ClusterState Command) : Prop :=
  ∀ h, ∃ h', Relation.ReflTransGen (Move cluster admits) (s, h) (s', h')

variable {cluster admits} {s : ClusterState Command}

theorem Resolves.refl (s : ClusterState Command) : Resolves cluster admits s s :=
  fun h => ⟨h, .refl⟩

theorem Resolves.trans {s₁ s₂ s₃ : ClusterState Command} (first : Resolves cluster admits s₁ s₂)
    (second : Resolves cluster admits s₂ s₃) : Resolves cluster admits s₁ s₃ := by
  intro h
  obtain ⟨h₁, moves₁⟩ := first h
  obtain ⟨h₂, moves₂⟩ := second h₁
  exact ⟨h₂, moves₁.trans moves₂⟩

theorem Resolves.move {s s' : ClusterState Command}
    (moves : ∀ h, ∃ h', Move cluster admits (s, h) (s', h')) : Resolves cluster admits s s' := by
  intro h
  obtain ⟨h', move⟩ := moves h
  exact ⟨h', .single move⟩

/-- A move of the node that was changed last. -/
theorem Resolves.put {s s' : ClusterState Command} {a : NodeId} {n m : RaftNode Command}
    {sent : List (Message Command)} (first : Resolves cluster admits s (s'.put a n))
    (moves : ∀ h, ∃ h',
      Move cluster admits (s'.put a n, h) ((((s'.put a n).put a m).send sent), h')) :
    Resolves cluster admits s ((s'.put a m).send sent) := by
  refine first.trans (.move ?_)
  simpa only [put_put] using moves

theorem Resolves.putQuiet {s s' : ClusterState Command} {a : NodeId} {n m : RaftNode Command}
    (first : Resolves cluster admits s (s'.put a n))
    (moves : ∀ h, ∃ h', Move cluster admits (s'.put a n, h) ((s'.put a n).put a m, h')) :
    Resolves cluster admits s (s'.put a m) := by
  refine first.trans (.move ?_)
  simpa only [put_put] using moves

theorem stepDown_resolves (s : ClusterState Command) (a : NodeId) (t : Nat) :
    Resolves cluster admits s (s.put a ((s.nodes a).stepDownIfStale t)) := by
  unfold RaftNode.stepDownIfStale
  split
  · exact .move fun h => ⟨_, .stepDown rfl ‹_›⟩
  · rw [put_self]
    exact .refl s

theorem stepDown_term (n : RaftNode Command) (t : Nat) :
    t ≤ (n.stepDownIfStale t).currentTerm := by
  unfold RaftNode.stepDownIfStale
  split
  · exact le_rfl
  · omega

theorem stepDown_log (n : RaftNode Command) (t : Nat) : (n.stepDownIfStale t).log = n.log := by
  unfold RaftNode.stepDownIfStale
  split <;> rfl

theorem stepDown_peerIds (n : RaftNode Command) (t : Nat) :
    (n.stepDownIfStale t).peerIds = n.peerIds := by
  unfold RaftNode.stepDownIfStale
  split <;> rfl

theorem stepDown_fresh {n : RaftNode Command} {t : Nat}
    (fresh : ¬t < (n.stepDownIfStale t).currentTerm) : n.currentTerm ≤ t := by
  unfold RaftNode.stepDownIfStale at fresh
  split at fresh
  · omega
  · omega

theorem refuse_resolves {s : ClusterState Command} {m answered : Message Command}
    (sent : answered ∈ s.network) (quiet : m.Quiet) (ends : m.ends = answered.ends.swap) :
    Resolves cluster admits s (s.send [m]) :=
  .move fun h => ⟨h, .refuse sent quiet ends⟩

theorem requestVote_resolves {src dst : NodeId} {request : RequestVoteRequest}
    (sent : .requestVote src dst request ∈ s.network) :
    Resolves cluster admits s (s.receive (.requestVote src dst request)) := by
  have reached := stepDown_term (s.nodes dst) request.term
  have first : Resolves cluster admits s (s.put dst ((s.nodes dst).stepDownIfStale request.term)) :=
    stepDown_resolves s dst request.term
  generalize hm : (s.nodes dst).stepDownIfStale request.term = m at first reached
  have refused : Resolves cluster admits s
      ((s.put dst m).send [.requestVoteReply dst src ⟨m.currentTerm, false, m.nodeId⟩]) :=
    first.trans (refuse_resolves sent rfl rfl)
  simp only [receive, RaftNode.handleRequestVote, hm]
  split
  · exact refused
  · rename_i fresh
    have current : request.term = m.currentTerm := by omega
    split
    · rename_i granted
      obtain ⟨free | again, upToDate⟩ := granted
      · exact first.put fun h => ⟨_, .grant sent (put_nodes_self ..) current free upToDate⟩
      · have same : { m with votedFor := some request.candidateId } = m := by rw [← again]
        rw [same]
        exact first.trans
          (.move fun h => ⟨h, .grantAgain sent (put_nodes_self ..) current again⟩)
    · exact refused

theorem messages_appendEntries (a : NodeId) (n : RaftNode Command) (peers : List NodeId) :
    Outbox.messages a
        { appendEntries := peers.map fun peer => (peer, n.appendEntriesFor peer) } =
      (peers.map fun peer => (peer, n.nextIndex peer)).map
        fun target => .appendEntries a target.1 (n.requestFrom target.2) := by
  simp only [Outbox.messages, List.map_nil, List.nil_append, List.map_map]
  rfl

@[simp] theorem messages_empty (a : NodeId) : Outbox.messages a ({} : Outbox Command) = [] := rfl

theorem heartbeat_resolves (s : ClusterState Command) (a : NodeId) :
    Resolves cluster admits s (s.send ((s.nodes a).onHeartbeatDue.messages a)) := by
  unfold RaftNode.onHeartbeatDue
  split
  · rw [messages_empty, send_nil]
    exact .refl s
  · rename_i leads
    rw [messages_appendEntries]
    exact .move fun h => ⟨h, .replicate rfl (not_not.mp leads) (by simp)⟩

theorem electionTimeout_resolves {a : NodeId} (ha : a ∈ cluster.members) :
    Resolves cluster admits s
      ((s.put a (s.nodes a).onElectionTimeout.1).send
        ((s.nodes a).onElectionTimeout.2.messages a)) := by
  unfold RaftNode.onElectionTimeout
  split
  · rw [messages_empty, send_nil, put_self]
    exact .refl s
  · rename_i follows
    simp only [Outbox.messages, List.map_map, List.map_nil, List.append_nil]
    exact .move fun h => ⟨_, .campaign ha rfl follows⟩

theorem requestVoteReply_resolves {src dst : NodeId} {response : RequestVoteResponse}
    (sent : .requestVoteReply src dst response ∈ s.network) :
    Resolves cluster admits s (s.receive (.requestVoteReply src dst response)) := by
  have first : Resolves cluster admits s (s.put dst ((s.nodes dst).stepDownIfStale response.term)) :=
    stepDown_resolves s dst response.term
  generalize hm : (s.nodes dst).stepDownIfStale response.term = m at first
  simp only [receive, RaftNode.handleRequestVoteResponse, hm]
  split
  · rw [messages_empty, send_nil]
    exact first
  · rename_i candidate
    obtain ⟨role, current⟩ := not_or.mp candidate
    rw [not_not] at role current
    split
    · rename_i granted
      have counted := first.putQuiet fun h =>
        ⟨h, .countVote sent (put_nodes_self ..) current granted role⟩
      split
      · rename_i enough
        have elected := counted.putQuiet fun h => ⟨_, .elect (put_nodes_self ..) role enough⟩
        have beats := elected.trans (heartbeat_resolves _ dst)
        rw [put_nodes_self] at beats
        exact beats
      · rw [messages_empty, send_nil]
        exact counted
    · rw [messages_empty, send_nil]
      exact first

theorem appendEntries_resolves {src dst : NodeId} {request : AppendEntriesRequest Command}
    (sent : .appendEntries src dst request ∈ s.network)
    (admitted : (s.nodes dst).currentTerm ≤ request.term → admits (s.nodes dst).log request) :
    Resolves cluster admits s (s.receive (.appendEntries src dst request)) := by
  have reached := stepDown_term (s.nodes dst) request.term
  have fresh := stepDown_fresh (n := s.nodes dst) (t := request.term)
  have first : Resolves cluster admits s (s.put dst ((s.nodes dst).stepDownIfStale request.term)) :=
    stepDown_resolves s dst request.term
  rw [← stepDown_log (s.nodes dst) request.term] at admitted
  generalize hm : (s.nodes dst).stepDownIfStale request.term = m at first reached fresh admitted
  simp only [receive, RaftNode.handleAppendEntries, hm]
  split
  · exact first.trans (refuse_resolves sent rfl rfl)
  · rename_i notStale
    have current : request.term = m.currentTerm := by omega
    have allowed := admitted (fresh notStale)
    have followed := first.putQuiet fun h => ⟨h, .follow sent (put_nodes_self ..) current⟩
    split
    · exact followed.trans (refuse_resolves sent rfl rfl)
    · rename_i inside
      split
      · rename_i conflicts
        have truncated := followed.putQuiet fun h =>
          ⟨h, .truncate sent (put_nodes_self ..) current rfl allowed inside conflicts⟩
        exact truncated.trans (refuse_resolves sent rfl rfl)
      · rename_i agrees
        have accepted := followed.put fun h =>
          ⟨_, .accept sent (put_nodes_self ..) current rfl allowed inside agrees rfl⟩
        split <;> simpa [*, AppendEntriesRequest.insertAt] using accepted

theorem advanceFrom_resolves (s : ClusterState Command) (a : NodeId) (n : RaftNode Command)
    (leads : n.role = .leader) {count : Nat} (inside : count ≤ n.log.length) :
    Resolves cluster admits (s.put a n) (s.put a (n.advanceFrom count)) := by
  induction count with
  | zero => exact .refl _
  | succ index ih =>
      have later := ih (by omega)
      simp only [RaftNode.advanceFrom]
      split
      · exact .refl _
      · rename_i above
        split
        · exact later
        · rename_i own
          split
          · rename_i enough
            refine (Resolves.refl (s.put a n)).putQuiet fun h => ⟨h, ?_⟩
            exact .commit (put_nodes_self ..) leads (by omega) (by omega) (not_not.mp own) enough
          · exact later

theorem appendEntriesReply_resolves {src dst : NodeId} {response : AppendEntriesResponse}
    (sent : .appendEntriesReply src dst response ∈ s.network)
    (peer : src ∈ (s.nodes dst).peerIds) :
    Resolves cluster admits s (s.receive (.appendEntriesReply src dst response)) := by
  have first : Resolves cluster admits s (s.put dst ((s.nodes dst).stepDownIfStale response.term)) :=
    stepDown_resolves s dst response.term
  rw [← stepDown_peerIds _ response.term] at peer
  generalize hm : (s.nodes dst).stepDownIfStale response.term = m at first peer
  simp only [receive, RaftNode.handleAppendEntriesResponse, hm]
  split
  · rw [messages_empty, send_nil]
    exact first
  · rename_i leading
    obtain ⟨role, current⟩ := not_or.mp leading
    rw [not_not] at role current
    split
    · rename_i success
      rw [messages_empty, send_nil]
      let recorded : RaftNode Command := { m with
        matchIndex := Function.update m.matchIndex src ((response.matchLengthHint : Int) - 1)
        nextIndex := Function.update m.nextIndex src response.matchLengthHint }
      have first' : Resolves cluster admits s (s.put dst recorded) :=
        first.putQuiet fun h => ⟨h, .recordMatch sent (put_nodes_self ..) current success role⟩
      exact first'.trans (advanceFrom_resolves s dst recorded role le_rfl)
    · let retargeted : RaftNode Command := { m with
        nextIndex := Function.update m.nextIndex src (max 0 response.matchLengthHint) }
      have first' : Resolves cluster admits s (s.put dst retargeted) :=
        first.putQuiet fun h => ⟨h, .retarget (put_nodes_self ..)⟩
      have targets : ∀ target ∈ [(src, retargeted.nextIndex src)], target.1 ∈ retargeted.peerIds :=
        List.forall_mem_singleton.mpr peer
      exact first'.trans (.move fun h => ⟨h, .replicate (put_nodes_self s dst retargeted) role targets⟩)

theorem propose_resolves (s : ClusterState Command) (a : NodeId) (command : Command) :
    Resolves cluster admits s (s.put a ((s.nodes a).propose command).1) := by
  unfold RaftNode.propose
  split
  · rw [put_self]
    exact .refl s
  · rename_i leads
    exact .move fun h => ⟨_, .propose rfl (not_not.mp leads)⟩

theorem take_resolves (s : ClusterState Command) (a : NodeId) :
    Resolves cluster admits s
      ((s.put a (s.nodes a).takeNewlyCommitted.1).apply a (s.nodes a).takeNewlyCommitted.2) := by
  unfold RaftNode.takeNewlyCommitted
  split
  · rw [put_self, apply_nil]
    exact .refl s
  · rename_i behind
    exact .move fun h => ⟨h, .take rfl (not_le.mp behind)⟩

/-- Handling a message that was sent is a finite sequence of moves. -/
theorem receive_resolves {m : Message Command} (sent : m ∈ s.network)
    (replies : ∀ src dst response, .appendEntriesReply src dst response ∈ s.network →
      src ∈ (s.nodes dst).peerIds)
    (admitted : ∀ src dst request, m = .appendEntries src dst request →
      (s.nodes dst).currentTerm ≤ request.term → admits (s.nodes dst).log request) :
    Resolves cluster admits s (s.receive m) := by
  cases m with
  | requestVote src dst request => exact requestVote_resolves sent
  | requestVoteReply src dst response => exact requestVoteReply_resolves sent
  | appendEntries src dst request => exact appendEntries_resolves sent (admitted _ _ _ rfl)
  | appendEntriesReply src dst response =>
      exact appendEntriesReply_resolves sent (replies _ _ _ sent)

/-- Each event is a finite sequence of moves. -/
theorem step_resolves {s' : ClusterState Command} {e : Event Command}
    (replies : ∀ src dst response, .appendEntriesReply src dst response ∈ s.network →
      src ∈ (s.nodes dst).peerIds)
    (admitted : e.Admitted admits s) (h : step cluster s e = some s') :
    Resolves cluster admits s s' := by
  cases e with
  | electionTimeout a =>
      obtain ⟨ha, rfl⟩ : a ∈ cluster.members ∧ _ = s' := by simpa [step] using h
      exact electionTimeout_resolves ha
  | heartbeatDue a =>
      obtain ⟨ha, rfl⟩ : a ∈ cluster.members ∧ _ = s' := by simpa [step] using h
      exact heartbeat_resolves s a
  | propose a command =>
      obtain ⟨ha, rfl⟩ : a ∈ cluster.members ∧ _ = s' := by simpa [step] using h
      exact propose_resolves s a command
  | takeNewlyCommitted a =>
      obtain ⟨ha, rfl⟩ : a ∈ cluster.members ∧ _ = s' := by simpa [step] using h
      exact take_resolves s a
  | deliver i =>
      obtain ⟨m, at_, rfl⟩ : ∃ m, s.network[i]? = some m ∧ s.receive m = s' := by
        simpa [step] using h
      refine receive_resolves (List.mem_of_getElem? at_) replies fun src dst request sent => ?_
      subst sent
      simpa [Event.Admitted, at_] using admitted

end Resolution

/-- An invariant in parts: what holds of each node and of the commands it has applied,
    what holds of each message, and what holds of the history alone. -/
structure Clauses (Command : Type) where
  node : History Command → NodeId → RaftNode Command → List Command → Prop
  message : History Command → Message Command → Prop
  history : History Command → Prop

structure Clauses.Hold (C : Clauses Command) (s : ClusterState Command) (h : History Command) :
    Prop where
  node : ∀ a, C.node h a (s.nodes a) (s.applied a)
  message : ∀ m ∈ s.network, C.message h m
  history : C.history h

namespace Clauses.Hold

variable {C : Clauses Command} {s : ClusterState Command} {h h' : History Command}
  {a : NodeId} {n n' : RaftNode Command}

theorem node_at (I : C.Hold s h) (at_ : s.nodes a = n) : C.node h a n (s.applied a) :=
  at_ ▸ I.node a

/-- One node changes and the history grows. -/
theorem put (node : C.node h' a n' (s.applied a))
    (others : ∀ b, b ≠ a → C.node h' b (s.nodes b) (s.applied b))
    (messages : ∀ m ∈ s.network, C.message h' m) (history : C.history h') :
    C.Hold (s.put a n') h' where
  node b := by
    by_cases hb : b = a
    · subst hb
      simpa only [put_nodes_self, put_applied] using node
    · simpa only [put_nodes, Function.update_of_ne hb, put_applied]
        using others b hb
  message := messages
  history := history

/-- One node changes while the history stays. -/
theorem put_same (I : C.Hold s h) (node : C.node h a n' (s.applied a)) : C.Hold (s.put a n') h :=
  put node (fun b _ => I.node b) I.message I.history

theorem send {sent : List (Message Command)} (I : C.Hold s h)
    (new : ∀ m ∈ sent, C.message h m) : C.Hold (s.send sent) h where
  node := I.node
  message m hm := (List.mem_append.mp hm).elim (I.message m) (new m)
  history := I.history

/-- One node applies commands. -/
theorem apply {cs : List Command} (I : C.Hold s h)
    (node : C.node h a n' (s.applied a ++ cs)) : C.Hold ((s.put a n').apply a cs) h where
  node b := by
    by_cases hb : b = a
    · subst hb
      simpa only [apply_nodes, put_nodes_self, apply_applied, put_applied, Function.update_self]
        using node
    · simpa only [apply_nodes, put_nodes, apply_applied, put_applied, Function.update_of_ne hb]
        using I.node b
  message := I.message
  history := I.history

end Clauses.Hold

end FleetRMW.Raft
