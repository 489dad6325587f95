import FleetRMW.Lib.Majority
import FleetRMW.Raft.History

/-! # Election safety

A node's vote in a term is recorded once and never changes, every vote that a
candidate counts was recorded for it, and a term is won by a majority of recorded
votes. Two winners of one term would share a voter.
-/

namespace FleetRMW.Raft

open ClusterState

variable {Command : Type}

/-- What elections need of a node. -/
structure NodeElectionOk (cluster : Cluster) (h : History Command) (a : NodeId)
    (n : RaftNode Command) : Prop where
  self : n.nodeId = a
  peers : n.peerIds = cluster.peers a
  term : h.term a = n.currentTerm
  active : n.role ≠ .follower → a ∈ cluster.members
  votedNow : h.voted n.currentTerm a = n.votedFor
  votes : n.role = .candidate → ∀ v ∈ n.votesReceived,
    v ∈ cluster.members ∧ h.voted n.currentTerm v = some a
  unopposed : n.role = .candidate → h.winner n.currentTerm ≠ some a
  leads : n.role = .leader → h.winner n.currentTerm = some a

def MessageElectionOk (cluster : Cluster) (h : History Command) : Message Command → Prop
  | .requestVote src dst request =>
      src ∈ cluster.members ∧ dst ∈ cluster.members ∧ src ≠ dst ∧ request.candidateId = src
  | .requestVoteReply src dst response =>
      src ∈ cluster.members ∧ dst ∈ cluster.members ∧ src ≠ dst ∧
        (response.voteGranted = true →
          response.voterId = src ∧ h.voted response.term src = some dst)
  | .appendEntries src dst request =>
      src ∈ cluster.members ∧ dst ∈ cluster.members ∧ src ≠ dst ∧
        h.winner request.term = some src
  | .appendEntriesReply src dst _ =>
      src ∈ cluster.members ∧ dst ∈ cluster.members ∧ src ≠ dst

structure HistoryElectionOk (cluster : Cluster) (h : History Command) : Prop where
  votedLater : ∀ v t, h.term v < t → h.voted t v = none
  won : ∀ t a, h.winner t = some a → a ∈ cluster.members ∧ t ≤ h.term a ∧
    ∃ Q, Lib.Majority cluster.members Q ∧ ∀ v ∈ Q, h.voted t v = some a

def electionClauses (cluster : Cluster) : Clauses Command where
  node h a n _ := NodeElectionOk cluster h a n
  message := MessageElectionOk cluster
  history := HistoryElectionOk cluster

abbrev ElectionInv (cluster : Cluster) (s : ClusterState Command) (h : History Command) : Prop :=
  (electionClauses cluster).Hold s h

/-- What a history keeps while it grows. -/
structure History.Extends (h h' : History Command) : Prop where
  term : ∀ v, h.term v ≤ h'.term v
  voted : ∀ {t v c}, h.voted t v = some c → h'.voted t v = some c
  winner : ∀ {t a}, h.winner t = some a → h'.winner t = some a

theorem History.Extends.refl (h : History Command) : h.Extends h := ⟨fun _ => le_rfl, id, id⟩

theorem History.Extends.trans {f g h : History Command} (first : f.Extends g)
    (second : g.Extends h) : f.Extends h where
  term v := (first.term v).trans (second.term v)
  voted v := second.voted (first.voted v)
  winner w := second.winner (first.winner w)

variable {cluster : Cluster} {s s' : ClusterState Command} {h h' : History Command}
  {a : NodeId} {n n' : RaftNode Command}

theorem MessageElectionOk.mono {m : Message Command} (grows : h.Extends h')
    (ok : MessageElectionOk cluster h m) : MessageElectionOk cluster h' m := by
  cases m with
  | requestVote src dst request => exact ok
  | requestVoteReply src dst response =>
      exact ⟨ok.1, ok.2.1, ok.2.2.1,
        fun granted => ⟨(ok.2.2.2 granted).1, grows.voted (ok.2.2.2 granted).2⟩⟩
  | appendEntries src dst request => exact ⟨ok.1, ok.2.1, ok.2.2.1, grows.winner ok.2.2.2⟩
  | appendEntriesReply src dst response => exact ok

/-- A growing history keeps the clause of a node that it says nothing new about. -/
theorem NodeElectionOk.mono (grows : h.Extends h') (term : h'.term a = h.term a)
    (voted : ∀ t, h'.voted t a = h.voted t a)
    (winner : ∀ t, h'.winner t = some a → h.winner t = some a)
    (ok : NodeElectionOk cluster h a n) : NodeElectionOk cluster h' a n where
  self := ok.self
  peers := ok.peers
  term := term.trans ok.term
  active := ok.active
  votedNow := (voted _).trans ok.votedNow
  votes candidate v hv := (ok.votes candidate v hv).imp id grows.voted
  unopposed candidate won := ok.unopposed candidate (winner _ won)
  leads leader := grows.winner (ok.leads leader)

/-- The part of a node's state that elections depend on. -/
def RaftNode.ballot (n : RaftNode Command) :
    NodeId × List NodeId × Nat × Option NodeId × Finset NodeId × Role :=
  (n.nodeId, n.peerIds, n.currentTerm, n.votedFor, n.votesReceived, n.role)

theorem NodeElectionOk.of_ballot (same : n'.ballot = n.ballot)
    (ok : NodeElectionOk cluster h a n) : NodeElectionOk cluster h a n' := by
  simp only [RaftNode.ballot, Prod.mk.injEq] at same
  obtain ⟨nodeId, peerIds, term, votedFor, received, role⟩ := same
  exact
    { self := nodeId.trans ok.self
      peers := peerIds.trans ok.peers
      term := ok.term.trans term.symm
      active := by rw [role]; exact ok.active
      votedNow := by rw [term, votedFor]; exact ok.votedNow
      votes := by rw [role, received, term]; exact ok.votes
      unopposed := by rw [role, term]; exact ok.unopposed
      leads := by rw [role, term]; exact ok.leads }

/-- Leader logs and acknowledgements play no part in elections. -/
theorem HistoryElectionOk.of_eq (term : h'.term = h.term) (voted : h'.voted = h.voted)
    (winner : h'.winner = h.winner) (ok : HistoryElectionOk cluster h) :
    HistoryElectionOk cluster h' where
  votedLater := by rw [term, voted]; exact ok.votedLater
  won := by rw [winner, term, voted]; exact ok.won

theorem History.Extends.of_eq (term : h'.term = h.term) (voted : h'.voted = h.voted)
    (winner : h'.winner = h.winner) : h.Extends h' :=
  ⟨fun v => (congrFun term v).ge, fun v => voted ▸ v, fun w => winner ▸ w⟩

namespace ElectionInv

theorem init (cluster : Cluster) :
    ElectionInv cluster (ClusterState.init cluster : ClusterState Command) {} where
  node a :=
    { self := rfl
      peers := rfl
      term := rfl
      active := fun active => absurd rfl active
      votedNow := rfl
      votes := fun candidate => by cases candidate
      unopposed := fun candidate => by cases candidate
      leads := fun leader => by cases leader }
  message m hm := by cases hm
  history :=
    { votedLater := fun _ _ _ => rfl
      won := fun _ _ won => by cases won }

/-- A term has at most one winner. -/
theorem winner_unique (I : ElectionInv cluster s h) {t : Nat} {b : NodeId} {Q : Finset NodeId}
    (hQ : Lib.Majority cluster.members Q) (votes : ∀ v ∈ Q, h.voted t v = some a)
    (won : h.winner t = some b) : b = a := by
  obtain ⟨_, _, R, hR, votes'⟩ := I.history.won t b won
  obtain ⟨v, vQ, vR⟩ := hQ.meet hR
  exact Option.some.inj ((votes' v vR).symm.trans (votes v vQ))

/-- The peers of an active node are the other members. -/
theorem mem_peers (I : ElectionInv cluster s h) (at_ : s.nodes a = n)
    (active : n.role ≠ .follower) {b : NodeId} (hb : b ∈ n.peerIds) :
    a ∈ cluster.members ∧ b ∈ cluster.members ∧ a ≠ b := by
  have ok := I.node_at at_
  have member := ok.active active
  rw [ok.peers, cluster.memPeers a member] at hb
  exact ⟨member, hb.1, hb.2.symm⟩

/-- Moves that change no ballot and nothing of the history that elections speak of. -/
theorem frame (I : ElectionInv cluster s h) (at_ : s.nodes a = n)
    (same : n'.ballot = n.ballot) (term : h'.term = h.term) (voted : h'.voted = h.voted)
    (winner : h'.winner = h.winner) : ElectionInv cluster (s.put a n') h' := by
  have grows : h.Extends h' := .of_eq term voted winner
  have node b (m : RaftNode Command) (ok : NodeElectionOk cluster h b m) :
      NodeElectionOk cluster h' b m :=
    ok.mono grows (by rw [term]) (by simp [voted]) (by simp [winner])
  exact .put (node a n' ((I.node_at at_).of_ballot same)) (fun b _ => node b _ (I.node b))
    (fun m hm => (I.message m hm).mono grows) (I.history.of_eq term voted winner)

theorem stepDown (I : ElectionInv cluster s h) (at_ : s.nodes a = n) {t : Nat}
    (later : n.currentTerm < t) :
    ElectionInv cluster (s.put a { n with
      currentTerm := t, votedFor := none, role := .follower, votesReceived := ∅ })
      (h.recordTerm a t) ∧ h.Extends (h.recordTerm a t) := by
  have ok := I.node_at at_
  have grows : h.Extends (h.recordTerm a t) := by
    refine ⟨fun v => ?_, id, id⟩
    by_cases hv : v = a
    · subst hv
      simpa [History.recordTerm, ok.term] using later.le
    · simp [History.recordTerm, hv]
  refine ⟨.put ?_ ?_ (fun m hm => (I.message m hm).mono grows) ?_, grows⟩
  · exact
      { self := ok.self
        peers := ok.peers
        term := by simp [History.recordTerm]
        active := by simp
        votedNow := I.history.votedLater a t (ok.term ▸ later)
        votes := by simp
        unopposed := by simp
        leads := by simp }
  · intro b hb
    exact NodeElectionOk.mono grows (by simp [History.recordTerm, hb]) (fun _ => rfl)
      (fun _ => id) (I.node b)
  · exact
      { votedLater := fun v u reached =>
          I.history.votedLater v u ((grows.term v).trans_lt reached)
        won := fun u b won => by
          obtain ⟨member, reached, voters⟩ := I.history.won u b won
          exact ⟨member, reached.trans (grows.term b), voters⟩ }

/-- A vote in a term in which the voter has not voted. -/
theorem recordVote_grows {t : Nat} {v c : NodeId} {log : List (LogEntry Command)}
    (free : h.voted t v = none) : h.Extends (h.recordVote t v c log) := by
  refine ⟨fun _ => le_rfl, fun {t' v' c'} voted => ?_, id⟩
  simp only [History.recordVote, set₂_apply]
  split
  · rename_i same
    rw [same.1, same.2, free] at voted
    cases voted
  · exact voted

theorem campaign (I : ElectionInv cluster s h) (member : a ∈ cluster.members)
    (at_ : s.nodes a = n) {request : RequestVoteRequest} (own : request.candidateId = n.nodeId) :
    ElectionInv cluster
      ((s.put a { n with
        role := .candidate
        currentTerm := n.currentTerm + 1
        votedFor := some n.nodeId
        votesReceived := {n.nodeId}
        leaderId := none }).send (n.peerIds.map fun peer => .requestVote a peer request))
      (((h.recordTerm a (n.currentTerm + 1)).recordCandidacy (n.currentTerm + 1) a
        n.log).recordVote (n.currentTerm + 1) a a n.log) ∧
    h.Extends (((h.recordTerm a (n.currentTerm + 1)).recordCandidacy (n.currentTerm + 1) a
        n.log).recordVote (n.currentTerm + 1) a a n.log) := by
  have ok := I.node_at at_
  obtain ⟨I₁, grows₁⟩ := I.stepDown at_ (Nat.lt_succ_self n.currentTerm)
  have free : ((h.recordTerm a (n.currentTerm + 1)).recordCandidacy (n.currentTerm + 1) a
      n.log).voted (n.currentTerm + 1) a = none :=
    I.history.votedLater a _ (by rw [ok.term]; omega)
  have vote : ((h.recordTerm a (n.currentTerm + 1)).recordCandidacy (n.currentTerm + 1) a
      n.log).Extends (((h.recordTerm a (n.currentTerm + 1)).recordCandidacy (n.currentTerm + 1) a
        n.log).recordVote (n.currentTerm + 1) a a n.log) := recordVote_grows free
  have grows₂ : (h.recordTerm a (n.currentTerm + 1)).Extends
      (((h.recordTerm a (n.currentTerm + 1)).recordCandidacy (n.currentTerm + 1) a
        n.log).recordVote (n.currentTerm + 1) a a n.log) := ⟨vote.term, vote.voted, vote.winner⟩
  refine ⟨?_, grows₁.trans grows₂⟩
  rw [← put_put]
  refine Clauses.Hold.send (.put ?_ ?_ (fun m hm => (I₁.message m hm).mono grows₂) ?_) ?_
  · exact
      { self := ok.self
        peers := ok.peers
        term := by simp [History.recordCandidacy, History.recordVote, History.recordTerm]
        active := fun _ => member
        votedNow := by simp [History.recordCandidacy, History.recordVote, set₂_apply, ok.self]
        votes := by
          simp [History.recordCandidacy, History.recordVote, set₂_apply, ok.self, member]
        unopposed := fun _ won => by
          have reached := (I.history.won _ a won).2.1
          rw [ok.term] at reached
          exact absurd reached (by simp)
        leads := by simp }
  · intro b hb
    exact NodeElectionOk.mono grows₂ rfl
      (fun t => by simp [History.recordCandidacy, History.recordVote, set₂_apply, hb])
      (fun _ => id) (I₁.node b)
  · exact
      { votedLater := fun v t later => by
          have fresh := I₁.history.votedLater v t later
          simp only [History.recordCandidacy, History.recordVote, set₂_apply]
          split
          · rename_i same
            simp [same.1, same.2, History.recordTerm, History.recordVote,
              History.recordCandidacy] at later
          · exact fresh
        won := fun t b won => by
          obtain ⟨member, reached, Q, hQ, voters⟩ := I₁.history.won t b won
          exact ⟨member, reached, Q, hQ, fun v hv => grows₂.voted (voters v hv)⟩ }
  · intro m hm
    obtain ⟨peer, hpeer, rfl⟩ := List.mem_map.mp hm
    rw [ok.peers, cluster.memPeers a member] at hpeer
    exact ⟨member, hpeer.1, hpeer.2.symm, own.trans ok.self⟩

theorem grant (I : ElectionInv cluster s h) {src : NodeId} {request : RequestVoteRequest}
    (sent : .requestVote src a request ∈ s.network) (at_ : s.nodes a = n)
    (free : n.votedFor = none) :
    ElectionInv cluster
      ((s.put a { n with votedFor := some request.candidateId }).send
        [.requestVoteReply a src ⟨n.currentTerm, true, n.nodeId⟩])
      (h.recordVote n.currentTerm a request.candidateId n.log) ∧
    h.Extends (h.recordVote n.currentTerm a request.candidateId n.log) := by
  have ok := I.node_at at_
  obtain ⟨src_mem, dst_mem, ne, own⟩ := I.message _ sent
  have grows : h.Extends (h.recordVote n.currentTerm a request.candidateId n.log) :=
    recordVote_grows (ok.votedNow.trans free)
  refine ⟨Clauses.Hold.send (.put ?_ ?_ (fun m hm => (I.message m hm).mono grows) ?_) ?_, grows⟩
  · exact
      { self := ok.self
        peers := ok.peers
        term := ok.term
        active := ok.active
        votedNow := by simp [History.recordVote, set₂_apply]
        votes := fun candidate v hv => (ok.votes candidate v hv).imp id grows.voted
        unopposed := ok.unopposed
        leads := ok.leads }
  · intro b hb
    exact NodeElectionOk.mono grows rfl
      (fun t => by simp [History.recordVote, set₂_apply, hb]) (fun _ => id) (I.node b)
  · exact
      { votedLater := fun v t later => by
          have fresh := I.history.votedLater v t later
          simp only [History.recordVote, set₂_apply]
          split
          · rename_i same
            rw [same.1, same.2] at later
            exact absurd later (by simp [History.recordVote, ok.term])
          · exact fresh
        won := fun t b won => by
          obtain ⟨member, reached, Q, hQ, voters⟩ := I.history.won t b won
          exact ⟨member, reached, Q, hQ, fun v hv => grows.voted (voters v hv)⟩ }
  · rintro m hm
    obtain rfl := List.mem_singleton.mp hm
    exact ⟨dst_mem, src_mem, ne.symm,
      fun _ => ⟨ok.self, by simp [History.recordVote, set₂_apply, own]⟩⟩

theorem countVote (I : ElectionInv cluster s h) {src : NodeId} {response : RequestVoteResponse}
    (sent : .requestVoteReply src a response ∈ s.network) (at_ : s.nodes a = n)
    (current : response.term = n.currentTerm) (granted : response.voteGranted = true) :
    ElectionInv cluster
      (s.put a { n with votesReceived := insert response.voterId n.votesReceived }) h := by
  have ok := I.node_at at_
  obtain ⟨src_mem, -, -, vote⟩ := I.message _ sent
  obtain ⟨voter, voted⟩ := vote granted
  exact I.put_same
    { self := ok.self
      peers := ok.peers
      term := ok.term
      active := ok.active
      votedNow := ok.votedNow
      votes := fun candidate v hv => by
        obtain rfl | old := Finset.mem_insert.mp hv
        · rw [voter, ← current]
          exact ⟨src_mem, voted⟩
        · exact ok.votes candidate v old
      unopposed := ok.unopposed
      leads := ok.leads }

/-- The votes that a candidate has counted, when they are enough. -/
theorem candidate_majority (I : ElectionInv cluster s h) (at_ : s.nodes a = n)
    (candidate : n.role = .candidate) (enough : n.majority ≤ n.votesReceived.card) :
    Lib.Majority cluster.members n.votesReceived ∧
      ∀ v ∈ n.votesReceived, h.voted n.currentTerm v = some a := by
  have ok := I.node_at at_
  have member := ok.active (by simp [candidate])
  refine ⟨⟨fun v hv => (ok.votes candidate v hv).1, ?_⟩, fun v hv => (ok.votes candidate v hv).2⟩
  have size := cluster.peers_length member
  rw [RaftNode.majority, RaftNode.clusterSize, ok.peers] at enough
  omega

/-- A term that a candidate is about to win has no winner yet: an earlier winner would
    be the candidate itself. -/
theorem unwon (I : ElectionInv cluster s h) (at_ : s.nodes a = n)
    (candidate : n.role = .candidate) (enough : n.majority ≤ n.votesReceived.card) :
    h.winner n.currentTerm = none := by
  obtain ⟨majority, votes⟩ := I.candidate_majority at_ candidate enough
  cases won : h.winner n.currentTerm with
  | none => rfl
  | some b =>
      obtain rfl := I.winner_unique majority votes won
      exact absurd won ((I.node_at at_).unopposed candidate)

theorem elect (I : ElectionInv cluster s h) (at_ : s.nodes a = n)
    (candidate : n.role = .candidate) (enough : n.majority ≤ n.votesReceived.card) :
    ElectionInv cluster
      (s.put a { n with
        role := .leader
        leaderId := some n.nodeId
        nextIndex := fun _ => n.log.length
        matchIndex := fun _ => -1 }) (h.recordWinner n.currentTerm a n.log) ∧
    h.Extends (h.recordWinner n.currentTerm a n.log) := by
  have ok := I.node_at at_
  have member := ok.active (by simp [candidate])
  obtain ⟨majority, votes⟩ := I.candidate_majority at_ candidate enough
  have fresh := I.unwon at_ candidate enough
  have grows : h.Extends (h.recordWinner n.currentTerm a n.log) := by
    refine ⟨fun _ => le_rfl, id, fun {t b} won => ?_⟩
    have other : t ≠ n.currentTerm := by
      rintro rfl
      simp [fresh] at won
    simpa [History.recordWinner, other] using won
  refine ⟨.put ?_ ?_ (fun m hm => (I.message m hm).mono grows) ?_, grows⟩
  · exact
      { self := ok.self
        peers := ok.peers
        term := ok.term
        active := fun _ => member
        votedNow := ok.votedNow
        votes := by simp
        unopposed := by simp
        leads := by simp [History.recordWinner] }
  · intro b hb
    refine NodeElectionOk.mono grows rfl (fun _ => rfl) (fun t won => ?_) (I.node b)
    by_cases ht : t = n.currentTerm
    · simp [History.recordWinner, ht, Ne.symm hb] at won
    · simpa [History.recordWinner, ht] using won
  · exact
      { votedLater := I.history.votedLater
        won := fun t b won => by
          by_cases ht : t = n.currentTerm
          · subst ht
            obtain rfl : a = b := by simpa [History.recordWinner] using won
            exact ⟨member, ok.term.ge, _, majority, votes⟩
          · exact I.history.won t b (by simpa [History.recordWinner, ht] using won) }

/-- A node that hears from the leader of its term stops being a candidate. The sender
    won the term, so the node that follows is not its leader. -/
theorem follow (I : ElectionInv cluster s h) {leader : Option NodeId} (at_ : s.nodes a = n) :
    ElectionInv cluster (s.put a { n with role := .follower, leaderId := leader }) h := by
  have ok := I.node_at at_
  exact I.put_same
    { self := ok.self
      peers := ok.peers
      term := ok.term
      active := by simp
      votedNow := ok.votedNow
      votes := by simp
      unopposed := by simp
      leads := by simp }

theorem refused {m answered : Message Command} (ok : MessageElectionOk cluster h answered)
    (quiet : m.Quiet) (ends : m.ends = answered.ends.swap) : MessageElectionOk cluster h m := by
  have members : answered.ends.1 ∈ cluster.members ∧ answered.ends.2 ∈ cluster.members ∧
      answered.ends.1 ≠ answered.ends.2 := by
    cases answered <;> exact ⟨ok.1, ok.2.1, by first | exact ok.2.2.1 | exact ok.2.2⟩
  obtain ⟨src, dst, ne⟩ := members
  cases m with
  | requestVote _ _ _ => exact quiet.elim
  | appendEntries _ _ _ => exact quiet.elim
  | requestVoteReply v c response =>
      obtain ⟨rfl, rfl⟩ := Prod.mk.inj ends
      exact ⟨dst, src, ne.symm, fun granted => by
        rw [Message.Quiet] at quiet
        simp [quiet] at granted⟩
  | appendEntriesReply v c response =>
      obtain ⟨rfl, rfl⟩ := Prod.mk.inj ends
      exact ⟨dst, src, ne.symm⟩

variable {admits : List (LogEntry Command) → AppendEntriesRequest Command → Prop}

theorem move {x y : Annotated Command} (I : ElectionInv cluster x.1 x.2)
    (step : Move cluster admits x y) : ElectionInv cluster y.1 y.2 ∧ x.2.Extends y.2 := by
  cases step with
  | stepDown at_ later => exact I.stepDown at_ later
  | campaign member at_ _ => exact I.campaign member at_ rfl
  | refuse sent quiet ends =>
      exact ⟨I.send (List.forall_mem_singleton.mpr (refused (I.message _ sent) quiet ends)),
        .refl _⟩
  | grant sent at_ _ free _ => exact I.grant sent at_ free
  | grantAgain sent at_ current again =>
      obtain ⟨src_mem, dst_mem, ne, own⟩ := I.message _ sent
      have ok := I.node_at at_
      refine ⟨I.send (List.forall_mem_singleton.mpr ⟨dst_mem, src_mem, ne.symm, fun _ => ?_⟩),
        .refl _⟩
      exact ⟨ok.self, by rw [ok.votedNow, again, own]⟩
  | countVote sent at_ current granted _ =>
      exact ⟨I.countVote sent at_ current granted, .refl _⟩
  | elect at_ candidate enough => exact I.elect at_ candidate enough
  | @replicate s h a n _ at_ leads targets =>
      refine ⟨I.send fun m hm => ?_, .refl _⟩
      obtain ⟨target, htarget, rfl⟩ := List.mem_map.mp hm
      have active : n.role ≠ .follower := by simp [leads]
      obtain ⟨src_mem, dst_mem, ne⟩ := I.mem_peers at_ active (targets target htarget)
      exact ⟨src_mem, dst_mem, ne, (I.node_at at_).leads leads⟩
  | retarget at_ => exact ⟨I.frame at_ rfl rfl rfl rfl, .refl _⟩
  | follow sent at_ current => exact ⟨I.follow at_, .refl _⟩
  | truncate sent at_ _ _ _ _ _ =>
      exact ⟨I.frame at_ rfl rfl rfl rfl, .refl _⟩
  | accept sent at_ _ _ _ _ _ _ =>
      obtain ⟨src_mem, dst_mem, ne, _⟩ := I.message _ sent
      refine ⟨Clauses.Hold.send ?_ fun m hm => ?_, .of_eq rfl rfl rfl⟩
      · exact I.frame at_ rfl rfl rfl rfl
      · obtain rfl := List.mem_singleton.mp hm
        exact ⟨dst_mem, src_mem, ne.symm⟩
  | recordMatch sent at_ _ _ _ =>
      exact ⟨I.frame at_ rfl rfl rfl rfl, .refl _⟩
  | commit at_ _ _ _ _ _ =>
      exact ⟨I.frame at_ rfl rfl rfl rfl, .refl _⟩
  | propose at_ _ =>
      exact ⟨I.frame at_ rfl rfl rfl rfl,
        .of_eq rfl rfl rfl⟩
  | @take s h a n at_ _ =>
      exact ⟨I.apply (NodeElectionOk.of_ballot (n := n) rfl (I.node_at at_)), .refl _⟩

/-- A reply to a leader's request comes from one of its peers. -/
theorem replies_from_peers (I : ElectionInv cluster s h) {src dst : NodeId}
    {response : AppendEntriesResponse}
    (sent : .appendEntriesReply src dst response ∈ s.network) :
    src ∈ (s.nodes dst).peerIds := by
  obtain ⟨src_mem, dst_mem, ne⟩ := I.message _ sent
  rw [(I.node dst).peers, cluster.memPeers dst dst_mem]
  exact ⟨src_mem, ne⟩

end ElectionInv

section Runs

variable {admits : List (LogEntry Command) → AppendEntriesRequest Command → Prop}
  {R : ClusterState Command → History Command → Prop}
  (elections : ∀ {s h}, R s h → ElectionInv cluster s h)
  (keeps : ∀ {x y : Annotated Command}, R x.1 x.2 → Move cluster admits x y → R y.1 y.2)

include elections keeps

theorem moves_simulate {x y : Annotated Command} (start : R x.1 x.2)
    (moves : Relation.ReflTransGen (Move cluster admits) x y) :
    R y.1 y.2 ∧ x.2.Extends y.2 := by
  induction moves with
  | refl => exact ⟨start, .refl _⟩
  | tail _ move ih =>
      obtain ⟨now, grows⟩ := ih
      exact ⟨keeps now move, grows.trans ((elections now).move move).2⟩

/-- What every move keeps is kept by every run, and the history only grows. -/
theorem run_keeps {events : List (Event Command)} (start : R s h)
    (meets : Lib.RunMeets (step cluster) (fun s e => e.Admitted admits s) s events)
    (ran : Lib.run (step cluster) s events = some s') : ∃ h', R s' h' ∧ h.Extends h' := by
  refine Lib.run_simulates History.Extends.refl History.Extends.trans ?_ start meets ran
  intro s e s' g rel admitted taken
  obtain ⟨g', moves⟩ :=
    step_resolves (fun _ _ _ => (elections rel).replies_from_peers) admitted taken g
  exact ⟨g', moves_simulate elections keeps rel moves⟩

end Runs

/-- A run of which nothing more is asked. -/
theorem runs_unrestricted (cluster : Cluster) {s : ClusterState Command}
    (events : List (Event Command)) :
    Lib.RunMeets (step cluster) (fun s e => e.Admitted (fun _ _ => True) s) s events :=
  (Lib.RunMeets.trivial s events).mono fun s e _ => e.admitted_always s

/-- Leaders of one term, at any two moments of a run, are the same node. -/
theorem leader_unique (cluster : Cluster) {events later : List (Event Command)}
    (ran : runs cluster events = some s) (ran' : Lib.run (step cluster) s later = some s')
    {a b : NodeId} (leads : (s.nodes a).role = .leader) (leads' : (s'.nodes b).role = .leader)
    (same : (s.nodes a).currentTerm = (s'.nodes b).currentTerm) : a = b := by
  have keeps {x y : Annotated Command} (I : ElectionInv cluster x.1 x.2)
      (move : Move cluster (fun _ _ => True) x y) := (I.move move).1
  obtain ⟨h, I, -⟩ := run_keeps (R := ElectionInv cluster) id keeps (.init cluster)
    (runs_unrestricted cluster events) ran
  obtain ⟨h', I', grows⟩ := run_keeps (R := ElectionInv cluster) id keeps I
    (runs_unrestricted cluster later) ran'
  have won := grows.winner ((I.node a).leads leads)
  have won' := (I'.node b).leads leads'
  rw [same] at won
  exact Option.some.inj (won.symm.trans won')

theorem leader_unique_threeNodes :
    ∃ s s', runs threeNodes electFirst = some s ∧
      Lib.run (step threeNodes) s [.electionTimeout "n2", .heartbeatDue "n1"] = some s' ∧
      (s.nodes "n1").role = .leader ∧ (s'.nodes "n1").role = .leader ∧ "n1" = "n1" := by
  have ran := (Option.some_get (x := runs threeNodes electFirst) (by decide)).symm
  have ran' := (Option.some_get (x := Lib.run (step threeNodes)
    ((runs threeNodes electFirst).get (by decide))
    [.electionTimeout "n2", .heartbeatDue "n1"]) (by decide)).symm
  exact ⟨_, _, ran, ran', by decide, by decide,
    leader_unique threeNodes ran ran' (by decide) (by decide) (by decide)⟩

end FleetRMW.Raft
