import FleetRMW.Raft.Safety

/-! # What a leader's match indexes say

A follower that accepts a request acknowledges its log as it is afterwards, and the leader takes the
length of that log for a match. The length is trusted: where the log goes on behind what the request
covered, the leader counts entries that are not its own.
-/

namespace FleetRMW.Raft

open ClusterState

variable {Command : Type}

/-- A node reported success in a term, with this log. -/
structure Acknowledgement (Command : Type) where
  node : NodeId
  term : Nat
  log : List (LogEntry Command)

namespace ClusterState

/-- The delivery of a request that is accepted is an acknowledgement. -/
def acknowledged (s : ClusterState Command) : Event Command → List (Acknowledgement Command)
  | .deliver i => match s.network[i]? with
    | some (.appendEntries _ dst request) =>
        let (n, response) := (s.nodes dst).handleAppendEntries request
        if response.success then [⟨dst, response.term, n.log⟩] else []
    | _ => []
  | _ => []

/-- The acknowledgements of a run, in order. -/
def acknowledgements (cluster : Cluster) :
    ClusterState Command → List (Event Command) → List (Acknowledgement Command)
  | _, [] => []
  | s, e :: es => s.acknowledged e ++ match step cluster s e with
    | some s' => acknowledgements cluster s' es
    | none => []

end ClusterState

/-- A request that is accepted covers the log up to entries of its own term. -/
def AppendEntriesRequest.CoversAccepted (log : List (LogEntry Command))
    (request : AppendEntriesRequest Command) : Prop :=
  ¬request.Beyond log → ¬request.Conflicts log →
    ∀ e ∈ log.drop (request.insertAt + request.entries.length), e.term = request.term

instance (log : List (LogEntry Command)) (request : AppendEntriesRequest Command) :
    Decidable (request.CoversAccepted log) := by
  unfold AppendEntriesRequest.CoversAccepted
  infer_instance

variable {cluster : Cluster} {s s' : ClusterState Command} {h h' : History Command}
  {n n' : RaftNode Command} {a p src dst : NodeId} {e : Event Command}
  {request : AppendEntriesRequest Command} {response : AppendEntriesResponse}
  {ack : Acknowledgement Command} {acks : List (Acknowledgement Command)}
  {admits : List (LogEntry Command) → AppendEntriesRequest Command → Prop}

/-! ## Acknowledgements -/

/-- What success says of a request and of the log that is reported. -/
structure AppendEntriesRequest.Succeeds (request : AppendEntriesRequest Command)
    (n n' : RaftNode Command) (response : AppendEntriesResponse) : Prop where
  term : response.term = request.term
  fresh : n.currentTerm ≤ request.term
  inside : ¬request.Beyond n.log
  agrees : ¬request.Conflicts n.log
  log : n'.log = RaftNode.appendLoop n.log request.insertAt request.entries
  length : response.matchLengthHint = n'.log.length

theorem handleAppendEntries_succeeds
    (success : (n.handleAppendEntries request).2.success = true) :
    request.Succeeds n (n.handleAppendEntries request).1 (n.handleAppendEntries request).2 := by
  have reached := stepDown_term n request.term
  have fresh := stepDown_fresh (n := n) (t := request.term)
  have log := stepDown_log n request.term
  generalize hm : n.stepDownIfStale request.term = m at reached fresh log
  generalize handled : n.handleAppendEntries request = r at success ⊢
  simp only [RaftNode.handleAppendEntries, hm] at handled
  split at handled
  · subst handled
    cases success
  · rename_i notStale
    split at handled
    · subst handled
      cases success
    · rename_i inside
      split at handled
      · subst handled
        cases success
      · rename_i agrees
        subst handled
        rw [log] at inside agrees
        have current : m.currentTerm = request.term := by omega
        refine ⟨?_, fresh notStale, inside, agrees, ?_, rfl⟩
        · dsimp only
          split <;> exact current
        · dsimp only
          split <;> exact log ▸ rfl

theorem mem_acknowledged {i : Nat} (there : s.network[i]? = some (.appendEntries src dst request))
    (among : ack ∈ s.acknowledged (.deliver i)) :
    ((s.nodes dst).handleAppendEntries request).2.success = true ∧
      ack = ⟨dst, ((s.nodes dst).handleAppendEntries request).2.term,
        ((s.nodes dst).handleAppendEntries request).1.log⟩ := by
  simp only [acknowledged, there] at among
  split at among
  case isTrue success => exact ⟨success, List.mem_singleton.mp among⟩
  case isFalse => cases among

theorem acknowledged_cases (among : ack ∈ s.acknowledged e) :
    ∃ i src dst request, e = .deliver i ∧
      s.network[i]? = some (.appendEntries src dst request) := by
  cases e with
  | deliver i =>
      cases there : s.network[i]? with
      | none => simp [acknowledged, there] at among
      | some m =>
          cases m with
          | appendEntries src dst request => exact ⟨i, src, dst, request, rfl, there⟩
          | _ => simp [acknowledged, there] at among
  | _ => cases among

/-- What is acknowledged under the condition is a beginning of the leader's log. -/
theorem acknowledged_isPrefix (L : LogInv s h)
    (admitted : e.Admitted (fun log request => request.CoversAccepted log) s)
    (among : ack ∈ s.acknowledged e) : ack.log <+: h.leaderLog ack.term := by
  obtain ⟨i, src, dst, request, rfl, there⟩ := acknowledged_cases among
  obtain ⟨success, rfl⟩ := mem_acknowledged there among
  have done := handleAppendEntries_succeeds success
  have sent := List.mem_of_getElem? there
  obtain ⟨-, -, outcome⟩ := L.accepted sent rfl done.inside done.agrees
  dsimp only
  rw [done.log, done.term]
  obtain ⟨kept, same⟩ | ⟨replaced, -⟩ := outcome
  · simp only [Event.Admitted, there] at admitted
    rw [kept]
    exact CommitInv.covered_isPrefix (L.node dst).traced same
      (admitted done.fresh done.inside done.agrees)
  · rw [replaced]
    exact List.take_prefix ..

theorem messages_no_reply (outbox : Outbox Command) :
    .appendEntriesReply src dst response ∉ outbox.messages a := by
  intro among
  rcases List.mem_append.mp among with vote | append
  · obtain ⟨_, _, same⟩ := List.mem_map.mp vote
    cases same
  · obtain ⟨_, _, same⟩ := List.mem_map.mp append
    cases same

/-- A report of success is an older one, or that of the acknowledgement that was just made. -/
theorem reply_cases (taken : step cluster s e = some s')
    (sent : .appendEntriesReply src dst response ∈ s'.network)
    (success : response.success = true) :
    .appendEntriesReply src dst response ∈ s.network ∨ ∃ ack ∈ s.acknowledged e,
      ack.node = src ∧ ack.term = response.term ∧ ack.log.length = response.matchLengthHint := by
  have older {outbox : Outbox Command} {b : NodeId}
      (sent : .appendEntriesReply src dst response ∈ s.network ++ outbox.messages b) :
      .appendEntriesReply src dst response ∈ s.network :=
    (List.mem_append.mp sent).resolve_right (messages_no_reply outbox)
  cases e with
  | electionTimeout b =>
      simp only [step] at taken
      split at taken
      · obtain rfl := Option.some.inj taken
        exact .inl (older sent)
      · cases taken
  | heartbeatDue b =>
      simp only [step] at taken
      split at taken
      · obtain rfl := Option.some.inj taken
        exact .inl (older sent)
      · cases taken
  | propose b command =>
      simp only [step] at taken
      split at taken
      · obtain rfl := Option.some.inj taken
        exact .inl sent
      · cases taken
  | takeNewlyCommitted b =>
      simp only [step] at taken
      split at taken
      · obtain rfl := Option.some.inj taken
        exact .inl sent
      · cases taken
  | deliver i =>
      obtain ⟨m, there, rfl⟩ := Option.map_eq_some_iff.mp taken
      cases m with
      | requestVote leader follower request =>
          rcases List.mem_append.mp sent with old | new
          · exact .inl old
          · cases List.mem_singleton.mp new
      | requestVoteReply leader follower reply => exact .inl (older sent)
      | appendEntriesReply leader follower reply => exact .inl (older sent)
      | appendEntries leader follower request =>
          rcases List.mem_append.mp sent with old | new
          · exact .inl old
          · obtain ⟨rfl, rfl, rfl⟩ :
                src = follower ∧ dst = leader ∧
                  response = ((s.nodes follower).handleAppendEntries request).2 := by
              have same := List.mem_singleton.mp new
              simp only [Message.appendEntriesReply.injEq] at same
              exact same
            have done := handleAppendEntries_succeeds success
            refine .inr ⟨⟨src, ((s.nodes src).handleAppendEntries request).2.term,
              ((s.nodes src).handleAppendEntries request).1.log⟩, ?_, rfl, rfl, done.length.symm⟩
            simp only [acknowledged, there]
            rw [if_pos success]
            exact List.mem_singleton_self _

/-! ## Matches -/

/-- A leader's matches are unset or reported lengths. -/
def NodeMatchOk (reported : NodeId → Nat → Nat → Prop) (n : RaftNode Command) : Prop :=
  n.role = .leader → ∀ p, n.matchIndex p = -1 ∨
    ∃ length : Nat, n.matchIndex p = (length : Int) - 1 ∧ reported p n.currentTerm length

/-- Where the reports in the network are known, so are the matches. -/
def Matched (reported : NodeId → Nat → Nat → Prop) (s : ClusterState Command) : Prop :=
  (∀ src dst response, .appendEntriesReply src dst response ∈ s.network →
    response.success = true → reported src response.term response.matchLengthHint) →
  ∀ a, NodeMatchOk reported (s.nodes a)

variable {reported : NodeId → Nat → Nat → Prop}

theorem NodeMatchOk.put (ok : ∀ b, NodeMatchOk reported (s.nodes b))
    (node : NodeMatchOk reported n') (b : NodeId) : NodeMatchOk reported ((s.put a n').nodes b) := by
  by_cases same : b = a
  · rw [same, put_nodes_self]
    exact node
  · rw [put_nodes, Function.update_of_ne same]
    exact ok b

theorem NodeMatchOk.same (ok : NodeMatchOk reported n) (role : n'.role = .leader → n.role = .leader)
    (term : n'.currentTerm = n.currentTerm) (matches_ : n'.matchIndex = n.matchIndex) :
    NodeMatchOk reported n' := by
  intro leads p
  rw [matches_, term]
  exact ok (role leads) p

theorem Matched.move {x y : Annotated Command} (matched : Matched reported x.1)
    (step : Move cluster admits x y) : Matched reported y.1 := by
  intro replies
  cases step with
  | @stepDown s h a n t at_ later =>
      exact NodeMatchOk.put (matched replies) (fun leads => by cases leads)
  | @campaign s h a n member at_ notLeads =>
      refine NodeMatchOk.put (matched fun src dst response sent =>
        replies src dst response (List.mem_append_left _ sent)) (fun leads => by cases leads)
  | refuse sent quiet ends =>
      exact matched fun src dst response sent =>
        replies src dst response (List.mem_append_left _ sent)
  | @grant s h a n src request sent at_ current free upToDate =>
      have ok := matched fun src dst response sent =>
        replies src dst response (List.mem_append_left _ sent)
      exact NodeMatchOk.put ok ((at_ ▸ ok a).same id rfl rfl)
  | grantAgain sent at_ current again =>
      exact matched fun src dst response sent =>
        replies src dst response (List.mem_append_left _ sent)
  | @countVote s h a n src response sent at_ current granted candidate =>
      have ok := matched replies
      exact NodeMatchOk.put ok ((at_ ▸ ok a).same id rfl rfl)
  | @elect s h a n at_ candidate enough =>
      exact NodeMatchOk.put (matched replies) (fun _ _ => .inl rfl)
  | replicate at_ leads targets =>
      exact matched fun src dst response sent =>
        replies src dst response (List.mem_append_left _ sent)
  | @retarget s h a n next at_ =>
      have ok := matched replies
      exact NodeMatchOk.put ok ((at_ ▸ ok a).same id rfl rfl)
  | @follow s h a n src request sent at_ current =>
      exact NodeMatchOk.put (matched replies) (fun leads => by cases leads)
  | @truncate s h a n src request sent at_ current follows covers inside conflicts =>
      have ok := matched replies
      exact NodeMatchOk.put ok ((at_ ▸ ok a).same id rfl rfl)
  | @accept s h a n src request log sent at_ current follows covers inside agrees result =>
      have ok := matched fun src dst response sent =>
        replies src dst response (List.mem_append_left _ sent)
      exact NodeMatchOk.put ok ((at_ ▸ ok a).same id rfl rfl)
  | @recordMatch s h a n src response next sent at_ current success leads =>
      have ok := matched replies
      refine NodeMatchOk.put ok fun _ p => ?_
      by_cases here : p = src
      · refine .inr ⟨response.matchLengthHint, ?_, ?_⟩
        · dsimp only
          rw [here, Function.update_self]
        · dsimp only
          rw [here, ← current]
          exact replies src a response sent success
      · dsimp only
        rw [Function.update_of_ne here]
        exact (at_ ▸ ok a) leads p
  | @commit s h a n index at_ leads later inside written enough =>
      have ok := matched replies
      exact NodeMatchOk.put ok ((at_ ▸ ok a).same id rfl rfl)
  | @propose s h a n command at_ leads =>
      have ok := matched replies
      exact NodeMatchOk.put ok ((at_ ▸ ok a).same id rfl rfl)
  | @take s h a n at_ behind =>
      have ok := matched replies
      exact NodeMatchOk.put ok ((at_ ▸ ok a).same id rfl rfl)

/-! ## Runs -/

def Acknowledgement.Reports (acks : List (Acknowledgement Command)) (p : NodeId) (term length : Nat) :
    Prop :=
  ∃ ack ∈ acks, ack.node = p ∧ ack.term = term ∧ ack.log.length = length

open Acknowledgement

theorem Acknowledgement.Reports.mono {more : List (Acknowledgement Command)} {term length : Nat}
    (reports : Reports acks p term length) : Reports (acks ++ more) p term length := by
  obtain ⟨ack, among, same⟩ := reports
  exact ⟨ack, List.mem_append_left more among, same⟩

/-- The reports and the matches are those of acknowledgements, and these are beginnings of the
    leaders' logs. -/
structure Vouched (cluster : Cluster) (s : ClusterState Command) (h : History Command)
    (acks : List (Acknowledgement Command)) : Prop where
  elections : ElectionInv cluster s h
  logs : LogInv s h
  replies : ∀ src dst response, .appendEntriesReply src dst response ∈ s.network →
    response.success = true → Reports acks src response.term response.matchLengthHint
  matched : ∀ a, NodeMatchOk (Reports acks) (s.nodes a)
  copied : ∀ ack ∈ acks, ack.log <+: h.leaderLog ack.term

theorem NodeMatchOk.mono {reported' : NodeId → Nat → Nat → Prop} (ok : NodeMatchOk reported n)
    (weaker : ∀ p term length, reported p term length → reported' p term length) :
    NodeMatchOk reported' n := by
  intro leads p
  rcases ok leads p with unset | ⟨length, same, reports⟩
  · exact .inl unset
  · exact .inr ⟨length, same, weaker p n.currentTerm length reports⟩

theorem Vouched.start (cluster : Cluster) :
    Vouched cluster (ClusterState.init cluster : ClusterState Command) {} [] where
  elections := .init cluster
  logs := .init cluster
  replies _ _ _ sent := absurd sent List.not_mem_nil
  matched _ leads := by cases leads
  copied _ among := absurd among List.not_mem_nil

theorem Vouched.step (vouched : Vouched cluster s h acks)
    (admitted : e.Admitted (fun log request => request.CoversAccepted log) s)
    (taken : ClusterState.step cluster s e = some s') :
    ∃ h', Vouched cluster s' h' (acks ++ s.acknowledged e) := by
  let R (s' : ClusterState Command) (h' : History Command) :=
    (ElectionInv cluster s' h' ∧ LogInv s' h' ∧ ∀ t, h.leaderLog t <+: h'.leaderLog t) ∧
      Matched (Reports (acks ++ s.acknowledged e)) s'
  have keeps {x y : Annotated Command} (I : R x.1 x.2)
      (move : Move cluster (fun log request => request.CoversAccepted log) x y) : R y.1 y.2 :=
    ⟨⟨(I.1.1.move move).1, I.1.2.1.move I.1.1 move,
      fun t => (I.1.2.2 t).trans (I.1.2.1.move_grows I.1.1 move t)⟩, I.2.move move⟩
  have start : R s h := ⟨⟨vouched.elections, vouched.logs, fun _ => List.prefix_rfl⟩,
    fun _ b => (vouched.matched b).mono fun _ _ _ => Reports.mono⟩
  obtain ⟨h', moves⟩ := step_resolves
    (fun _ _ _ => vouched.elections.replies_from_peers) admitted taken h
  obtain ⟨⟨⟨elections, logs, grows⟩, matched⟩, -⟩ :=
    moves_simulate (R := R) (fun I => I.1.1) keeps start moves
  have replies : ∀ src dst response, .appendEntriesReply src dst response ∈ s'.network →
      response.success = true →
      Reports (acks ++ s.acknowledged e) src response.term response.matchLengthHint := by
    intro src dst response sent success
    rcases reply_cases taken sent success with old | ⟨ack, among, same⟩
    · exact (vouched.replies src dst response old success).mono
    · exact ⟨ack, List.mem_append_right acks among, same⟩
  refine ⟨h', elections, logs, replies, matched replies, fun ack among => ?_⟩
  rcases List.mem_append.mp among with old | new
  · exact (vouched.copied ack old).trans (grows ack.term)
  · exact (acknowledged_isPrefix vouched.logs admitted new).trans (grows ack.term)

/-- The runs in which every request that a follower accepts covers its log. -/
abbrev AcceptedCovered (cluster : Cluster) (events : List (Event Command)) : Prop :=
  Lib.RunMeets (ClusterState.step cluster)
    (fun s e => e.Admitted (fun log request => request.CoversAccepted log) s)
    (ClusterState.init cluster) events

theorem Vouched.run {events : List (Event Command)} (vouched : Vouched cluster s h acks)
    (covered : Lib.RunMeets (ClusterState.step cluster)
      (fun s e => e.Admitted (fun log request => request.CoversAccepted log) s) s events)
    (ran : Lib.run (ClusterState.step cluster) s events = some s') :
    ∃ h', Vouched cluster s' h' (acks ++ acknowledgements cluster s events) := by
  induction events generalizing s h acks with
  | nil =>
      obtain rfl := Option.some.inj ran
      rw [acknowledgements, List.append_nil]
      exact ⟨h, vouched⟩
  | cons e events ih =>
      obtain ⟨mid, taken, rest⟩ := Lib.run_cons ran
      obtain ⟨admitted, later⟩ := covered.cons taken
      obtain ⟨h', next⟩ := vouched.step admitted taken
      simp only [acknowledgements, taken]
      rw [← List.append_assoc]
      exact ih next later rest

/-- What a leader takes for a match was acknowledged to it in its term, as a beginning of its log. -/
theorem match_acknowledged (cluster : Cluster) {events : List (Event Command)}
    (covered : AcceptedCovered cluster events) (ran : runs cluster events = some s)
    (leads : (s.nodes a).role = .leader) {i : Nat} (matched : (i : Int) ≤ (s.nodes a).matchIndex p) :
    ∃ ack ∈ acknowledgements cluster (ClusterState.init cluster) events, ack.node = p ∧
      ack.term = (s.nodes a).currentTerm ∧
      i < ack.log.length ∧ ack.log.take (i + 1) = (s.nodes a).log.take (i + 1) := by
  obtain ⟨h, vouched⟩ := (Vouched.start cluster).run covered ran
  rw [List.nil_append] at vouched
  rcases vouched.matched a leads p with unset | ⟨length, same, ack, among, node, term, long⟩
  · omega
  · have inside : i + 1 ≤ ack.log.length := by omega
    have pre := vouched.copied ack among
    rw [term, ← (vouched.logs.node a).leader leads] at pre
    exact ⟨ack, among, node, term, inside, Lib.take_eq_of_isPrefix pre inside⟩

theorem match_acknowledged_threeNodes :
    ∃ s, runs threeNodes (replicateFirst ++ [.deliver 7]) = some s ∧
      ∃ ack ∈ acknowledgements threeNodes (ClusterState.init threeNodes)
          (replicateFirst ++ [.deliver 7]),
        ack.node = "n2" ∧ ack.term = (s.nodes "n1").currentTerm ∧ 0 < ack.log.length ∧
          ack.log.take 1 = (s.nodes "n1").log.take 1 := by
  have ran := (Option.some_get (x := runs threeNodes (replicateFirst ++ [.deliver 7]))
    (by decide)).symm
  exact ⟨_, ran, match_acknowledged threeNodes (by decide) ran (by decide) (by decide)⟩

/-- In term 1 `n1` leads and appends `b`, which nobody else hears of. In term 2 `n2` leads, appends
    `x`, and its first, empty request reaches `n1`. -/
def misreportedRun : List (Event String) :=
  electFirst ++
    [.propose "n1" "b",
      .electionTimeout "n2", .deliver 6, .deliver 7, .propose "n2" "x", .deliver 8, .deliver 10]

/-- `n2` takes the entry of `n1` for its own, which `n1` never acknowledged. -/
theorem misreported_match :
    ∃ s, runs threeNodes misreportedRun = some s ∧ (s.nodes "n2").role = .leader ∧
      (0 : Int) ≤ (s.nodes "n2").matchIndex "n1" ∧ 0 < (s.nodes "n2").log.length ∧
      ¬∃ ack ∈ acknowledgements threeNodes (ClusterState.init threeNodes) misreportedRun,
        ack.node = "n1" ∧ ack.term = (s.nodes "n2").currentTerm ∧
          ack.log.take 1 = (s.nodes "n2").log.take 1 := by
  have ran := (Option.some_get (x := runs threeNodes misreportedRun) (by decide)).symm
  exact ⟨_, ran, by decide, by decide, by decide, by decide⟩

end FleetRMW.Raft
