import FleetRMW.Lib.Traced
import FleetRMW.Raft.Election

/-! # Log matching

Every log in the cluster is traced to the logs of the leaders: an entry of term `t`
stands in it after the same entries as in the log of the leader of `t`. A follower
gets there because a request carries a piece of the leader's log. The one request that
does not, with a previous index past the end of the leader's log, is never accepted.
-/

namespace FleetRMW.Raft

open ClusterState

variable {Command : Type}

abbrev LogTraced (h : History Command) (log : List (LogEntry Command)) : Prop :=
  Lib.Traced LogEntry.term h.leaderLog log

theorem termAt_of_getElem? {log : List (LogEntry Command)} {i : Nat} {e : LogEntry Command}
    (at_ : log[i]? = some e) : termAt log i = e.term := by
  rw [termAt, at_]
  rfl

theorem termAt_of_isPrefix {l₁ l₂ : List (LogEntry Command)} (pre : l₁ <+: l₂) {i : Nat}
    (inside : i < l₁.length) : termAt l₁ i = termAt l₂ i := by
  have at_ := List.getElem?_eq_getElem inside
  rw [termAt_of_getElem? at_, termAt_of_getElem? (Lib.getElem?_of_isPrefix pre at_)]

theorem termAt_drop (log : List (LogEntry Command)) (k i : Nat) :
    termAt (log.drop k) i = termAt log (k + i) := by
  rw [termAt, termAt, List.getElem?_drop]

section AppendLoop

theorem appendLoop_end (log entries : List (LogEntry Command)) :
    RaftNode.appendLoop log log.length entries = log ++ entries := by
  induction entries generalizing log with
  | nil => simp [RaftNode.appendLoop]
  | cons e es ih =>
      have rest := ih (log ++ [e])
      rw [List.length_append, List.length_singleton] at rest
      simp [RaftNode.appendLoop, rest]

/-- The loop passes over the entries that the log already has, by their terms, and from
    the first one that it has not it replaces the rest of the log. -/
theorem appendLoop_cases (log : List (LogEntry Command)) {k : Nat}
    (entries : List (LogEntry Command)) (inside : k ≤ log.length) :
    ∃ m ≤ entries.length,
      (∀ i < m, k + i < log.length ∧ termAt log (k + i) = termAt entries i) ∧
      (m = entries.length ∧ RaftNode.appendLoop log k entries = log ∨
        m < entries.length ∧
          (k + m < log.length → termAt log (k + m) ≠ termAt entries m) ∧
          RaftNode.appendLoop log k entries = log.take (k + m) ++ entries.drop m) := by
  induction entries generalizing k with
  | nil => exact ⟨0, le_rfl, by simp, .inl ⟨rfl, rfl⟩⟩
  | cons e es ih =>
      by_cases present : k < log.length ∧ termAt log k = e.term
      · obtain ⟨m, bound, agree, result⟩ := ih (k := k + 1) present.1
        have unchanged :
            RaftNode.appendLoop log k (e :: es) = RaftNode.appendLoop log (k + 1) es := by
          simp [RaftNode.appendLoop, present]
        refine ⟨m + 1, by simpa using bound, ?_, ?_⟩
        · intro i hi
          cases i with
          | zero => exact present
          | succ i =>
              have := agree i (by omega)
              rwa [show k + (i + 1) = k + 1 + i by omega]
        · have shift : termAt (e :: es) (m + 1) = termAt es m := rfl
          rw [unchanged, shift, show k + (m + 1) = k + 1 + m by omega]
          simpa using result
      · refine ⟨0, by simp, by simp, .inr ⟨by simp, ?_, ?_⟩⟩
        · exact fun here same => present ⟨here, same⟩
        · have written : RaftNode.appendLoop log k (e :: es) =
              RaftNode.appendLoop (log.take k ++ [e]) (k + 1) es := by
            by_cases here : k < log.length
            · have other : termAt log k ≠ e.term := fun same => present ⟨here, same⟩
              simp [RaftNode.appendLoop, here, other]
            · obtain rfl : k = log.length := by omega
              simp [RaftNode.appendLoop]
          have length : (log.take k ++ [e]).length = k + 1 := by simp [inside]
          rw [written, ← length, appendLoop_end]
          simp

variable {h : History Command} {log main entries : List (LogEntry Command)} {k : Nat}

theorem agree_of_term (traced : LogTraced h log) (traced' : LogTraced h main) {i : Nat}
    (inside : i < log.length) (inside' : i < main.length)
    (same : termAt log i = termAt main i) : log.take (i + 1) = main.take (i + 1) := by
  have at_ := List.getElem?_eq_getElem inside
  have at' := List.getElem?_eq_getElem inside'
  rw [termAt_of_getElem? at_, termAt_of_getElem? at'] at same
  exact traced.agree traced' at_ at' same

/-- On traced logs the loop keeps a log that agrees with the leader's log as far as the
    entries reach, and otherwise cuts it to the leader's log. -/
theorem appendLoop_traced (traced : LogTraced h log) (traced' : LogTraced h main)
    (inside : k ≤ log.length) (same : log.take k = main.take k) (within : k ≤ main.length)
    (copied : entries <+: main.drop k) :
    RaftNode.appendLoop log k entries = log ∧
        log.take (k + entries.length) = main.take (k + entries.length) ∨
      RaftNode.appendLoop log k entries = main.take (k + entries.length) ∧
        log.take (k + entries.length) ≠ main.take (k + entries.length) := by
  obtain ⟨m, bound, agree, result⟩ := appendLoop_cases log entries inside
  have reach : k + entries.length ≤ main.length := by
    have := copied.length_le
    rw [List.length_drop] at this
    omega
  have termAt_entries {i : Nat} (hi : i < entries.length) :
      termAt entries i = termAt main (k + i) := by
    rw [termAt_of_isPrefix copied hi, termAt_drop]
  have common : log.take (k + m) = main.take (k + m) := by
    cases m with
    | zero => exact same
    | succ m =>
        obtain ⟨here, term⟩ := agree m (by omega)
        rw [termAt_entries (by omega)] at term
        have here' : k + m < main.length := by omega
        exact agree_of_term traced traced' here here' term
  obtain ⟨rfl, kept⟩ | ⟨short, differs, replaced⟩ := result
  · exact .inl ⟨kept, common⟩
  · refine .inr ⟨?_, fun equal => ?_⟩
    · have tail : entries.drop m = (main.drop (k + m)).take (entries.length - m) := by
        conv_lhs => rw [List.prefix_iff_eq_take.mp copied, List.drop_take, List.drop_drop]
      rw [replaced, common, tail, ← List.take_add]
      congr 1
      omega
    · have here : k + m < log.length := by
        have lengths := congrArg List.length equal
        simp only [List.length_take] at lengths
        omega
      refine differs here ?_
      rw [termAt_entries short, ← termAt_of_isPrefix (log.take_prefix (k + entries.length)),
        equal, termAt_of_isPrefix (main.take_prefix (k + entries.length))]
      · simp only [List.length_take]; omega
      · simp only [List.length_take]; omega

end AppendLoop

structure NodeLogOk (h : History Command) (n : RaftNode Command) : Prop where
  traced : LogTraced h n.log
  terms : ∀ e ∈ n.log, e.term ≤ n.currentTerm
  contested : n.role = .candidate → 0 < n.currentTerm ∧ ∀ e ∈ n.log, e.term < n.currentTerm
  leader : n.role = .leader → n.log = h.leaderLog n.currentTerm

/-- The request carries a piece of the log of its term's leader. -/
structure AppendEntriesRequest.Copied (h : History Command)
    (request : AppendEntriesRequest Command) : Prop where
  within : request.insertAt ≤ (h.leaderLog request.term).length
  entries : request.entries <+: (h.leaderLog request.term).drop request.insertAt
  prevTerm : 0 ≤ request.prevLogIndex →
    request.prevLogTerm = termAt (h.leaderLog request.term) request.prevLogIndex.toNat

/-- The request was made with a `next_index` past the end of the leader's log. -/
structure AppendEntriesRequest.Overshot (h : History Command)
    (request : AppendEntriesRequest Command) : Prop where
  past : ((h.baseLog request.term).length : Int) ≤ request.prevLogIndex
  prevTerm : request.prevLogTerm = 0
  entries : request.entries = []

def MessageLogOk (h : History Command) : Message Command → Prop
  | .appendEntries _ _ request =>
      -1 ≤ request.prevLogIndex ∧ (request.Copied h ∨ request.Overshot h)
  | _ => True

structure HistoryLogOk (h : History Command) : Prop where
  traced : ∀ t, LogTraced h (h.leaderLog t)
  base : ∀ t, h.baseLog t <+: h.leaderLog t
  older : ∀ t, ∀ e ∈ h.baseLog t, e.term < t
  own : ∀ t i e, (h.leaderLog t)[i]? = some e → (h.baseLog t).length ≤ i → e.term = t
  unled : ∀ t, h.winner t = none → h.leaderLog t = []
  noTerm : h.winner 0 = none

def logClauses : Clauses Command where
  node h _ n _ := NodeLogOk h n
  message := MessageLogOk
  history := HistoryLogOk

abbrev LogInv (s : ClusterState Command) (h : History Command) : Prop := logClauses.Hold s h

variable {cluster : Cluster} {s : ClusterState Command} {h h' : History Command}
  {a : NodeId} {n n' : RaftNode Command}
  {admits : List (LogEntry Command) → AppendEntriesRequest Command → Prop}

namespace HistoryLogOk

theorem terms (ok : HistoryLogOk h) {t : Nat} {e : LogEntry Command}
    (mem : e ∈ h.leaderLog t) : e.term ≤ t := by
  obtain ⟨i, at_⟩ := List.mem_iff_getElem?.mp mem
  obtain short | long := lt_or_ge i (h.baseLog t).length
  · have at_base : (h.baseLog t)[i]? = some e := by
      rw [List.getElem?_eq_getElem short]
      exact congrArg some (Option.some.inj
        ((Lib.getElem?_of_isPrefix (ok.base t) (List.getElem?_eq_getElem short)).symm.trans at_))
    exact (ok.older t e (List.mem_of_getElem? at_base)).le
  · exact (ok.own t i e at_ long).le

/-- Entries have positive terms: no leader ever wrote for term 0. -/
theorem positive (ok : HistoryLogOk h) {log : List (LogEntry Command)}
    (traced : LogTraced h log) {i : Nat} (inside : i < log.length) : termAt log i ≠ 0 := by
  have at_ := List.getElem?_eq_getElem inside
  intro zero
  rw [termAt_of_getElem? at_] at zero
  have copied := traced.getElem? at_
  rw [zero, ok.unled 0 ok.noTerm] at copied
  simp at copied

end HistoryLogOk

theorem MessageLogOk.mono {m : Message Command} (grows : ∀ t, h.leaderLog t <+: h'.leaderLog t)
    (base : ∀ src dst request, m = .appendEntries src dst request →
      h'.baseLog request.term = h.baseLog request.term)
    (ok : MessageLogOk h m) : MessageLogOk h' m := by
  cases m with
  | appendEntries src dst request =>
      have pre := grows request.term
      refine ⟨ok.1, ok.2.imp (fun copied => ?_) (fun overshot => ?_)⟩
      · have index : 0 ≤ request.prevLogIndex →
            request.prevLogIndex.toNat < (h.leaderLog request.term).length := by
          intro inside
          have := copied.within
          rw [AppendEntriesRequest.insertAt] at this
          omega
        exact
          { within := copied.within.trans pre.length_le
            entries := copied.entries.trans (pre.drop _)
            prevTerm := fun inside => by
              rw [copied.prevTerm inside, termAt_of_isPrefix pre (index inside)] }
      · exact ⟨by rw [base _ _ _ rfl]; exact overshot.past, overshot.prevTerm, overshot.entries⟩
  | _ => exact True.intro

namespace LogInv

theorem init (cluster : Cluster) :
    LogInv (ClusterState.init cluster : ClusterState Command) {} where
  node a :=
    { traced := .nil
      terms := by simp [ClusterState.init]
      contested := by simp [ClusterState.init]
      leader := fun _ => rfl }
  message m hm := by cases hm
  history :=
    { traced := fun _ => .nil
      base := fun _ => List.prefix_rfl
      older := by simp
      own := by simp
      unled := fun _ _ => rfl
      noTerm := rfl }

end LogInv

/-- A node's log is as before, its term is not lower, and it keeps its role in the term
    or follows. -/
structure RaftNode.KeepsLog (n n' : RaftNode Command) : Prop where
  log : n'.log = n.log
  term : n.currentTerm ≤ n'.currentTerm
  role : n'.role = .follower ∨ n'.role = n.role ∧ n'.currentTerm = n.currentTerm

theorem NodeLogOk.keeps (ok : NodeLogOk h n) (keeps : n.KeepsLog n') : NodeLogOk h n' where
  traced := keeps.log ▸ ok.traced
  terms e mem := (ok.terms e (keeps.log ▸ mem)).trans keeps.term
  contested candidate := by
    obtain follower | ⟨role, term⟩ := keeps.role
    · simp [follower] at candidate
    · rw [keeps.log, term]
      exact ok.contested (role ▸ candidate)
  leader leader := by
    obtain follower | ⟨role, term⟩ := keeps.role
    · simp [follower] at leader
    · rw [keeps.log, term]
      exact ok.leader (role ▸ leader)

/-- The history has the same winners and the same logs of leaders. -/
structure History.SameLogs (h h' : History Command) : Prop where
  winner : h'.winner = h.winner
  baseLog : h'.baseLog = h.baseLog
  leaderLog : h'.leaderLog = h.leaderLog

theorem HistoryLogOk.same (ok : HistoryLogOk h) (same : h.SameLogs h') : HistoryLogOk h' where
  traced t := by rw [LogTraced, same.leaderLog]; exact ok.traced t
  base t := by rw [same.baseLog, same.leaderLog]; exact ok.base t
  older t := by rw [same.baseLog]; exact ok.older t
  own t := by rw [same.baseLog, same.leaderLog]; exact ok.own t
  unled t := by rw [same.winner, same.leaderLog]; exact ok.unled t
  noTerm := by rw [same.winner]; exact ok.noTerm

theorem NodeLogOk.same (ok : NodeLogOk h n) (same : h.SameLogs h') : NodeLogOk h' n where
  traced := by rw [LogTraced, same.leaderLog]; exact ok.traced
  terms := ok.terms
  contested := ok.contested
  leader := by rw [same.leaderLog]; exact ok.leader

namespace LogInv

theorem same_history (I : LogInv s h) (same : h.SameLogs h') : LogInv s h' where
  node b := (I.node b).same same
  message m hm := (I.message m hm).mono (fun t => by rw [same.leaderLog])
    (fun _ _ _ _ => by rw [same.baseLog])
  history := I.history.same same

/-- Moves that change no log. -/
theorem frame (I : LogInv s h) (at_ : s.nodes a = n) (keeps : n.KeepsLog n')
    (same : h.SameLogs h') : LogInv (s.put a n') h' :=
  same_history (I.put_same ((I.node_at at_).keeps keeps)) same

theorem campaign (I : LogInv s h) (at_ : s.nodes a = n) {received : Finset NodeId}
    {request : RequestVoteRequest} (same : h.SameLogs h') :
    LogInv ((s.put a { n with
        role := .candidate
        currentTerm := n.currentTerm + 1
        votedFor := some n.nodeId
        votesReceived := received
        leaderId := none }).send (n.peerIds.map fun peer => .requestVote a peer request)) h' := by
  have ok := I.node_at at_
  refine same_history (Clauses.Hold.send (I.put_same ?_) ?_) same
  · exact
      { traced := ok.traced
        terms := fun e mem => (ok.terms e mem).trans (Nat.le_succ _)
        contested := fun _ =>
          ⟨Nat.succ_pos _, fun e mem => Nat.lt_succ_of_le (ok.terms e mem)⟩
        leader := by simp }
  · intro m hm
    obtain ⟨peer, -, rfl⟩ := List.mem_map.mp hm
    exact True.intro

theorem recordWinner_grows (I : LogInv s h) {t : Nat} (unwon : h.winner t = none)
    (log : List (LogEntry Command)) (u : Nat) :
    h.leaderLog u <+: (h.recordWinner t a log).leaderLog u := by
  by_cases hu : u = t
  · subst hu
    rw [I.history.unled u unwon]
    exact List.nil_prefix
  · simp [History.recordWinner, hu]

theorem elect (E : ElectionInv cluster s h) (I : LogInv s h) (at_ : s.nodes a = n)
    (candidate : n.role = .candidate) (unwon : h.winner n.currentTerm = none)
    {leaderId : Option NodeId} {nextIndex : NodeId → Nat} {matchIndex : NodeId → Int} :
    LogInv (s.put a { n with
      role := .leader, leaderId := leaderId, nextIndex := nextIndex, matchIndex := matchIndex })
      (h.recordWinner n.currentTerm a n.log) := by
  have ok := I.node_at at_
  have grows := I.recordWinner_grows (a := a) unwon n.log
  obtain ⟨positive, older⟩ := ok.contested candidate
  refine .put ?_ ?_ ?_ ?_
  · exact
      { traced := ok.traced.mono grows
        terms := ok.terms
        contested := by simp
        leader := by simp [History.recordWinner] }
  · intro b hb
    have okb := I.node b
    exact
      { traced := okb.traced.mono grows
        terms := okb.terms
        contested := okb.contested
        leader := fun leads => by
          have other : (s.nodes b).currentTerm ≠ n.currentTerm := by
            intro same
            have won := (E.node b).leads leads
            rw [same, unwon] at won
            cases won
          rw [okb.leader leads]
          simp [History.recordWinner, other] }
  · intro m hm
    refine (I.message m hm).mono grows fun src dst request sent => ?_
    have other : request.term ≠ n.currentTerm := by
      intro same
      subst sent
      obtain ⟨-, -, -, won⟩ := E.message _ hm
      rw [same, unwon] at won
      cases won
    simp [History.recordWinner, other]
  · have main u : (h.recordWinner n.currentTerm a n.log).leaderLog u =
        if u = n.currentTerm then n.log else h.leaderLog u := by
      simp [History.recordWinner, Function.update_apply]
    have base u : (h.recordWinner n.currentTerm a n.log).baseLog u =
        if u = n.currentTerm then n.log else h.baseLog u := by
      simp [History.recordWinner, Function.update_apply]
    refine ⟨fun t => ?_, fun t => ?_, fun t => ?_, fun t => ?_, fun t none => ?_, ?_⟩
    · rw [main]
      split
      · exact ok.traced.mono grows
      · exact (I.history.traced t).mono grows
    · rw [main, base]
      split
      · exact List.prefix_rfl
      · exact I.history.base t
    · rw [base]
      split
      · rename_i same
        exact same ▸ older
      · exact I.history.older t
    · rw [main, base]
      split
      · intro i e at_ past
        have := (List.getElem?_eq_some_iff.mp at_).1
        omega
      · exact I.history.own t
    · rw [main]
      split
      · simp_all [History.recordWinner]
      · exact I.history.unled t (by simp_all [History.recordWinner])
    · simpa [History.recordWinner, positive.ne] using I.history.noTerm

/-- A request made from a leader's log is a piece of it, or starts past its end. -/
theorem requestFrom_ok (I : LogInv s h) (at_ : s.nodes a = n) (leads : n.role = .leader)
    (next : Nat) :
    -1 ≤ (n.requestFrom next).prevLogIndex ∧
      ((n.requestFrom next).Copied h ∨ (n.requestFrom next).Overshot h) := by
  have main := (I.node_at at_).leader leads
  have insertAt : (n.requestFrom next).insertAt = next := by
    simp [AppendEntriesRequest.insertAt, RaftNode.requestFrom]
  refine ⟨by simp only [RaftNode.requestFrom]; omega, ?_⟩
  obtain within | past := le_or_gt next n.log.length
  · refine .inl ⟨?_, ?_, fun inside => ?_⟩
    · rw [insertAt]
      simpa [RaftNode.requestFrom, ← main] using within
    · rw [insertAt]
      simp [RaftNode.requestFrom, ← main]
    · have reach : (next : Int) - 1 < n.log.length := by omega
      have inside : 0 ≤ (next : Int) - 1 := inside
      simp only [RaftNode.requestFrom, ← main]
      rw [if_pos ⟨inside, reach⟩]
  · have base := (I.history.base n.currentTerm).length_le
    rw [← main] at base
    refine .inr ⟨?_, ?_, ?_⟩
    · simp only [RaftNode.requestFrom]
      omega
    · simp only [RaftNode.requestFrom]
      rw [if_neg (by omega)]
    · simpa [RaftNode.requestFrom] using past.le

theorem truncate (I : LogInv s h) (at_ : s.nodes a = n) (follows : n.role = .follower)
    (index : Nat) : LogInv (s.put a { n with log := n.log.take index }) h := by
  have ok := I.node_at at_
  exact I.put_same
    { traced := ok.traced.take index
      terms := fun e mem => ok.terms e (List.mem_of_mem_take mem)
      contested := by simp [follows]
      leader := by simp [follows] }

/-- What an accepted request does to the log. -/
theorem accepted (I : LogInv s h) {src : NodeId} {request : AppendEntriesRequest Command}
    (sent : .appendEntries src a request ∈ s.network) (at_ : s.nodes a = n)
    (inside : ¬request.Beyond n.log) (agrees : ¬request.Conflicts n.log) :
    request.Copied h ∧ request.insertAt ≤ n.log.length ∧
      (RaftNode.appendLoop n.log request.insertAt request.entries = n.log ∧
          n.log.take (request.insertAt + request.entries.length) =
            (h.leaderLog request.term).take (request.insertAt + request.entries.length) ∨
        RaftNode.appendLoop n.log request.insertAt request.entries =
            (h.leaderLog request.term).take (request.insertAt + request.entries.length) ∧
          n.log.take (request.insertAt + request.entries.length) ≠
            (h.leaderLog request.term).take (request.insertAt + request.entries.length)) := by
  have ok := I.node_at at_
  obtain ⟨lower, kind⟩ := I.message _ sent
  simp only [AppendEntriesRequest.Beyond, not_and, not_le, ge_iff_le] at inside
  simp only [AppendEntriesRequest.Conflicts, not_and, not_not, ge_iff_le] at agrees
  have reach : request.insertAt ≤ n.log.length := by
    rw [AppendEntriesRequest.insertAt]
    omega
  obtain copied | overshot := kind
  · refine ⟨copied, reach, appendLoop_traced ok.traced (I.history.traced _) reach ?_
      copied.within copied.entries⟩
    obtain start | later := lt_or_ge request.prevLogIndex 0
    · have zero : request.insertAt = 0 := by
        rw [AppendEntriesRequest.insertAt]
        omega
      rw [zero, List.take_zero, List.take_zero]
    · have next : request.insertAt = request.prevLogIndex.toNat + 1 := by
        rw [AppendEntriesRequest.insertAt]
        omega
      have within := copied.within
      have term := (agrees later).trans (copied.prevTerm later)
      rw [next] at reach within ⊢
      exact agree_of_term ok.traced (I.history.traced _) reach within term
  · have later : 0 ≤ request.prevLogIndex := by
      have := overshot.past
      omega
    have here : request.prevLogIndex.toNat < n.log.length := by
      have := inside later
      omega
    exact absurd ((agrees later).trans overshot.prevTerm) (I.history.positive ok.traced here)

theorem accept (I : LogInv s h) {src : NodeId} {request : AppendEntriesRequest Command}
    (sent : .appendEntries src a request ∈ s.network) (at_ : s.nodes a = n)
    (current : request.term = n.currentTerm) (follows : n.role = .follower)
    (inside : ¬request.Beyond n.log) (agrees : ¬request.Conflicts n.log) {commitIndex : Int} :
    LogInv (s.put a { n with
      log := RaftNode.appendLoop n.log request.insertAt request.entries
      commitIndex := commitIndex }) h := by
  have ok := I.node_at at_
  obtain ⟨-, -, result⟩ := I.accepted sent at_ inside agrees
  obtain ⟨kept, -⟩ | ⟨replaced, -⟩ := result
  · rw [kept]
    exact I.put_same
      { traced := ok.traced
        terms := ok.terms
        contested := by simp [follows]
        leader := by simp [follows] }
  · rw [replaced]
    exact I.put_same
      { traced := (I.history.traced _).take _
        terms := fun e mem => (I.history.terms (List.mem_of_mem_take mem)).trans current.le
        contested := by simp [follows]
        leader := by simp [follows] }

theorem recordLeaderLog_grows (I : LogInv s h) (at_ : s.nodes a = n) (leads : n.role = .leader)
    (e : LogEntry Command) (u : Nat) :
    h.leaderLog u <+: (h.recordLeaderLog n.currentTerm a (n.log ++ [e])).leaderLog u := by
  by_cases hu : u = n.currentTerm
  · subst hu
    simp [History.recordLeaderLog, ← (I.node_at at_).leader leads]
  · simp [History.recordLeaderLog, hu]

theorem propose (E : ElectionInv cluster s h) (I : LogInv s h) (at_ : s.nodes a = n)
    (leads : n.role = .leader) (command : Command) :
    LogInv (s.put a { n with log := n.log ++ [⟨n.currentTerm, command⟩] })
      (h.recordLeaderLog n.currentTerm a (n.log ++ [⟨n.currentTerm, command⟩])) := by
  have ok := I.node_at at_
  have main := ok.leader leads
  have grows := I.recordLeaderLog_grows at_ leads ⟨n.currentTerm, command⟩
  have traced : LogTraced (h.recordLeaderLog n.currentTerm a (n.log ++ [⟨n.currentTerm, command⟩]))
      (n.log ++ [⟨n.currentTerm, command⟩]) :=
    (ok.traced.mono grows).concat (by simp [History.recordLeaderLog])
  refine .put ?_ ?_ ?_ ?_
  · exact
      { traced := traced
        terms := fun e mem => by
          obtain old | new := List.mem_append.mp mem
          · exact ok.terms e old
          · rw [List.mem_singleton.mp new]
        contested := by simp [leads]
        leader := by simp [History.recordLeaderLog] }
  · intro b hb
    have okb := I.node b
    exact
      { traced := okb.traced.mono grows
        terms := okb.terms
        contested := okb.contested
        leader := fun leads' => by
          have other : (s.nodes b).currentTerm ≠ n.currentTerm := by
            intro same
            have won := (E.node b).leads leads'
            rw [same, (E.node_at at_).leads leads] at won
            exact hb (Option.some.inj won).symm
          rw [okb.leader leads']
          simp [History.recordLeaderLog, other] }
  · exact fun m hm => (I.message m hm).mono grows fun _ _ _ _ => rfl
  · refine
      { traced := fun t => ?_, base := fun t => (I.history.base t).trans (grows t)
        older := I.history.older, own := fun t => ?_, unled := fun t none => ?_
        noTerm := I.history.noTerm }
    all_goals by_cases ht : t = n.currentTerm
    · subst ht
      simpa [History.recordLeaderLog] using traced
    · simpa [History.recordLeaderLog, ht] using (I.history.traced t).mono grows
    · subst ht
      intro i e at_
      simp only [History.recordLeaderLog, Function.update_self] at at_ ⊢
      rw [main, List.getElem?_append] at at_
      split at at_
      · exact I.history.own _ i e at_
      · obtain rfl : e = ⟨n.currentTerm, command⟩ :=
          List.mem_singleton.mp (List.mem_of_getElem? at_)
        exact fun _ => rfl
    · simpa [History.recordLeaderLog, ht] using I.history.own t
    · subst ht
      have none : h.winner n.currentTerm = Option.none := none
      rw [(E.node_at at_).leads leads] at none
      cases none
    · simpa [History.recordLeaderLog, ht] using I.history.unled t none

theorem move {x y : Annotated Command} (E : ElectionInv cluster x.1 x.2) (I : LogInv x.1 x.2)
    (step : Move cluster admits x y) : LogInv y.1 y.2 := by
  cases step with
  | stepDown at_ later => exact I.frame at_ ⟨rfl, later.le, .inl rfl⟩ ⟨rfl, rfl, rfl⟩
  | campaign _ at_ _ => exact I.campaign at_ ⟨rfl, rfl, rfl⟩
  | @refuse s h m answered sent quiet ends =>
      refine I.send (List.forall_mem_singleton.mpr ?_)
      cases m with
      | appendEntries _ _ _ => exact quiet.elim
      | _ => exact True.intro
  | grant sent at_ _ _ _ =>
      exact Clauses.Hold.send (I.frame at_ ⟨rfl, le_rfl, .inr ⟨rfl, rfl⟩⟩ ⟨rfl, rfl, rfl⟩)
        (List.forall_mem_singleton.mpr True.intro)
  | grantAgain sent at_ _ _ => exact I.send (List.forall_mem_singleton.mpr True.intro)
  | countVote sent at_ _ _ _ =>
      exact I.frame at_ ⟨rfl, le_rfl, .inr ⟨rfl, rfl⟩⟩ ⟨rfl, rfl, rfl⟩
  | elect at_ candidate enough => exact elect E I at_ candidate (E.unwon at_ candidate enough)
  | replicate at_ leads targets =>
      refine I.send fun m hm => ?_
      obtain ⟨target, -, rfl⟩ := List.mem_map.mp hm
      exact I.requestFrom_ok at_ leads target.2
  | retarget at_ => exact I.frame at_ ⟨rfl, le_rfl, .inr ⟨rfl, rfl⟩⟩ ⟨rfl, rfl, rfl⟩
  | follow _ at_ _ => exact I.frame at_ ⟨rfl, le_rfl, .inl rfl⟩ ⟨rfl, rfl, rfl⟩
  | truncate _ at_ _ follows _ _ _ => exact I.truncate at_ follows _
  | @accept s h a n src request log sent at_ current follows _ inside agrees result =>
      subst result
      refine same_history (h := h) (Clauses.Hold.send ?_ (List.forall_mem_singleton.mpr True.intro))
        ⟨rfl, rfl, rfl⟩
      exact I.accept sent at_ current follows inside agrees
  | recordMatch _ at_ _ _ _ =>
      exact I.frame at_ ⟨rfl, le_rfl, .inr ⟨rfl, rfl⟩⟩ ⟨rfl, rfl, rfl⟩
  | commit at_ _ _ _ _ _ => exact I.frame at_ ⟨rfl, le_rfl, .inr ⟨rfl, rfl⟩⟩ ⟨rfl, rfl, rfl⟩
  | propose at_ leads => exact propose E I at_ leads _
  | take at_ _ =>
      exact I.apply ((I.node_at at_).keeps ⟨rfl, le_rfl, .inr ⟨rfl, rfl⟩⟩)

/-- No move takes anything back from the log of a leader. -/
theorem move_grows {x y : Annotated Command} (E : ElectionInv cluster x.1 x.2)
    (I : LogInv x.1 x.2) (step : Move cluster admits x y) (t : Nat) :
    x.2.leaderLog t <+: y.2.leaderLog t := by
  cases step with
  | elect at_ candidate enough =>
      exact I.recordWinner_grows (E.unwon at_ candidate enough) _ t
  | propose at_ leads => exact I.recordLeaderLog_grows at_ leads _ t
  | _ => exact List.prefix_rfl

end LogInv

/-- What the moves of an event leave of a history, and that the logs in it have grown. -/
theorem resolves_traced {s' : ClusterState Command} (E : ElectionInv cluster s h)
    (I : LogInv s h) (resolves : Resolves cluster admits s s') :
    ∃ h', ElectionInv cluster s' h' ∧ LogInv s' h' ∧
      ∀ t, h.leaderLog t <+: h'.leaderLog t := by
  let R (s : ClusterState Command) (h' : History Command) :=
    ElectionInv cluster s h' ∧ LogInv s h' ∧ ∀ t, h.leaderLog t <+: h'.leaderLog t
  have keeps {x y : Annotated Command} (I : R x.1 x.2) (move : Move cluster admits x y) :
      R y.1 y.2 :=
    ⟨(I.1.move move).1, I.2.1.move I.1 move,
      fun t => (I.2.2 t).trans (I.2.1.move_grows I.1 move t)⟩
  obtain ⟨h', moves⟩ := resolves h
  exact ⟨h', (moves_simulate (R := R) And.left keeps ⟨E, I, fun _ => List.prefix_rfl⟩ moves).1⟩

/-- The logs of a cluster have a common history after every run. -/
theorem runs_traced {events : List (Event Command)}
    (meets : Lib.RunMeets (step cluster) (fun s e => e.Admitted admits s)
      (ClusterState.init cluster) events) (ran : runs cluster events = some s) :
    ∃ h, ElectionInv cluster s h ∧ LogInv s h := by
  let R (s : ClusterState Command) (h : History Command) := ElectionInv cluster s h ∧ LogInv s h
  have keeps {x y : Annotated Command} (I : R x.1 x.2) (move : Move cluster admits x y) :
      R y.1 y.2 := ⟨(I.1.move move).1, I.2.move I.1 move⟩
  obtain ⟨h, I, -⟩ := run_keeps (R := R) And.left keeps ⟨.init cluster, .init cluster⟩ meets ran
  exact ⟨h, I⟩

/-- Two logs that hold entries of one term at one index are equal up to that index. -/
theorem log_matching (cluster : Cluster) {events : List (Event Command)}
    (ran : runs cluster events = some s) {a b : NodeId} {index : Nat}
    {e e' : LogEntry Command} (at_ : (s.nodes a).log[index]? = some e)
    (at' : (s.nodes b).log[index]? = some e') (same : e.term = e'.term) :
    ∀ i ≤ index, (s.nodes a).log[i]? = (s.nodes b).log[i]? := by
  obtain ⟨h, -, I⟩ := runs_traced (runs_unrestricted cluster events) ran
  have agree := (I.node a).traced.agree (I.node b).traced at_ at' same
  intro i inside
  rw [← List.getElem?_take_of_lt (l := (s.nodes a).log) (show i < index + 1 by omega), agree,
    List.getElem?_take_of_lt (by omega)]

/-- `n1` leads and replicates one entry to `n2`. -/
def replicateFirst : List (Event String) :=
  electFirst ++ [.propose "n1" "b", .heartbeatDue "n1", .deliver 5]

theorem log_matching_threeNodes :
    ∃ s, runs threeNodes replicateFirst = some s ∧
      ∀ i ≤ 0, (s.nodes "n1").log[i]? = (s.nodes "n2").log[i]? := by
  have ran := (Option.some_get (x := runs threeNodes replicateFirst) (by decide)).symm
  refine ⟨_, ran, ?_⟩
  have at₁ : (((runs threeNodes replicateFirst).get (by decide)).nodes "n1").log[0]? =
    some ⟨1, "b"⟩ := by decide
  have at₂ : (((runs threeNodes replicateFirst).get (by decide)).nodes "n2").log[0]? =
    some ⟨1, "b"⟩ := by decide
  exact log_matching threeNodes ran at₁ at₂ rfl

end FleetRMW.Raft
