import FleetRMW.Rmw.ServiceTurns
import Mathlib.Data.List.Find

/-! # Equal clients of a service

Of clients with the same priority the scheduler serves the first that was not served last. It
remembers one client only, so that two clients take turns and any others wait for ever.
-/

namespace FleetRMW.Rmw

open Lib

namespace FleetQoxServiceData

variable {data : FleetQoxServiceData} {heads : Dict Bytes (Nat × ServiceFrame)} {nowNs : Int}
  {order : List Bytes} {a b last : Bytes}

/-! ## The next client -/

/-- The first client that was not served last, or else the first. -/
def nextClient (order : List Bytes) (last : Bytes) : Bytes :=
  ((order.find? fun c => last ≠ [] ∧ c ≠ last).or order.head?).getD last

theorem nextClient_nil (order : List Bytes) : nextClient order [] = order.head?.getD [] := by
  have nobody : (order.find? fun c => decide (([] : Bytes) ≠ [] ∧ c ≠ [])) = none :=
    List.find?_eq_none.mpr fun _ _ wanted => (of_decide_eq_true wanted).1 rfl
  rw [nextClient, nobody, Option.none_or]

theorem nextClient_single : nextClient [a] last = a := by
  unfold nextClient
  by_cases other : last ≠ [] ∧ a ≠ last <;> simp [other]

theorem nextClient_mem (some_ : order ≠ []) : nextClient order last ∈ order := by
  unfold nextClient
  cases wanted : order.find? fun c => last ≠ [] ∧ c ≠ last with
  | some c =>
      rw [Option.some_or]
      exact List.mem_of_find?_eq_some wanted
  | none =>
      rw [Option.none_or, List.head?_eq_some_head some_]
      exact List.head_mem some_

theorem nextClient_unnamed : nextClient ([] :: order) last = [] := by
  by_cases named : last = []
  · rw [named, nextClient_nil]
    rfl
  · simp [nextClient, named, Ne.symm named]

theorem nextClient_named (named : a ≠ []) (two : a ≠ b) :
    nextClient (a :: b :: order) last = if last = a then b else a := by
  by_cases here : last = a
  · simp [nextClient, here, named, two.symm]
  · by_cases unnamed : last = []
    · rw [if_neg here, unnamed, nextClient_nil]
      rfl
    · simp [nextClient, unnamed, here, Ne.symm here]

/-- The heads of all clients have the same priority. -/
def EqualHeads (data : FleetQoxServiceData) (nowNs : Int) : Prop :=
  ∀ head ∈ clientHeads data.requestQueue, ∀ other ∈ clientHeads data.requestQueue,
    effectiveServicePriority head.2.2 nowNs data.servicePriorityAgingNs =
      effectiveServicePriority other.2.2 nowNs data.servicePriorityAgingNs

theorem foldl_max_of_equal {p : Nat} {ps : List Nat} (equal : ∀ q ∈ ps, q = p) (some_ : ps ≠ []) :
    ps.foldl max 0 = p := by
  have within : ∀ ps : List Nat, (∀ q ∈ ps, q = p) → ∀ m ≤ p, ps.foldl max m =
      if ps = [] then m else p := by
    intro ps
    induction ps with
    | nil => exact fun _ _ _ => rfl
    | cons q ps ih =>
        intro equal m small
        rw [List.foldl_cons, equal q List.mem_cons_self, Nat.max_eq_right small,
          ih (fun r later => equal r (List.mem_cons_of_mem q later)) p (Nat.le_refl p), ite_self]
        exact (if_neg (List.cons_ne_nil _ ps)).symm
  rw [within ps equal 0 (Nat.zero_le p), if_neg some_]

theorem filter_of_equal (equal : data.EqualHeads nowNs)
    (some_ : clientHeads data.requestQueue ≠ []) :
    (clientHeads data.requestQueue).filter (fun head =>
      effectiveServicePriority head.2.2 nowNs data.servicePriorityAgingNs =
        ((clientHeads data.requestQueue).map fun head =>
          effectiveServicePriority head.2.2 nowNs data.servicePriorityAgingNs).foldl max 0) =
      clientHeads data.requestQueue := by
  apply List.filter_eq_self.mpr
  intro head among
  apply decide_eq_true
  rw [foldl_max_of_equal (p := effectiveServicePriority head.2.2 nowNs data.servicePriorityAgingNs)]
  · intro q isPriority
    obtain ⟨other, isHead, rfl⟩ := List.mem_map.mp isPriority
    exact equal other isHead head among
  · intro none
    exact some_ (List.map_eq_nil_iff.mp none)

/-- Of equal heads the one of the next client is selected. -/
theorem selectRequest_equal (noDeadline : data.scheduling.deadline = false)
    (notWeighted : data.scheduling.weighted = false) (some_ : data.requestQueue ≠ [])
    (equal : data.EqualHeads nowNs) :
    ∃ position frame, data.selectRequest nowNs = (some (position, frame), data) ∧
      frame.clientEndpointId =
        nextClient (headClients (clientHeads data.requestQueue)) data.scheduling.last := by
  change data.deadlineServiceScheduler = false at noDeadline
  change data.weightedServiceScheduler = false at notWeighted
  have headsOf := headsOf_clientHeads data.requestQueue
  have found : clientHeads data.requestQueue ≠ [] := by
    obtain ⟨f, queued⟩ := List.exists_mem_of_ne_nil _ some_
    have among := (headsOf.present _).mpr ⟨f, queued, rfl⟩
    intro none
    rw [none] at among
    cases among
  have eligible := filter_of_equal equal found
  obtain ⟨chosen, search⟩ : ∃ chosen, ((clientHeads data.requestQueue).find? fun head =>
      data.lastDequeuedClientEndpointId ≠ [] ∧
        head.2.2.clientEndpointId ≠ data.lastDequeuedClientEndpointId).or
      (clientHeads data.requestQueue).head? = some chosen := by
    rw [← Option.isSome_iff_exists, Option.isSome_or, Bool.or_eq_true]
    exact .inr (List.isSome_head?.mpr found)
  have agree : ((headClients (clientHeads data.requestQueue)).find? fun c =>
      data.lastDequeuedClientEndpointId ≠ [] ∧ c ≠ data.lastDequeuedClientEndpointId) =
      ((clientHeads data.requestQueue).find? fun head =>
        data.lastDequeuedClientEndpointId ≠ [] ∧
          head.2.2.clientEndpointId ≠ data.lastDequeuedClientEndpointId).map Prod.fst := by
    rw [headClients, List.find?_map]
    congr 1
    apply List.find?_congr
    intro head among
    rw [headsOf.keyed head among]
    rfl
  have among : chosen ∈ clientHeads data.requestQueue := by
    rcases Option.or_eq_some_iff.mp search with first | ⟨_, first⟩
    · exact List.mem_of_find?_eq_some first
    · exact List.mem_of_head? first
  refine ⟨chosen.2.1, chosen.2.2, ?_, ?_⟩
  · unfold selectRequest
    simp only [noDeadline, notWeighted, Bool.false_eq_true, if_false, selectByPriority, eligible,
      search]
    rfl
  · rw [headsOf.keyed chosen among, nextClient]
    change _ = (((headClients (clientHeads data.requestQueue)).find? fun c =>
      data.lastDequeuedClientEndpointId ≠ [] ∧ c ≠ data.lastDequeuedClientEndpointId).or _).getD _
    rw [agree, headClients, List.head?_map, ← Option.map_or, search]
    rfl

end FleetQoxServiceData

open FleetQoxServiceData

/-! ## Turns -/

/-- The client that is served after so many takes, where at first `last` was. -/
def servedAfter (order : List Bytes) (last : Bytes) : Nat → Bytes
  | 0 => last
  | n + 1 => nextClient order (servedAfter order last n)

/-- Between two turns of a client that follow each other every other client has one. -/
def InTurn (clients : Finset Bytes) (turns : List Bytes) : Prop :=
  ∀ before c between after, turns = before ++ c :: between ++ c :: after → c ∉ between →
    ∀ d ∈ clients, d ≠ c → d ∈ between

/-- The turns that the priority scheduler gives. -/
def turnsAfter (order : List Bytes) (last : Bytes) (n : Nat) : List Bytes :=
  (List.range n).map fun i => servedAfter order last (i + 1)

variable {order before after between turns : List Bytes} {a b c d last : Bytes} {n : Nat}
  {clients : Finset Bytes}

theorem turnsAfter_succ : turnsAfter order last (n + 1) =
    turnsAfter order last n ++ [servedAfter order last (n + 1)] := by
  rw [turnsAfter, List.range_succ, List.map_append, List.map_singleton, turnsAfter]

theorem servedAfter_of_getElem? {i : Nat} (turn : (turnsAfter order last n)[i]? = some c) :
    c = servedAfter order last (i + 1) := by
  rw [turnsAfter, List.getElem?_map] at turn
  obtain ⟨j, there, rfl⟩ := Option.map_eq_some_iff.mp turn
  obtain ⟨_, same⟩ := List.getElem?_eq_some_iff.mp there
  rw [← same, List.getElem_range]

/-- Who has a turn is the next one after who had the turn before. -/
theorem next_of_turnsAfter (listed : turnsAfter order last n = before ++ c :: d :: after) :
    d = nextClient order c := by
  have here : (turnsAfter order last n)[before.length]? = some c := by
    rw [listed, List.getElem?_append_right (Nat.le_refl _), Nat.sub_self]
    rfl
  have there : (turnsAfter order last n)[before.length + 1]? = some d := by
    rw [listed, List.getElem?_append_right (Nat.le_add_right _ 1), Nat.add_sub_cancel_left]
    rfl
  rw [servedAfter_of_getElem? here, servedAfter_of_getElem? there]
  rfl

theorem mem_of_turnsAfter (some_ : order ≠ []) (turn : c ∈ turnsAfter order last n) : c ∈ order := by
  obtain ⟨i, _, rfl⟩ := List.mem_map.mp turn
  exact nextClient_mem some_

theorem turnsAfter_three (order : List Bytes) (last : Bytes) (n : Nat) : ∃ rest, turnsAfter order last (n + 3) =
    nextClient order last :: nextClient order (nextClient order last) ::
      nextClient order (nextClient order (nextClient order last)) :: rest := by
  rw [turnsAfter, List.range_succ_eq_map, List.range_succ_eq_map, List.range_succ_eq_map]
  exact ⟨_, rfl⟩

/-- One client has every turn. -/
theorem inTurn_of_single : InTurn {a} (turnsAfter [a] last n) := by
  intro before c between after listed _ d isClient other
  have isTurn : c ∈ [a] := by
    apply mem_of_turnsAfter (List.cons_ne_nil a [])
    rw [listed]
    simp
  rw [List.mem_singleton.mp isTurn, Finset.mem_singleton.mp isClient] at other
  exact absurd rfl other

/-- Two clients take turns. -/
theorem inTurn_of_two (named : a ≠ []) (two : a ≠ b) :
    InTurn [a, b].toFinset (turnsAfter [a, b] last n) := by
  intro before c between after listed _ d isClient other
  rw [List.append_assoc, List.cons_append] at listed
  have isTurn : c ∈ [a, b] := by
    apply mem_of_turnsAfter (List.cons_ne_nil a [b])
    rw [listed]
    exact List.mem_append_right before List.mem_cons_self
  cases between with
  | nil =>
      have again := next_of_turnsAfter listed
      rw [nextClient_named named two] at again
      grind
  | cons e between =>
      have next := next_of_turnsAfter listed
      rw [nextClient_named named two] at next
      have isOther : d ∈ [a, b] := List.mem_toFinset.mp isClient
      have same : d = e := by grind
      rw [same]
      exact List.mem_cons_self

/-- An unnamed client has every turn. -/
theorem not_inTurn_of_unnamed (another : b ∈ clients) (named : b ≠ []) :
    ¬InTurn clients (turnsAfter ([] :: order) last (n + 3)) := by
  intro inTurn
  obtain ⟨rest, listed⟩ := turnsAfter_three ([] :: order) last n
  rw [nextClient_unnamed, nextClient_unnamed, nextClient_unnamed] at listed
  have between := inTurn [] [] [] ([] :: rest) listed List.not_mem_nil b another named
  cases between

/-- Of more than two clients only two have turns. -/
theorem not_inTurn_of_third (named : a ≠ []) (two : a ≠ b) (third : c ∈ clients)
    (notFirst : c ≠ a) (notSecond : c ≠ b) :
    ¬InTurn clients (turnsAfter (a :: b :: order) last (n + 3)) := by
  intro inTurn
  obtain ⟨rest, listed⟩ := turnsAfter_three (a :: b :: order) last n
  rw [nextClient_named named two, nextClient_named named two, nextClient_named named two] at listed
  by_cases first : last = a
  · rw [if_pos first, if_neg two.symm, if_pos rfl] at listed
    have between := inTurn [] b [a] rest listed (by simpa using two.symm) c third notSecond
    exact notFirst (List.mem_singleton.mp between)
  · rw [if_neg first, if_pos rfl, if_neg two.symm] at listed
    have between := inTurn [] a [b] rest listed (by simpa using two) c third notFirst
    exact notSecond (List.mem_singleton.mp between)

/-- So many clients take turns. -/
def FewClients (clients : Finset Bytes) : Prop :=
  clients.card ≤ 1 ∨ clients.card = 2 ∧ [] ∉ clients

theorem inTurn_of_few (distinct : order.Nodup) (few : FewClients order.toFinset) :
    InTurn order.toFinset (turnsAfter order last n) := by
  rw [FewClients, List.toFinset_card_of_nodup distinct] at few
  rcases order with _ | ⟨a, _ | ⟨b, _ | ⟨c, order⟩⟩⟩
  · intro _ _ _ _ _ _ d isClient
    exact absurd isClient (Finset.notMem_empty d)
  · exact inTurn_of_single
  · have named : a ≠ [] := by
      rintro rfl
      simp at few
    have two : a ≠ b := by simpa using distinct
    exact inTurn_of_two named two
  · simp at few

theorem few_of_inTurn (ascending : order.Pairwise (· < ·))
    (inTurn : InTurn order.toFinset (turnsAfter order last (n + 3))) :
    FewClients order.toFinset := by
  have distinct := nodup_of_ascending ascending
  rw [FewClients, List.toFinset_card_of_nodup distinct]
  cases order with
  | nil => exact .inl (Nat.zero_le 1)
  | cons a order =>
      cases order with
      | nil => exact .inl (Nat.le_refl 1)
      | cons b order =>
          have less : a < b := (List.pairwise_cons.mp ascending).1 b List.mem_cons_self
          have two : a ≠ b := fun same => List.lt_irrefl b (by rwa [same] at less)
          have named : a ≠ [] := by
            rintro rfl
            exact not_inTurn_of_unnamed (b := b) (by simp) two.symm inTurn
          cases order with
          | nil =>
              have named' : b ≠ [] := fun unnamed => List.not_lt_nil a (by rwa [unnamed] at less)
              exact .inr ⟨rfl, by simpa using ⟨named, named'⟩⟩
          | cons c order =>
              have notFirst : c ≠ a := by
                rintro rfl
                simp at distinct
              have notSecond : c ≠ b := by
                rintro rfl
                simp at distinct
              exact absurd inTurn (not_inTurn_of_third named two (by simp) notFirst notSecond)

/-! ## Runs -/

namespace TurnRun

variable {s s' : TurnRun} {e : ServiceEvent} {gidSize : Nat}

/-- At a take the clients wait, and their heads have the same priority when the clock is read. -/
def EqualClients (clients : Finset Bytes) (s : TurnRun) : ServiceEvent → Prop
  | .takes clocks _ => Served clients s.data clocks ∧
      s.data.EqualHeads (clocks.steadyNs (s.data.requestQueue.length - 1))
  | .arrives .. | .responds _ => True

/-- The clients had the turns that the priority scheduler gives. -/
structure Alternates (order : List Bytes) (last : Bytes) (s : TurnRun) : Prop where
  noDeadline : s.data.scheduling.deadline = false
  notWeighted : s.data.scheduling.weighted = false
  turns : s.clients = turnsAfter order last s.clients.length
  servedLast : s.data.scheduling.last = servedAfter order last s.clients.length

theorem Alternates.of_scheduling (alternates : Alternates order last s)
    (same : s'.data.scheduling = s.data.scheduling) (dequeued : s'.dequeued = s.dequeued) :
    Alternates order last s' := by
  have turns : s'.clients = s.clients := by rw [TurnRun.clients, dequeued, TurnRun.clients]
  constructor
  · rw [same]
    exact alternates.noDeadline
  · rw [same]
    exact alternates.notWeighted
  · rw [turns]
    exact alternates.turns
  · rw [same, turns]
    exact alternates.servedLast

theorem Alternates.take
    (orders : ∀ queue, Wait clients queue → headClients (clientHeads queue) = order)
    (alternates : Alternates order last s) {clocks : TurnClocks} {deserializes : Bool}
    (equal : EqualClients clients s (.takes clocks deserializes)) :
    Alternates order last (s.after gidSize (.takes clocks deserializes)) := by
  obtain ⟨served, equalHeads⟩ := equal
  rcases take_cases served gidSize deserializes with ⟨nothing, same⟩ | ⟨some_, takes⟩
  · apply alternates.of_scheduling same
    rw [after, nothing]
    exact List.append_nil _
  · obtain ⟨position, frame, selects, client⟩ := selectRequest_equal alternates.noDeadline
      alternates.notWeighted some_ equalHeads
    rw [orders _ served.wait, alternates.servedLast] at client
    obtain ⟨dequeued, same⟩ := takes position frame _ selects
    have grown : (s.after gidSize (.takes clocks deserializes)).clients =
        s.clients ++ [frame.clientEndpointId] := by
      rw [TurnRun.after, TurnRun.clients, dequeued]
      exact List.map_append
    have longer : (s.after gidSize (.takes clocks deserializes)).clients.length =
        s.clients.length + 1 := by
      rw [grown, List.length_append]
      rfl
    constructor
    · exact (congrArg Scheduling.deadline same).trans alternates.noDeadline
    · exact (congrArg Scheduling.weighted same).trans alternates.notWeighted
    · rw [longer, grown, turnsAfter_succ, ← alternates.turns, client]
      rfl
    · rw [longer]
      exact (congrArg Scheduling.last same).trans client

theorem Alternates.step
    (orders : ∀ queue, Wait clients queue → headClients (clientHeads queue) = order)
    (alternates : Alternates order last s) (equal : EqualClients clients s e)
    (h : step gidSize s e = some s') : Alternates order last s' := by
  obtain rfl := Option.some.inj h
  cases e with
  | arrives frame arrival =>
      exact alternates.of_scheduling (scheduling_handleServiceFrame frame arrival) rfl
  | responds call => exact alternates.of_scheduling (scheduling_rmwSendResponse call) rfl
  | takes clocks deserializes => exact alternates.take orders equal

/-- Equal clients that always wait are served in turn when they are few, and as soon as three
    requests were dequeued only then. -/
theorem served_in_turn (gidSize : Nat) (data : FleetQoxServiceData) {events : List ServiceEvent}
    (noDeadline : data.deadlineServiceScheduler = false)
    (notWeighted : data.weightedServiceScheduler = false)
    (equal : RunMeets (step gidSize) (EqualClients clients) ⟨data, []⟩ events)
    (h : run (step gidSize) ⟨data, []⟩ events = some s) :
    (FewClients clients → InTurn clients s.clients) ∧
      (3 ≤ s.clients.length → InTurn clients s.clients → FewClients clients) := by
  obtain ⟨order, ascending, rfl, orders⟩ := exists_order clients
  have start : Alternates order data.lastDequeuedClientEndpointId ⟨data, []⟩ :=
    ⟨noDeadline, notWeighted, rfl, rfl⟩
  have alternates : Alternates order data.lastDequeuedClientEndpointId s :=
    run_invariant (fun alternates equal h => alternates.step orders equal h) start equal h
  rw [alternates.turns, turnsAfter, List.length_map, List.length_range, ← turnsAfter]
  constructor
  · exact inTurn_of_few (nodup_of_ascending ascending)
  · intro three inTurn
    obtain ⟨n, long⟩ := Nat.exists_eq_add_of_le' three
    rw [long] at inTurn
    exact few_of_inTurn ascending inTurn

/-! ### Three clients -/

/-- A service with the default scheduler where these clients' requests wait. -/
def serving (requests : List (Bytes × Int64)) : TurnRun :=
  (requests.map fun request => ServiceEvent.arrives (requestFrom request.1 request.2) {}).foldl
    (TurnRun.after 16)
    ⟨allocateServiceData (octets "add") (octets "AddTwoInts") 0 (octets "s") 10 {} {}, []⟩

theorem equal_of_decided {clocks : TurnClocks} {deserializes : Bool}
    (waits : clients = (s.data.requestQueue.map (·.clientEndpointId)).toFinset ∧
      ∀ f ∈ s.data.requestQueue, f.lifespanNs ≤ 0)
    (equal : s.data.EqualHeads (clocks.steadyNs (s.data.requestQueue.length - 1))) :
    EqualClients clients s (.takes clocks deserializes) :=
  ⟨⟨wait_iff.mpr waits.1, fun f queued _ => fresh_of_endless (waits.2 f queued)⟩, equal⟩

def twoWait : TurnRun :=
  serving [(octets "a", 1), (octets "a", 2), (octets "b", 1), (octets "b", 2)]

def threeWait : TurnRun :=
  serving [(octets "a", 1), (octets "a", 2), (octets "b", 1), (octets "b", 2), (octets "c", 1)]

theorem served_in_turn_twoWait : ∃ s,
    run (step 16) twoWait [.takes {} true, .takes {} true, .takes {} true] = some s ∧
      InTurn {octets "a", octets "b"} s.clients := by
  have equal : RunMeets (step 16) (EqualClients {octets "a", octets "b"}) twoWait
      [.takes {} true, .takes {} true, .takes {} true] := by
    apply RunMeets.of_step (equal_of_decided (by decide) (by unfold EqualHeads; decide)) rfl
    apply RunMeets.of_step (equal_of_decided (by decide) (by unfold EqualHeads; decide)) rfl
    apply RunMeets.of_step (equal_of_decided (by decide) (by unfold EqualHeads; decide)) rfl
    trivial
  exact ⟨_, rfl, (served_in_turn 16 twoWait.data rfl rfl equal rfl).1
    (.inr (by decide))⟩

/-- The third of three equal clients is not served between two turns of the first one. -/
theorem third_client_waits : ∃ s,
    RunMeets (step 16) (EqualClients {octets "a", octets "b", octets "c"}) threeWait
      [.takes {} true, .takes {} true, .takes {} true] ∧
    run (step 16) threeWait [.takes {} true, .takes {} true, .takes {} true] = some s ∧
    ¬InTurn {octets "a", octets "b", octets "c"} s.clients := by
  refine ⟨_, ?_, rfl, ?_⟩
  · apply RunMeets.of_step (equal_of_decided (by decide) (by unfold EqualHeads; decide)) rfl
    apply RunMeets.of_step (equal_of_decided (by decide) (by unfold EqualHeads; decide)) rfl
    apply RunMeets.of_step (equal_of_decided (by decide) (by unfold EqualHeads; decide)) rfl
    trivial
  · intro inTurn
    have between := inTurn [] (octets "a") [octets "b"] [] rfl (by decide) (octets "c") (by decide)
      (by decide)
    revert between
    decide

end TurnRun

end FleetRMW.Rmw
