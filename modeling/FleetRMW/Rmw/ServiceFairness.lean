import FleetRMW.Lib.SmoothRoundRobin
import FleetRMW.Rmw.ServiceTurns
import Mathlib.Algebra.BigOperators.Group.Finset.Basic

/-! # Shares of the clients of a service

The weighted scheduler is a smooth weighted round robin: of clients that always wait each gets its
weight in any turns one after the other, as many as all weights together. A take that cannot read
the request it got out of the queue counts as a turn.
-/

namespace FleetRMW.Rmw

open Lib SmoothRoundRobin

namespace FleetQoxServiceData

variable {data data' : FleetQoxServiceData} {queue : List ServiceFrame}
  {heads : Dict Bytes (Nat × ServiceFrame)} {c : Bytes} {order : List Bytes}
  {clients : Finset Bytes} {credit : Bytes → Int}

/-! ## The most credit -/

/-- One turn of the search, of clients alone. -/
def considerClient (credit : Bytes → Int) (selected : Option (Int × Bytes)) (client : Bytes) :
    Option (Int × Bytes) :=
  match selected with
  | none => some (credit client, client)
  | some (best, _) => if credit client > best then some (credit client, client) else selected

/-- The first client with the most credit. -/
def richest (order : List Bytes) (credit : Bytes → Int) : Bytes :=
  ((order.foldl (considerClient credit) none).map Prod.snd).getD []

/-- The search behind a client that is selected already. -/
theorem foldl_considerClient (order : List Bytes) (credit : Bytes → Int) (selected : Bytes) :
    ∃ c, order.foldl (considerClient credit) (some (credit selected, selected)) =
        some (credit c, c) ∧
      (c = selected ∨ c ∈ order) ∧ credit selected ≤ credit c ∧ ∀ a ∈ order, credit a ≤ credit c := by
  induction order generalizing selected with
  | nil => exact ⟨selected, rfl, .inl rfl, Int.le_refl _, fun _ among => absurd among List.not_mem_nil⟩
  | cons client order ih =>
      rw [List.foldl_cons, considerClient]
      split
      case isTrue more =>
        obtain ⟨c, finds, among, atLeast, most⟩ := ih client
        refine ⟨c, finds, ?_, by omega, ?_⟩
        · rcases among with rfl | later
          · exact .inr List.mem_cons_self
          · exact .inr (List.mem_cons_of_mem _ later)
        · intro a isClient
          rcases List.mem_cons.mp isClient with rfl | later
          · exact atLeast
          · exact most a later
      case isFalse notMore =>
        obtain ⟨c, finds, among, atLeast, most⟩ := ih selected
        refine ⟨c, finds, among.imp_right (List.mem_cons_of_mem _), atLeast, ?_⟩
        intro a isClient
        rcases List.mem_cons.mp isClient with rfl | later
        · omega
        · exact most a later

theorem richest_most (some_ : order ≠ []) : order.foldl (considerClient credit) none =
      some (credit (richest order credit), richest order credit) ∧
    richest order credit ∈ order ∧ ∀ a ∈ order, credit a ≤ credit (richest order credit) := by
  cases order with
  | nil => exact absurd rfl some_
  | cons client order =>
      obtain ⟨c, finds, among, atLeast, most⟩ :=
        foldl_considerClient order credit client
      have found : (client :: order).foldl (considerClient credit) none = some (credit c, c) := finds
      have same : richest (client :: order) credit = c := by rw [richest, found]; rfl
      rw [same]
      refine ⟨found, ?_, ?_⟩
      · rcases among with rfl | later
        · exact List.mem_cons_self
        · exact List.mem_cons_of_mem _ later
      · intro a isClient
        rcases List.mem_cons.mp isClient with rfl | later
        · exact atLeast
        · exact most a later

theorem chooses_richest (some_ : clients.Nonempty) (listed : order.toFinset = clients) :
    Chooses clients (richest order) := by
  have mem : ∀ c, c ∈ clients ↔ c ∈ order := fun c => by rw [← listed, List.mem_toFinset]
  have order_ne_nil : order ≠ [] := by
    obtain ⟨c, among⟩ := some_
    exact List.ne_nil_of_mem ((mem c).mp among)
  constructor
  · exact fun credit => (mem _).mpr (richest_most order_ne_nil).2.1
  · exact fun credit a among => (richest_most order_ne_nil).2.2 a ((mem a).mp among)
  · intro credit credit' same
    unfold richest
    rw [List.foldl_ext _ (considerClient credit') none]
    intro selected c among
    unfold considerClient
    rw [same c ((mem c).mpr among)]

/-- The search of the heads finds the client that the search of the clients finds. -/
theorem foldl_considerCredit (credits : Dict Bytes Int)
    (keyed : ∀ head ∈ heads, head.2.2.clientEndpointId = head.1)
    (selected : Option (Int × (Nat × ServiceFrame))) :
    (heads.foldl (considerCredit credits) selected).map (fun s => (s.1, s.2.2.clientEndpointId)) =
      (headClients heads).foldl (considerClient fun c => (credits.get? c).getD 0)
        (selected.map fun s => (s.1, s.2.2.clientEndpointId)) := by
  induction heads generalizing selected with
  | nil => rfl
  | cons head heads ih =>
      have turn : (considerCredit credits selected head).map
            (fun s => (s.1, s.2.2.clientEndpointId)) =
          considerClient (fun c => (credits.get? c).getD 0)
            (selected.map fun s => (s.1, s.2.2.clientEndpointId)) head.1 := by
        have key := keyed head List.mem_cons_self
        cases selected with
        | none => simp [considerCredit, considerClient, key]
        | some s =>
            simp only [considerCredit, considerClient, Option.map_some]
            split <;> simp [key]
      rw [List.foldl_cons, ih fun h among => keyed h (List.mem_cons_of_mem _ among), turn]
      rfl

/-! ## Credits -/

variable {weight : Bytes → Int}

/-- The table says what the clients' credits are. -/
structure Owes (clients : Finset Bytes) (table : Dict Bytes Int) (credit : Bytes → Int) : Prop where
  value : ∀ c ∈ clients, (table.get? c).getD 0 = credit c
  isClient : ∀ e ∈ table, e.1 ∈ clients
  distinct : (table.map Prod.fst).Nodup

theorem Owes.entry {table : Dict Bytes Int} (owes : Owes clients table credit) {e : Bytes × Int}
    (among : e ∈ table) : e.2 = credit e.1 := by
  rw [← owes.value e.1 (owes.isClient e among), Dict.get?_of_mem owes.distinct among]
  rfl

/-- What the clients have after they gained their weights. -/
def gained (heads : Dict Bytes (Nat × ServiceFrame)) (table : Dict Bytes Int) : Dict Bytes Int :=
  heads.map fun head => (head.1, (table.get? head.1).getD 0 + headWeight head.2.2)

theorem keys_gained (heads : Dict Bytes (Nat × ServiceFrame)) (table : Dict Bytes Int) :
    (gained heads table).map Prod.fst = headClients heads := by
  rw [gained, List.map_map]
  rfl

theorem gained_get? (headsOf : HeadsOf queue heads) (table : Dict Bytes Int)
    (weights : ∀ head ∈ heads, headWeight head.2.2 = weight head.1) (among : c ∈ headClients heads) :
    (gained heads table).get? c = some ((table.get? c).getD 0 + weight c) := by
  obtain ⟨head, isHead, rfl⟩ := List.mem_map.mp among
  rw [← weights head isHead]
  apply Dict.get?_of_mem
  · rw [keys_gained]
    exact nodup_of_ascending headsOf.ascending
  · exact List.mem_map.mpr ⟨head, isHead, rfl⟩

theorem selectByWeight_found {best : Int} {selected : Nat × ServiceFrame}
    (finds : heads.foldl (considerCredit (gained heads data.weightedServiceCurrent)) none =
      some (best, selected)) :
    data.selectByWeight heads = (some selected,
      (gained heads data.weightedServiceCurrent).set selected.2.clientEndpointId
        (best - (heads.map fun head => headWeight head.2.2).sum)) := by
  unfold gained at finds ⊢
  simp only [selectByWeight, finds]

/-- The scheduler's turn is a turn of the smooth round robin. -/
theorem selectByWeight_turn (data : FleetQoxServiceData) (headsOf : HeadsOf queue heads)
    (listed : (headClients heads).toFinset = clients)
    (weights : ∀ head ∈ heads, headWeight head.2.2 = weight head.1)
    (owes : Owes clients data.weightedServiceCurrent credit)
    (chooses : Chooses clients (richest (headClients heads))) :
    ∃ position frame, (data.selectByWeight heads).1 = some (position, frame) ∧
      frame.clientEndpointId = richest (headClients heads) (gain weight credit) ∧
      Owes clients (data.selectByWeight heads).2
        (turn clients weight (richest (headClients heads)) credit) := by
  have mem : ∀ c, c ∈ clients ↔ c ∈ headClients heads := fun c => by
    rw [← listed, List.mem_toFinset]
  have names : headClients heads ≠ [] := List.ne_nil_of_mem ((mem _).mp (chooses.mem credit))
  have distinct := nodup_of_ascending headsOf.ascending
  have gains : ∀ c ∈ clients,
      (gained heads data.weightedServiceCurrent).get? c = some (gain weight credit c) := by
    intro c among
    rw [gained_get? headsOf _ weights ((mem c).mp among), owes.value c among]
    rfl
  have credits : ∀ c ∈ clients,
      ((gained heads data.weightedServiceCurrent).get? c).getD 0 = gain weight credit c := by
    intro c among
    rw [gains c among]
    rfl
  have sum : (heads.map fun head => headWeight head.2.2).sum = total clients weight := by
    rw [total, ← listed, List.sum_toFinset _ distinct, headClients, List.map_map]
    congr 1
    exact List.map_congr_left weights
  have picked := chooses.within _ _ credits
  have search := foldl_considerCredit (gained heads data.weightedServiceCurrent)
    headsOf.keyed none
  rw [Option.map_none, (richest_most names).1, picked, credits _ (chooses.mem _)] at search
  obtain ⟨⟨best, position, frame⟩, finds, same⟩ := Option.map_eq_some_iff.mp search
  obtain ⟨rfl, client⟩ := Prod.mk.inj same
  dsimp only at client
  rw [selectByWeight_found finds]
  dsimp only
  refine ⟨position, frame, rfl, client, ?_, ?_, ?_⟩
  · intro c among
    rw [sum, client, turn]
    by_cases here : c = richest (headClients heads) (gain weight credit)
    · rw [if_pos here, here, Dict.get?_set_self]
      rfl
    · rw [if_neg here, Dict.get?_set_of_ne here, gains c among]
      exact (Int.sub_zero _).symm
  · intro e among
    rw [client] at among
    cases Dict.mem_set among with
    | inl new =>
        rw [new]
        exact chooses.mem _
    | inr old =>
        rw [mem, ← keys_gained heads data.weightedServiceCurrent]
        exact List.mem_map_of_mem old
  · apply Dict.nodup_keys_set
    rw [keys_gained]
    exact distinct

theorem selectRequest_weighted {nowNs : Int} (noDeadline : data.scheduling.deadline = false)
    (weighted : data.scheduling.weighted = true) :
    data.selectRequest nowNs = ((data.selectByWeight (clientHeads data.requestQueue)).1,
      { data with weightedServiceCurrent :=
        (data.selectByWeight (clientHeads data.requestQueue)).2 }) := by
  change data.deadlineServiceScheduler = false at noDeadline
  change data.weightedServiceScheduler = true at weighted
  unfold selectRequest
  simp only [noDeadline, weighted, Bool.false_eq_true, if_false, if_true]

end FleetQoxServiceData

open FleetQoxServiceData

namespace TurnRun

variable {s s' : TurnRun} {e : ServiceEvent} {clients : Finset Bytes} {weight : Bytes → Int}
  {order : List Bytes} {gidSize : Nat}

/-- At a take the clients wait, and each request has the weight of its client. -/
def SteadyWeights (clients : Finset Bytes) (weight : Bytes → Int) (s : TurnRun) :
    ServiceEvent → Prop
  | .takes clocks _ => Served clients s.data clocks ∧
      ∀ f ∈ s.data.requestQueue, headWeight f = weight f.clientEndpointId
  | .arrives .. | .responds _ => True

/-- The clients were picked as the smooth round robin picks them, and have its credits. -/
structure Shared (clients : Finset Bytes) (weight : Bytes → Int) (order : List Bytes)
    (s : TurnRun) : Prop where
  noDeadline : s.data.scheduling.deadline = false
  weighted : s.data.scheduling.weighted = true
  picked : s.clients = picks clients weight (richest order) s.clients.length
  owes : Owes clients s.data.scheduling.credits
    (credits clients weight (richest order) s.clients.length)

theorem Shared.of_scheduling (shared : Shared clients weight order s)
    (same : s'.data.scheduling = s.data.scheduling) (dequeued : s'.dequeued = s.dequeued) :
    Shared clients weight order s' := by
  have clients_ : s'.clients = s.clients := by rw [TurnRun.clients, dequeued, TurnRun.clients]
  constructor
  · rw [same]
    exact shared.noDeadline
  · rw [same]
    exact shared.weighted
  · rw [clients_]
    exact shared.picked
  · rw [same, clients_]
    exact shared.owes

theorem Shared.take (listed : order.toFinset = clients)
    (orders : ∀ queue, Wait clients queue → headClients (clientHeads queue) = order)
    (shared : Shared clients weight order s) {clocks : TurnClocks} {deserializes : Bool}
    (steady : SteadyWeights clients weight s (.takes clocks deserializes)) :
    Shared clients weight order (s.after gidSize (.takes clocks deserializes)) := by
  obtain ⟨served, weights⟩ := steady
  rcases take_cases served gidSize deserializes with ⟨nothing, same⟩ | ⟨some_, takes⟩
  · apply shared.of_scheduling same
    rw [after, nothing]
    exact List.append_nil _
  · have headsOf := headsOf_clientHeads s.data.requestQueue
    have inOrder := orders _ served.wait
    have nonempty : clients.Nonempty := by
      obtain ⟨f, queued⟩ := List.exists_mem_of_ne_nil _ some_
      exact ⟨f.clientEndpointId, (served.wait _).mpr ⟨f, queued, rfl⟩⟩
    subst inOrder
    have chooses := chooses_richest nonempty listed
    obtain ⟨position, frame, finds, client, owes⟩ := selectByWeight_turn s.data headsOf
      listed (fun head among => by
        rw [weights _ (headsOf.queued head among), headsOf.keyed head among]) shared.owes chooses
    obtain ⟨dequeued, same⟩ := takes position frame _ (by
      rw [selectRequest_weighted shared.noDeadline shared.weighted, finds])
    have grown : (s.after gidSize (.takes clocks deserializes)).clients =
        s.clients ++ [frame.clientEndpointId] := by
      rw [after, dequeued]
      exact List.map_append
    have longer : (s.after gidSize (.takes clocks deserializes)).clients.length =
        s.clients.length + 1 := by
      rw [grown, List.length_append]
      rfl
    constructor
    · exact (congrArg Scheduling.deadline same).trans shared.noDeadline
    · exact (congrArg Scheduling.weighted same).trans shared.weighted
    · rw [longer, grown, picks_succ, ← shared.picked, client]
      rfl
    · rw [longer, credits, show (s.after gidSize (.takes clocks deserializes)).data.scheduling.credits
        = _ from congrArg Scheduling.credits same]
      exact owes

theorem Shared.step (listed : order.toFinset = clients)
    (orders : ∀ queue, Wait clients queue → headClients (clientHeads queue) = order)
    (shared : Shared clients weight order s) (steady : SteadyWeights clients weight s e)
    (h : step gidSize s e = some s') : Shared clients weight order s' := by
  obtain rfl := Option.some.inj h
  cases e with
  | arrives frame arrival =>
      exact shared.of_scheduling (scheduling_handleServiceFrame frame arrival) rfl
  | responds call => exact shared.of_scheduling (scheduling_rmwSendResponse call) rfl
  | takes clocks deserializes => exact shared.take listed orders steady

/-- Among clients that always wait each gets its weight in any turns one after the other, as many
    as all weights together, and after whole rounds of them nobody has credit. -/
theorem dequeued_by_weight (gidSize : Nat) (data : FleetQoxServiceData) (clients : Finset Bytes)
    (weight : Bytes → Int) {events : List ServiceEvent}
    (noDeadline : data.deadlineServiceScheduler = false)
    (weighted : data.weightedServiceScheduler = true) (empty : data.weightedServiceCurrent = [])
    (positive : ∀ c ∈ clients, 1 ≤ weight c)
    (steady : RunMeets (step gidSize) (SteadyWeights clients weight) ⟨data, []⟩ events)
    (h : run (step gidSize) ⟨data, []⟩ events = some s) :
    (∀ i, i + period clients weight ≤ s.clients.length → ∀ c ∈ clients,
      (((s.clients.drop i).take (period clients weight)).countP (· = c) : Int) = weight c) ∧
    (period clients weight ∣ s.clients.length → ∀ e ∈ s.data.weightedServiceCurrent, e.2 = 0) := by
  obtain ⟨order, ascending, listed, orders⟩ := exists_order clients
  have start : Shared clients weight order ⟨data, []⟩ := by
    refine ⟨noDeadline, weighted, rfl, ?_⟩
    change Owes clients data.weightedServiceCurrent _
    rw [empty]
    exact ⟨fun _ _ => rfl, fun _ among => absurd among List.not_mem_nil, List.nodup_nil⟩
  have shared : Shared clients weight order s :=
    run_invariant (fun shared steady h => shared.step listed orders steady h) start steady h
  rcases clients.eq_empty_or_nonempty with rfl | nonempty
  · refine ⟨fun _ _ c among => absurd among (Finset.notMem_empty c), fun _ e among => ?_⟩
    exact absurd (shared.owes.isClient e among) (Finset.notMem_empty e.1)
  · have chooses := chooses_richest nonempty listed
    constructor
    · intro i fits c among
      have window := count_picks_window chooses positive i among
      rw [← picks_take fits, ← picks_take (Nat.le_of_add_right_le fits), ← shared.picked,
        List.take_add, List.countP_append] at window
      omega
    · rintro ⟨k, whole⟩ e among
      rw [shared.owes.entry among, whole, Nat.mul_comm]
      exact credits_periods chooses positive k (shared.owes.isClient e among)

/-! ### Two clients -/

def weighing : TurnRun :=
  ⟨allocateServiceData (octets "add") (octets "AddTwoInts") 0 (octets "s") 10 {}
    { weighted := true }, []⟩

/-- Two requests of each of the clients `a` and `b`. -/
def twoOfEach (weightOfA : UInt64) : List ServiceEvent :=
  [.arrives { requestFrom (octets "a") 1 with clientWeight := weightOfA } {},
    .arrives { requestFrom (octets "a") 2 with clientWeight := weightOfA } {},
    .arrives (requestFrom (octets "b") 1) {}, .arrives (requestFrom (octets "b") 2) {}]

def aAndB : Finset Bytes := {octets "a", octets "b"}

/-- The state after the requests have arrived. -/
def bothWait (weightOfA : UInt64) : TurnRun :=
  (twoOfEach weightOfA).foldl (after 16) weighing

theorem steady_of_decided {clocks : TurnClocks} {deserializes : Bool}
    (all : aAndB = (s.data.requestQueue.map (·.clientEndpointId)).toFinset ∧
      ∀ f ∈ s.data.requestQueue, f.lifespanNs ≤ 0 ∧ headWeight f = weight f.clientEndpointId) :
    SteadyWeights aAndB weight s (.takes clocks deserializes) :=
  ⟨⟨wait_iff.mpr all.1, fun f queued _ => fresh_of_endless (all.2 f queued).1⟩,
    fun f queued => (all.2 f queued).2⟩

def weightOf (weightOfA : Int) (client : Bytes) : Int :=
  if client = octets "a" then weightOfA else 1

theorem steady_threeTakes (weightOfA : UInt64) (small : weightOfA = 1 ∨ weightOfA = 2)
    (first : Bool) : RunMeets (step 16) (SteadyWeights aAndB (weightOf weightOfA.toNat))
      (bothWait weightOfA) [.takes {} first, .takes {} true, .takes {} true] := by
  rcases small with rfl | rfl <;> cases first <;>
  · apply RunMeets.of_step (steady_of_decided (by decide)) rfl
    apply RunMeets.of_step (steady_of_decided (by decide)) rfl
    apply RunMeets.of_step (steady_of_decided (by decide)) rfl
    trivial

theorem dequeued_by_weight_twoToOne : ∃ s,
    run (step 16) (bothWait 2) [.takes {} true, .takes {} true, .takes {} true] = some s ∧
      s.clients.countP (· = octets "a") = 2 ∧ s.clients.countP (· = octets "b") = 1 ∧
      ∀ e ∈ s.data.weightedServiceCurrent, e.2 = 0 := by
  have shares := dequeued_by_weight 16 (bothWait 2).data aAndB (weightOf 2) rfl rfl rfl (by decide)
    (steady_threeTakes 2 (.inr rfl) true) rfl
  refine ⟨_, rfl, ?_, ?_, shares.2 (by decide)⟩
  · exact Int.ofNat.inj (shares.1 0 (by decide) (octets "a") (by decide))
  · exact Int.ofNat.inj (shares.1 0 (by decide) (octets "b") (by decide))

/-- A take that cannot read its request is a turn of its client. The two takes that succeed after
    it serve both clients once and leave credits. -/
theorem unread_request_is_a_turn : ∃ s,
    RunMeets (step 16) (SteadyWeights aAndB (weightOf 1)) (bothWait 1)
      [.takes {} false, .takes {} true, .takes {} true] ∧
    run (step 16) (bothWait 1) [.takes {} false, .takes {} true, .takes {} true] = some s ∧
    s.clients = [octets "a", octets "b", octets "a"] ∧
    ¬∀ e ∈ s.data.weightedServiceCurrent, e.2 = 0 := by
  refine ⟨_, steady_threeTakes 1 (.inl rfl) false, rfl, by decide, by decide⟩

end TurnRun

end FleetRMW.Rmw
