import FleetRMW.Lib.Index
import FleetRMW.Lib.Run
import FleetRMW.Rmw.Graph

/-! # What the graph counts

The endpoints that live are those last registered or advertised and since then neither removed
nor expired. The graph's tables of topics, services and nodes are indexes of them.
-/

namespace FleetRMW.Rmw

open Lib

/-! ## The live endpoints -/

/-- What an endpoint adds to the record of its name. -/
structure Listing where
  domainId : UInt64
  name : Bytes
  typeName : Bytes
  offers : Bool
  deriving Repr, DecidableEq

def Listing.key (x : Listing) : GraphNameKey := ⟨x.domainId, x.name⟩

/-- By which an advertised endpoint is told from the others of its side. -/
structure RemoteIdentity where
  domainId : UInt64
  offers : Bool
  endpointId : Bytes
  deriving Repr, DecidableEq

namespace Endpoint

variable {I : Type}

def listing (e : Endpoint I) : Listing := ⟨e.domainId, e.name, e.typeName, e.offers⟩

def identity (e : Endpoint I) : RemoteIdentity := ⟨e.domainId, e.offers, e.endpointId⟩

/-- The node that the endpoint names. -/
def named? (e : Endpoint I) : Option NodeKey := if e.nodeName ≠ [] then some e.nodeKey else none

end Endpoint

/-- The live endpoints of topics or of services. -/
structure LiveSide (L R : Type) where
  locals : List (Endpoint L) := []
  remotes : List (RemoteEndpoint R) := []
  deriving Repr, DecidableEq

namespace LiveSide

variable {L R : Type}

def listings (live : LiveSide L R) : List Listing :=
  live.locals.map Endpoint.listing ++ live.remotes.map (·.listing)

/-- The nodes that the advertised endpoints name. -/
def named (live : LiveSide L R) : List NodeKey := live.remotes.filterMap (·.named?)

def unregister (live : LiveSide L R) (offers : Bool) (endpointId : Bytes) : LiveSide L R :=
  { live with
    locals := live.locals.filter fun e => ¬(e.offers = offers ∧ e.endpointId = endpointId) }

def register (live : LiveSide L R) (e : Endpoint L) : LiveSide L R :=
  { live with locals := e :: (live.unregister e.offers e.endpointId).locals }

def withdraw (live : LiveSide L R) (identity : RemoteIdentity) : LiveSide L R :=
  { live with remotes := live.remotes.filter fun e => e.identity ≠ identity }

def advertise (live : LiveSide L R) (e : RemoteEndpoint R) : LiveSide L R :=
  { live with remotes := e :: (live.withdraw e.identity).remotes }

def expire (live : LiveSide L R) (now : Int) : LiveSide L R :=
  { live with remotes := live.remotes.filter fun e => ¬e.expiresAt ≤ now }

end LiveSide

structure LiveGraph where
  registered : List NodeKey := []
  topics : LiveSide LocalTopicInfo TopicInfo := {}
  services : LiveSide RmwQosProfile RmwQosProfile := {}
  deriving Repr, DecidableEq

/-- The nodes that advertised endpoints name. -/
def LiveGraph.named (l : LiveGraph) : List NodeKey := l.topics.named ++ l.services.named

/-! ## Runs -/

inductive GraphEvent where
  | registerNode (name namespace_ : Option Bytes) (domainId : UInt64)
  | unregisterNode (name namespace_ : Option Bytes) (domainId : UInt64)
  | registerPublisherEndpoint (a : LocalArguments LocalTopicInfo)
  | registerSubscriptionEndpoint (a : LocalArguments LocalTopicInfo)
  | registerServiceEndpoint (a : LocalArguments RmwQosProfile)
  | registerClientEndpoint (a : LocalArguments RmwQosProfile)
  | unregisterPublisherEndpoint (endpointId : Option Bytes)
  | unregisterSubscriptionEndpoint (endpointId : Option Bytes)
  | unregisterServiceEndpoint (endpointId : Option Bytes)
  | unregisterClientEndpoint (endpointId : Option Bytes)
  | applyRemoteAdvertisement (a : RemoteArguments) (now renewedAt : Int)
  | purgeExpired (now : Int)
  deriving Repr, DecidableEq

def Graph.step (g : Graph) : GraphEvent → Graph
  | .registerNode name namespace_ domainId => g.registerNode name namespace_ domainId
  | .unregisterNode name namespace_ domainId => g.unregisterNode name namespace_ domainId
  | .registerPublisherEndpoint a => g.registerPublisherEndpoint a
  | .registerSubscriptionEndpoint a => g.registerSubscriptionEndpoint a
  | .registerServiceEndpoint a => g.registerServiceEndpoint a
  | .registerClientEndpoint a => g.registerClientEndpoint a
  | .unregisterPublisherEndpoint id => g.unregisterPublisherEndpoint id
  | .unregisterSubscriptionEndpoint id => g.unregisterSubscriptionEndpoint id
  | .unregisterServiceEndpoint id => g.unregisterServiceEndpoint id
  | .unregisterClientEndpoint id => g.unregisterClientEndpoint id
  | .applyRemoteAdvertisement a now renewedAt => g.applyRemoteAdvertisement a now renewedAt
  | .purgeExpired now => g.purgeExpired now

namespace LiveGraph

def expire (l : LiveGraph) (now : Int) : LiveGraph :=
  { l with topics := l.topics.expire now, services := l.services.expire now }

def registerTopic (l : LiveGraph) (offers : Bool) (a : LocalArguments LocalTopicInfo) :
    LiveGraph :=
  match a.endpoint? offers with
  | none => l
  | some e => { l with topics := l.topics.register e }

def registerService (l : LiveGraph) (offers : Bool) (a : LocalArguments RmwQosProfile) :
    LiveGraph :=
  match a.endpoint? offers with
  | none => l
  | some e => { l with services := l.services.register e }

def unregisterTopic (l : LiveGraph) (offers : Bool) : Option Bytes → LiveGraph
  | none => l
  | some id => { l with topics := l.topics.unregister offers id }

def unregisterService (l : LiveGraph) (offers : Bool) : Option Bytes → LiveGraph
  | none => l
  | some id => { l with services := l.services.unregister offers id }

def entityKinds : List Bytes :=
  [octets "publisher", octets "subscription", octets "service", octets "client"]

/-- An advertisement that says to add or to remove an endpoint of a kind there is. -/
def advertised (l : LiveGraph) (a : RemoteArguments) (now renewedAt : Int) : LiveGraph :=
  match a.action, a.entityKind, a.topicName, a.typeName, a.endpointId with
  | some action, some kind, some name, some typeName, some endpointId =>
      let endpoint {I : Type} (offers : Bool) (info : I) : RemoteEndpoint I := {
        offers
        domainId := a.domainId
        nodeName := a.nodeName.getD []
        nodeNamespace := a.nodeNamespace.getD []
        name, typeName, endpointId, info
        expiresAt := renewedAt + Graph.leaseDuration a.leaseMs }
      let apply {L R : Type} (live : LiveSide L R) (e : RemoteEndpoint R) : LiveSide L R :=
        if action = octets "add" then live.advertise e else live.withdraw e.identity
      let l' := l.expire now
      if ¬((action = octets "add" ∨ action = octets "remove") ∧ kind ∈ entityKinds) then l
      else if kind = octets "service" ∨ kind = octets "client" then
        let e := endpoint (kind = octets "service") (a.qos.getD {})
        { l' with services := apply l'.services e }
      else
        let e := endpoint (kind = octets "publisher") ⟨a.endpointGid, a.qos.getD {}⟩
        { l' with topics := apply l'.topics e }
  | _, _, _, _, _ => l

def step (l : LiveGraph) : GraphEvent → LiveGraph
  | .registerNode (some name) (some namespace_) domainId =>
      { l with registered := ⟨domainId, name, namespace_⟩ :: l.registered }
  | .unregisterNode (some name) (some namespace_) domainId =>
      { l with registered := l.registered.erase ⟨domainId, name, namespace_⟩ }
  | .registerNode _ _ _ | .unregisterNode _ _ _ => l
  | .registerPublisherEndpoint a => l.registerTopic true a
  | .registerSubscriptionEndpoint a => l.registerTopic false a
  | .registerServiceEndpoint a => l.registerService true a
  | .registerClientEndpoint a => l.registerService false a
  | .unregisterPublisherEndpoint id => l.unregisterTopic true id
  | .unregisterSubscriptionEndpoint id => l.unregisterTopic false id
  | .unregisterServiceEndpoint id => l.unregisterService true id
  | .unregisterClientEndpoint id => l.unregisterService false id
  | .applyRemoteAdvertisement a now renewedAt => l.advertised a now renewedAt
  | .purgeExpired now => l.expire now

end LiveGraph

/-- A graph and the endpoints that live. -/
structure GraphRun where
  graph : Graph := {}
  live : LiveGraph := {}
  deriving Repr, DecidableEq

def GraphRun.step (r : GraphRun) (e : GraphEvent) : Option GraphRun :=
  some { graph := r.graph.step e, live := r.live.step e }

/-! ## What is to hold -/

/-- A record for each name that a live endpoint has, with the numbers of the endpoints, and each
    advertised endpoint recorded once. -/
structure GraphSide.Exact {L R : Type} (side : GraphSide L R) (live : LiveSide L R) : Prop where
  present : ∀ k, (side.records.get? k).isSome ↔ ∃ x ∈ live.listings, x.key = k
  offered : ∀ k record, side.records.get? k = some record →
    record.offeredCount = live.listings.countP fun x => x.key = k ∧ x.offers
  used : ∀ k record, side.records.get? k = some record →
    record.usedCount = live.listings.countP fun x => x.key = k ∧ !x.offers
  typeCounts : ∀ k record t, side.records.get? k = some record →
    record.typeCounts.get? t =
      let n := live.listings.countP fun x => x.key = k ∧ x.typeName = t
      if n = 0 then none else some n
  locals : (side.locals.map Prod.snd).Perm live.locals
  remotes : (side.remotes.map Prod.snd).Perm live.remotes
  single : (side.remotes.map fun entry => entry.2.identity).Nodup

structure Graph.Exact (g : Graph) (l : LiveGraph) : Prop where
  topics : g.topics.Exact l.topics
  services : g.services.Exact l.services
  nodes : ∀ k : NodeKey, g.nodes.get? k =
    let n := l.registered.count k + l.named.count k
    if n = 0 then none else some { k with count := n }

/-! ## Records sum up endpoints -/

/-- The record has the numbers of a group of endpoints, and their types. -/
structure Sums (group : Multiset Listing) (record : GraphRecord) : Prop where
  offered : record.offeredCount = group.countP (·.offers = true)
  used : record.usedCount = group.countP (¬·.offers = true)
  typeCounts : Tallies (fun _ n => n) record.typeCounts (group.map Listing.typeName)
  types : ∀ t, t ∈ record.types ↔ t ∈ group.map Listing.typeName

namespace GraphRecord

@[simp] theorem dropType_offeredCount (record : GraphRecord) (typeName : Bytes) :
    (record.dropType typeName).offeredCount = record.offeredCount := by
  unfold dropType
  split
  · rfl
  · split <;> rfl

@[simp] theorem dropType_usedCount (record : GraphRecord) (typeName : Bytes) :
    (record.dropType typeName).usedCount = record.usedCount := by
  unfold dropType
  split
  · rfl
  · split <;> rfl

@[simp] theorem dropType_name (record : GraphRecord) (typeName : Bytes) :
    (record.dropType typeName).name = record.name := by
  unfold dropType
  split
  · rfl
  · split <;> rfl

@[simp] theorem dropRole_name (record : GraphRecord) (offers : Bool) :
    (record.dropRole offers).name = record.name := by
  unfold dropRole
  split
  · rfl
  · split <;> rfl

theorem dropRole_types (record : GraphRecord) (offers : Bool) :
    (record.dropRole offers).types = record.types ∧
      (record.dropRole offers).typeCounts = record.typeCounts := by
  unfold dropRole
  split
  · exact ⟨rfl, rfl⟩
  · split <;> exact ⟨rfl, rfl⟩

end GraphRecord

namespace Sums

variable {group : Multiset Listing} {record : GraphRecord} {x : Listing}

theorem empty : Sums 0 {} where
  offered := rfl
  used := rfl
  typeCounts := .nil
  types _ := by simp only [List.not_mem_nil, Multiset.map_zero, Multiset.notMem_zero]

/-- Each endpoint is counted as one that offers or as one that uses. -/
theorem count_eq_card (sums : Sums group record) :
    record.offeredCount + record.usedCount = group.card := by
  rw [sums.offered, sums.used]
  exact (Multiset.card_eq_countP_add_countP (fun x : Listing => x.offers = true) group).symm

theorem add (sums : Sums group record) (name : Bytes) :
    Sums (x ::ₘ group) {
      name
      types := if x.typeName ∈ record.types then record.types else record.types ++ [x.typeName]
      typeCounts := record.typeCounts.set x.typeName
        ((record.typeCounts.get? x.typeName).getD 0 + 1)
      offeredCount := if x.offers then record.offeredCount + 1 else record.offeredCount
      usedCount := if x.offers then record.usedCount else record.usedCount + 1 } where
  offered := by
    rw [Multiset.countP_cons, ← sums.offered]
    cases x.offers <;> rfl
  used := by
    rw [Multiset.countP_cons, ← sums.used]
    cases x.offers <;> rfl
  typeCounts := by
    have known : (record.typeCounts.get? x.typeName).getD 0 =
        (group.map Listing.typeName).count x.typeName := by
      rw [sums.typeCounts.get?_eq]
      split
      case isTrue absent => exact absent.symm
      case isFalse => rfl
    rw [Multiset.map_cons, known]
    exact sums.typeCounts.set_of_add
  types t := by
    rw [Multiset.map_cons, Multiset.mem_cons, ← sums.types]
    split
    case isTrue known =>
      constructor
      · exact .inr
      · intro among
        cases among with
        | inl new => exact new ▸ known
        | inr old => exact old
    case isFalse =>
      rw [List.mem_append, List.mem_singleton, or_comm]

/-- What `dropRole` leaves is the number of the endpoints that are left. -/
theorem dropRole (sums : Sums (x ::ₘ group) record) :
    (record.dropRole x.offers).offeredCount = group.countP (·.offers = true) ∧
      (record.dropRole x.offers).usedCount = group.countP (¬·.offers = true) := by
  have offered := sums.offered
  have used := sums.used
  rw [Multiset.countP_cons] at offered used
  unfold GraphRecord.dropRole
  cases role : x.offers with
  | true =>
      simp only [role, if_true, not_true_eq_false, if_false, add_zero] at offered used
      rw [if_pos ⟨rfl, by omega⟩]
      exact ⟨by dsimp only; omega, used⟩
  | false =>
      simp only [role, Bool.false_eq_true, not_false_eq_true, if_true, if_false, add_zero]
        at offered used
      rw [if_neg (fun both => absurd both.1 Bool.false_ne_true), if_pos ⟨rfl, by omega⟩]
      exact ⟨offered, by dsimp only; omega⟩

theorem remove (sums : Sums (x ::ₘ group) record) :
    Sums group ((record.dropRole x.offers).dropType x.typeName) := by
  obtain ⟨offered, used⟩ := sums.dropRole
  obtain ⟨sameTypes, sameCounts⟩ := record.dropRole_types x.offers
  have tallies := sums.typeCounts
  have types := sums.types
  rw [← sameCounts, Multiset.map_cons] at tallies
  simp only [← sameTypes, Multiset.map_cons, Multiset.mem_cons] at types
  have there := tallies.get?_eq (k := x.typeName)
  rw [Multiset.count_cons_self, if_neg (Nat.succ_ne_zero _)] at there
  constructor
  · rw [GraphRecord.dropType_offeredCount, offered]
  · rw [GraphRecord.dropType_usedCount, used]
  · unfold GraphRecord.dropType
    rw [there]
    dsimp only
    split
    case isTrue more =>
      exact tallies.set_of_remove (by omega)
    case isFalse last =>
      exact tallies.erase_of_remove (by omega)
  · intro t
    unfold GraphRecord.dropType
    rw [there]
    dsimp only
    split
    case isTrue more =>
      have still : x.typeName ∈ group.map Listing.typeName := Multiset.count_pos.mp (by omega)
      rw [types t]
      constructor
      · intro among
        cases among with
        | inl same => exact same ▸ still
        | inr left => exact left
      · exact .inr
    case isFalse last =>
      have gone : x.typeName ∉ group.map Listing.typeName := by
        rw [← Multiset.count_pos]
        omega
      simp only [List.mem_filter, types t, ne_eq, decide_not, Bool.not_eq_true',
        decide_eq_false_iff_not]
      constructor
      · intro among
        exact among.1.resolve_left among.2
      · intro left
        exact ⟨.inr left, fun same => gone (same ▸ left)⟩

end Sums

/-! ## Adding and removing -/

/-- The record of a name. -/
def RecordOf (k : GraphNameKey) (group : Multiset Listing) (record : GraphRecord) : Prop :=
  record.name = k.name ∧ Sums group record

abbrev RecordsOf (records : Dict GraphNameKey GraphRecord) (items : Multiset Listing) : Prop :=
  Indexes RecordOf Listing.key records items

namespace RecordsOf

variable {records : Dict GraphNameKey GraphRecord} {items : Multiset Listing} {x : Listing}

theorem add (h : RecordsOf records items) :
    RecordsOf (addEndpoint records x.domainId x.name x.typeName x.offers) (x ::ₘ items) := by
  apply Indexes.set_of_add h
  refine ⟨rfl, Sums.add ?_ x.name⟩
  have covers := h x.key
  change Sums _ ((records.get? x.key).getD {})
  cases there : records.get? x.key with
  | none =>
      rw [there] at covers
      rw [show itemsOf Listing.key items x.key = 0 from covers]
      exact .empty
  | some record =>
      rw [there] at covers
      exact covers.2.2

theorem remove (h : RecordsOf records (x ::ₘ items)) :
    RecordsOf (removeEndpoint records x.domainId x.name x.typeName x.offers) items := by
  obtain ⟨record, there, name, sums⟩ := h.found
  have left := sums.remove
  have number := left.count_eq_card
  unfold removeEndpoint
  change records.get? ⟨x.domainId, x.name⟩ = some record at there
  rw [there]
  dsimp only
  split
  case isTrue none_left =>
    apply Indexes.erase_of_remove h
    apply Multiset.card_eq_zero.mp
    omega
  case isFalse some_left =>
    apply Indexes.set_of_remove h
    · intro empty
      rw [empty, Multiset.card_zero] at number
      omega
    · refine ⟨?_, left⟩
      rw [GraphRecord.dropType_name, GraphRecord.dropRole_name, name]

end RecordsOf

/-- The record of a node that is counted `n` times. -/
def nodeRecord (k : NodeKey) (n : Nat) : NodeRecord := { k with count := n }

abbrev NodesOf : Dict NodeKey NodeRecord → Multiset NodeKey → Prop := Tallies nodeRecord

namespace NodesOf

variable {nodes : Dict NodeKey NodeRecord} {keys : Multiset NodeKey} {k : NodeKey}

theorem count (h : NodesOf nodes keys) : NodesOf (countNode nodes k) (k ::ₘ keys) := by
  have known : ((nodes.get? k).getD {}).count = keys.count k := by
    rw [h.get?_eq]
    split
    case isTrue absent => exact absent.symm
    case isFalse => rfl
  unfold countNode
  dsimp only
  rw [known]
  exact h.set_of_add

theorem discount (h : NodesOf nodes (k ::ₘ keys)) : NodesOf (discountNode nodes k) keys := by
  have there := h.get?_eq (k := k)
  rw [Multiset.count_cons_self, if_neg (Nat.succ_ne_zero _)] at there
  unfold discountNode
  rw [there]
  dsimp only [nodeRecord]
  split
  case isTrue more => exact h.set_of_remove (by omega)
  case isFalse last => exact h.erase_of_remove (by omega)

/-- A node that nothing counts stays uncounted. -/
theorem discount_of_absent (h : NodesOf nodes keys) (absent : k ∉ keys) :
    discountNode nodes k = nodes := by
  unfold discountNode
  rw [h.get?_eq, if_pos (Multiset.count_eq_zero.mpr absent)]

end NodesOf

/-! ## Sides -/

/-- How the keys of the tables of a side are made: apart for apart endpoints. -/
structure Keying where
  localKey : Bool → Bytes → Bytes
  kind : Bool → Bytes
  localKey_inj : ∀ {o id o' id'}, localKey o id = localKey o' id' → o = o' ∧ id = id'
  kind_inj : ∀ {o o'}, kind o = kind o' → o = o'

/-- The key of an advertised endpoint of a kind. -/
def Endpoint.key {I : Type} (e : Endpoint I) (entityKind : Bytes) : RemoteGraphKey :=
  { domainId := e.domainId
    endpointId := e.endpointId
    entityKind
    topicName := e.name
    typeName := e.typeName
    nodeName := e.nodeName
    nodeNamespace := e.nodeNamespace }

/-- The tables of a side hold the live endpoints under their keys, and its records count them. -/
structure Tracks {L R : Type} (keying : Keying) (side : GraphSide L R) (live : LiveSide L R) :
    Prop where
  localKeys : ∀ entry ∈ side.locals, entry.1 = keying.localKey entry.2.offers entry.2.endpointId
  remoteKeys : ∀ entry ∈ side.remotes, entry.1 = entry.2.key (keying.kind entry.2.offers)
  localDistinct : (side.locals.map Prod.fst).Nodup
  remoteDistinct : (side.remotes.map fun entry => entry.2.identity).Nodup
  locals : (side.locals.map Prod.snd).Perm live.locals
  remotes : (side.remotes.map Prod.snd).Perm live.remotes
  records : RecordsOf side.records ↑live.listings

section
variable {L R : Type} {keying : Keying} {side : GraphSide L R} {live live' : LiveSide L R}

theorem LiveSide.listings_congr (live live' : LiveSide L R) (locals : live.locals.Perm live'.locals)
    (remotes : live.remotes.Perm live'.remotes) :
    (↑live.listings : Multiset Listing) = ↑live'.listings :=
  Multiset.coe_eq_coe.mpr ((locals.map _).append (remotes.map _))

namespace Tracks

theorem erased (tracks : Tracks keying side live) (offers : Bool) (id : Bytes) :
    ((side.locals.erase (keying.localKey offers id)).map Prod.snd).Perm
      (live.unregister offers id).locals := by
  have same : (side.locals.erase (keying.localKey offers id)).map Prod.snd =
      (side.locals.map Prod.snd).filter
        fun e => ¬(e.offers = offers ∧ e.endpointId = id) := by
    unfold Dict.erase
    rw [List.filter_map]
    congr 1
    apply List.filter_congr
    intro entry among
    have isKey := tracks.localKeys entry among
    simp only [Function.comp_apply, ne_eq, decide_eq_decide, isKey]
    constructor
    · intro other match_
      exact other (match_.1 ▸ match_.2 ▸ rfl)
    · intro other isKey
      exact other (keying.localKey_inj isKey)
  rw [same]
  exact tracks.locals.filter _

theorem unregister (tracks : Tracks keying side live) (offers : Bool) (id : Bytes) :
    Tracks keying (side.removeLocal (keying.localKey offers id)) (live.unregister offers id) ∧
      (side.removeLocal (keying.localKey offers id)).locals.get? (keying.localKey offers id) =
        none := by
  have erased := tracks.erased offers id
  unfold GraphSide.removeLocal
  cases there : side.locals.get? (keying.localKey offers id) with
  | none =>
      dsimp only
      rw [Dict.erase_of_get?_eq_none there] at erased
      refine ⟨{ tracks with locals := erased, records := ?_ }, there⟩
      rw [← LiveSide.listings_congr live _ (tracks.locals.symm.trans erased) (.refl _)]
      exact tracks.records
  | some e =>
      dsimp only
      refine ⟨{
        localKeys := fun entry among => tracks.localKeys entry (Dict.mem_of_mem_erase among)
        remoteKeys := tracks.remoteKeys
        localDistinct := tracks.localDistinct.sublist (List.filter_sublist.map _)
        remoteDistinct := tracks.remoteDistinct
        locals := erased
        remotes := tracks.remotes
        records := ?_ }, ?_⟩
      · apply RecordsOf.remove (x := e.listing)
        have split := (Dict.perm_cons_erase tracks.localDistinct there).map Prod.snd
        have whole := tracks.locals.symm.trans (split.trans (erased.cons _))
        have counted := tracks.records
        rw [LiveSide.listings_congr live { live with
          locals := e :: (live.unregister offers id).locals } whole (.refl _)] at counted
        exact counted
      · rw [Dict.get?_erase, if_pos rfl]

theorem register (tracks : Tracks keying side live) (e : Endpoint L) :
    Tracks keying (side.addLocal (keying.localKey e.offers e.endpointId) e) (live.register e) := by
  obtain ⟨removed, absent⟩ := tracks.unregister e.offers e.endpointId
  unfold GraphSide.addLocal
  dsimp only
  generalize side.removeLocal (keying.localKey e.offers e.endpointId) = side at removed absent
  have new := Dict.set_of_absent (v := e) absent
  exact {
    localKeys := by
      intro entry among
      cases Dict.mem_set among with
      | inl isNew => exact isNew ▸ rfl
      | inr old => exact removed.localKeys entry old
    remoteKeys := removed.remoteKeys
    localDistinct := Dict.nodup_keys_set removed.localDistinct
    remoteDistinct := removed.remoteDistinct
    locals := by
      rw [new, List.map_append]
      exact List.perm_append_comm.trans (removed.locals.cons _)
    remotes := removed.remotes
    records := RecordsOf.add (x := e.listing) removed.records }

end Tracks

/-- What a loop that removes advertised endpoints leaves of the nodes and of the records, where
    `others` and `items` are counted besides the endpoints it runs over. -/
theorem removeRemotes_counts (gone : RemoteEndpoint R → Bool)
    {remotes : Dict RemoteGraphKey (RemoteEndpoint R)} {nodes : Dict NodeKey NodeRecord}
    {records : Dict GraphNameKey GraphRecord} {others : Multiset NodeKey}
    {items : Multiset Listing}
    (nodesOf : NodesOf nodes (others + ↑(remotes.filterMap (·.2.named?))))
    (recordsOf : RecordsOf records (items + ↑(remotes.map (·.2.listing)))) :
    let counted := remotes.foldl (fun counted entry =>
      if gone entry.2 then removeRemoteEndpoint counted entry.2 else counted) (nodes, records)
    let left := remotes.filter fun entry => !gone entry.2
    NodesOf counted.1 (others + ↑(left.filterMap (·.2.named?))) ∧
      RecordsOf counted.2 (items + ↑(left.map (·.2.listing))) := by
  induction remotes generalizing nodes records others items with
  | nil => exact ⟨nodesOf, recordsOf⟩
  | cons entry rest ih =>
      rw [List.map_cons, ← Multiset.cons_coe, Multiset.add_cons] at recordsOf
      dsimp only
      rw [List.foldl_cons]
      cases isGone : gone entry.2 with
      | true =>
          rw [if_pos rfl, List.filter_cons_of_neg (by simp only [isGone, Bool.not_true,
            Bool.false_eq_true, not_false_eq_true])]
          refine ih ?_ recordsOf.remove
          dsimp only
          split
          case isTrue named =>
            have named : entry.2.named? = some entry.2.nodeKey := if_pos named
            simp only [List.filterMap_cons, named] at nodesOf
            rw [← Multiset.cons_coe, Multiset.add_cons] at nodesOf
            exact nodesOf.discount
          case isFalse nameless =>
            have nameless : entry.2.named? = none := if_neg nameless
            simp only [List.filterMap_cons, nameless] at nodesOf
            exact nodesOf
      | false =>
          rw [if_neg Bool.false_ne_true, List.filter_cons_of_pos (by simp only [isGone,
            Bool.not_false])]
          rw [← Multiset.cons_add] at recordsOf
          rw [List.map_cons, ← Multiset.cons_coe, Multiset.add_cons, ← Multiset.cons_add]
          cases named : entry.2.named? with
          | none =>
              simp only [List.filterMap_cons, named] at nodesOf ⊢
              exact ih nodesOf recordsOf
          | some k =>
              simp only [List.filterMap_cons, named] at nodesOf ⊢
              rw [← Multiset.cons_coe, Multiset.add_cons, ← Multiset.cons_add] at nodesOf ⊢
              exact ih nodesOf recordsOf

theorem LiveSide.named_congr (live live' : LiveSide L R) (remotes : live.remotes.Perm live'.remotes) :
    (↑live.named : Multiset NodeKey) = ↑live'.named :=
  Multiset.coe_eq_coe.mpr (remotes.filterMap _)

namespace Tracks

variable {nodes : Dict NodeKey NodeRecord} {others : Multiset NodeKey}

theorem removeRemotes (tracks : Tracks keying side live) (nodesOf : NodesOf nodes (others + ↑live.named))
    (gone : RemoteEndpoint R → Bool) :
    let live' : LiveSide L R := { live with remotes := live.remotes.filter fun e => !gone e }
    Tracks keying (side.removeRemotes nodes gone).2 live' ∧
      NodesOf (side.removeRemotes nodes gone).1 (others + ↑live'.named) := by
  intro live'
  have leftPerm : ((side.remotes.filter fun entry => !gone entry.2).map Prod.snd).Perm
      live'.remotes := by
    have filtered := tracks.remotes.filter fun e => !gone e
    rw [List.filter_map] at filtered
    exact filtered
  have nodesNow : NodesOf nodes (others + ↑(side.remotes.filterMap (·.2.named?))) := by
    unfold LiveSide.named at nodesOf
    rw [← Multiset.coe_eq_coe.mpr (tracks.remotes.filterMap _), List.filterMap_map] at nodesOf
    exact nodesOf
  have recordsNow : RecordsOf side.records
      (↑(live.locals.map Endpoint.listing) + ↑(side.remotes.map (·.2.listing))) := by
    have records := tracks.records
    unfold LiveSide.listings at records
    rw [← Multiset.coe_add, ← Multiset.coe_eq_coe.mpr (tracks.remotes.map _), List.map_map]
      at records
    exact records
  obtain ⟨nodesLeft, recordsLeft⟩ := removeRemotes_counts gone nodesNow recordsNow
  constructor
  · exact {
      localKeys := tracks.localKeys
      remoteKeys := fun entry among => tracks.remoteKeys entry (List.mem_of_mem_filter among)
      localDistinct := tracks.localDistinct
      remoteDistinct := tracks.remoteDistinct.sublist (List.filter_sublist.map _)
      locals := tracks.locals
      remotes := leftPerm
      records := by
        unfold LiveSide.listings
        rw [← Multiset.coe_add, ← Multiset.coe_eq_coe.mpr (leftPerm.map _), List.map_map]
        exact recordsLeft }
  · unfold LiveSide.named
    rw [← Multiset.coe_eq_coe.mpr (leftPerm.filterMap _), List.filterMap_map]
    exact nodesLeft

theorem expire (tracks : Tracks keying side live) (nodesOf : NodesOf nodes (others + ↑live.named))
    (now : Int) :
    Tracks keying (side.removeRemotes nodes fun e => e.expiresAt ≤ now).2 (live.expire now) ∧
      NodesOf (side.removeRemotes nodes fun e => e.expiresAt ≤ now).1
        (others + ↑(live.expire now).named) := by
  have left := tracks.removeRemotes nodesOf fun e => e.expiresAt ≤ now
  simp only [← decide_not] at left
  exact left

/-- The question of the loops behind the purge. -/
theorem withdraw (tracks : Tracks keying side live) (nodesOf : NodesOf nodes (others + ↑live.named))
    (e : RemoteEndpoint R) :
    let same (old : RemoteEndpoint R) : Bool :=
      old.domainId = e.domainId && old.offers = e.offers && old.endpointId = e.endpointId
    Tracks keying (side.removeRemotes nodes same).2 (live.withdraw e.identity) ∧
      NodesOf (side.removeRemotes nodes same).1 (others + ↑(live.withdraw e.identity).named) := by
  intro same
  have question (old : RemoteEndpoint R) :
      (!same old) = decide (old.identity ≠ e.identity) := by
    simp only [same, Endpoint.identity, ne_eq, RemoteIdentity.mk.injEq, decide_not, Bool.and_assoc,
      Bool.decide_and]
  have left := tracks.removeRemotes nodesOf same
  simp only [question] at left
  exact left

/-- Under one key there are endpoints that differ in what a renewal replaces. -/
theorem eq_of_key {a b : RemoteEndpoint R}
    (same : a.key (keying.kind a.offers) = b.key (keying.kind b.offers)) :
    { a with expiresAt := b.expiresAt, info := b.info } = b := by
  obtain ⟨⟨_, _, _, _, _, _, _, _⟩, _⟩ := a
  obtain ⟨⟨_, _, _, _, _, _, _, _⟩, _⟩ := b
  simp only [Endpoint.key, RemoteGraphKey.mk.injEq] at same
  obtain ⟨rfl, rfl, kinds, rfl, rfl, rfl, rfl⟩ := same
  obtain rfl := keying.kind_inj kinds
  rfl

theorem keys_nodup (tracks : Tracks keying side live) : (side.remotes.map Prod.fst).Nodup := by
  have distinct := tracks.remoteDistinct
  unfold List.Nodup at distinct ⊢
  rw [List.pairwise_map] at distinct ⊢
  apply distinct.imp_of_mem
  intro a b amongA amongB other same
  rw [tracks.remoteKeys a amongA, tracks.remoteKeys b amongB] at same
  exact other (congrArg (fun e : RemoteEndpoint R => e.identity) (eq_of_key same) :)

variable {e found : RemoteEndpoint R}

/-- Without the entry of a key, the endpoints of another identity are left. -/
theorem erased_remotes (tracks : Tracks keying side live)
    (there : side.remotes.get? (e.key (keying.kind e.offers)) = some found) :
    ((side.remotes.erase (e.key (keying.kind e.offers))).map Prod.snd).Perm
      (live.withdraw e.identity).remotes := by
  have inside := Dict.mem_of_get? there
  have isKey := tracks.remoteKeys _ inside
  have identity : found.identity = e.identity :=
    (congrArg (fun e : RemoteEndpoint R => e.identity) (eq_of_key isKey.symm) :)
  have same : (side.remotes.erase (e.key (keying.kind e.offers))).map Prod.snd =
      (side.remotes.map Prod.snd).filter fun old => old.identity ≠ e.identity := by
    unfold Dict.erase
    rw [List.filter_map]
    congr 1
    apply List.filter_congr
    intro entry among
    simp only [Function.comp_apply, ne_eq, decide_eq_decide, not_iff_not]
    constructor
    · intro sameKey
      rw [tracks.remoteKeys entry among] at sameKey
      exact (congrArg (fun e : RemoteEndpoint R => e.identity) (eq_of_key sameKey) :)
    · intro sameIdentity
      have sameEntry := List.inj_on_of_nodup_map tracks.remoteDistinct among inside
        (sameIdentity.trans identity.symm)
      rw [sameEntry]
  rw [same]
  exact tracks.remotes.filter _

theorem renew (tracks : Tracks keying side live)
    (there : side.remotes.get? (e.key (keying.kind e.offers)) = some found)
    (nodesOf : NodesOf nodes (others + ↑live.named)) :
    let renewed : GraphSide L R := { side with
      remotes := side.remotes.set (e.key (keying.kind e.offers))
        { found with expiresAt := e.expiresAt, info := e.info } }
    Tracks keying renewed (live.advertise e) ∧
      NodesOf nodes (others + ↑(live.advertise e).named) := by
  have isKey := tracks.remoteKeys _ (Dict.mem_of_get? there)
  have isRenewed := eq_of_key isKey.symm
  have erased := tracks.erased_remotes there
  have before := Dict.perm_cons_erase tracks.keys_nodup there
  have after := Dict.set_perm (v := e) (k := e.key (keying.kind e.offers)) tracks.keys_nodup
  have whole : live.remotes.Perm (found :: (live.withdraw e.identity).remotes) :=
    tracks.remotes.symm.trans ((before.map Prod.snd).trans (erased.cons _))
  have sameListing : found.listing = e.listing :=
    (congrArg (fun e : RemoteEndpoint R => e.listing) isRenewed :)
  have sameNode : found.named? = e.named? :=
    (congrArg (fun e : RemoteEndpoint R => e.named?) isRenewed :)
  have sameIdentity : found.identity = e.identity :=
    (congrArg (fun e : RemoteEndpoint R => e.identity) isRenewed :)
  intro renewed
  have renewed_eq : renewed = { side with
      remotes := side.remotes.set (e.key (keying.kind e.offers)) e } :=
    congrArg (fun e' : RemoteEndpoint R => { side with
      remotes := side.remotes.set (e.key (keying.kind e.offers)) e' }) isRenewed
  rw [renewed_eq]
  constructor
  · exact {
      localKeys := tracks.localKeys
      remoteKeys := by
        intro entry among
        cases Dict.mem_set among with
        | inl isNew => exact isNew ▸ rfl
        | inr old => exact tracks.remoteKeys entry old
      localDistinct := tracks.localDistinct
      remoteDistinct := by
        have distinct := (before.map fun entry => entry.2.identity).nodup_iff.mp
          tracks.remoteDistinct
        rw [List.map_cons, sameIdentity] at distinct
        exact (after.map fun entry : RemoteGraphKey × RemoteEndpoint R =>
          entry.2.identity).nodup_iff.mpr distinct
      locals := tracks.locals
      remotes := (after.map Prod.snd).trans (erased.cons _)
      records := by
        have counted := tracks.records
        rw [LiveSide.listings_congr live { live with
          remotes := found :: (live.withdraw e.identity).remotes } (.refl _) whole] at counted
        unfold LiveSide.listings at counted ⊢
        rw [List.map_cons, sameListing] at counted
        exact counted }
  · rw [LiveSide.named_congr live { live with
      remotes := found :: (live.withdraw e.identity).remotes } whole] at nodesOf
    unfold LiveSide.named at nodesOf ⊢
    rw [List.filterMap_cons, sameNode] at nodesOf
    exact nodesOf

theorem applyRemote (tracks : Tracks keying side live)
    (nodesOf : NodesOf nodes (others + ↑live.named)) (isRemove : Bool) :
    let result := side.applyRemote nodes isRemove true (e.key (keying.kind e.offers)) e
    let live' := if isRemove then live.withdraw e.identity else live.advertise e
    Tracks keying result.2 live' ∧ NodesOf result.1 (others + ↑live'.named) := by
  unfold GraphSide.applyRemote
  dsimp only
  obtain ⟨tracksLeft, nodesLeft⟩ := tracks.withdraw nodesOf e
  cases isRemove with
  | true => exact ⟨tracksLeft, nodesLeft⟩
  | false =>
      rw [if_neg Bool.false_ne_true, if_neg Bool.false_ne_true]
      cases there : side.remotes.get? (e.key (keying.kind e.offers)) with
      | some found => exact tracks.renew there nodesOf
      | none =>
          dsimp only
          have absent : (side.removeRemotes nodes fun old => old.domainId = e.domainId &&
              old.offers = e.offers && old.endpointId = e.endpointId).2.remotes.get?
                (e.key (keying.kind e.offers)) = none := by
            cases left : (side.removeRemotes nodes _).2.remotes.get? _ with
            | none => rfl
            | some old =>
                have among := List.mem_of_mem_filter (Dict.mem_of_get? left)
                have present := Dict.isSome_get?_of_mem among
                rw [there] at present
                cases present
          generalize side.removeRemotes nodes _ = left at tracksLeft nodesLeft absent
          have new := Dict.set_of_absent (v := e) absent
          have remotes : ((left.2.remotes.set (e.key (keying.kind e.offers)) e).map Prod.snd).Perm
              (live.advertise e).remotes := by
            rw [new, List.map_append]
            exact List.perm_append_comm.trans (tracksLeft.remotes.cons _)
          constructor
          · exact {
              localKeys := tracksLeft.localKeys
              remoteKeys := by
                intro entry among
                cases Dict.mem_set among with
                | inl isNew => exact isNew ▸ rfl
                | inr old => exact tracksLeft.remoteKeys entry old
              localDistinct := tracksLeft.localDistinct
              remoteDistinct := by
                have identities := remotes.map fun e : RemoteEndpoint R => e.identity
                rw [List.map_map] at identities
                apply identities.nodup_iff.mpr
                apply List.nodup_cons.mpr
                constructor
                · intro among
                  obtain ⟨old, inside, same⟩ := List.mem_map.mp among
                  exact of_decide_eq_true (List.mem_filter.mp inside).2 same
                · have before := tracksLeft.remotes.map fun e : RemoteEndpoint R => e.identity
                  rw [List.map_map] at before
                  exact before.nodup_iff.mp tracksLeft.remoteDistinct
              locals := tracksLeft.locals
              remotes
              records := by
                have listings : (↑(live.advertise e).listings : Multiset Listing) =
                    e.listing ::ₘ ↑(live.withdraw e.identity).listings :=
                  Multiset.coe_eq_coe.mpr List.perm_middle
                rw [listings]
                exact RecordsOf.add (x := e.listing) tracksLeft.records }
          · unfold LiveSide.named LiveSide.advertise
            rw [List.filterMap_cons]
            by_cases nameless : e.nodeName = []
            · rw [if_neg (fun both => both.1 nameless),
                show e.named? = none from if_neg (not_not.mpr nameless)]
              exact nodesLeft
            · rw [if_pos ⟨nameless, rfl⟩, show e.named? = some e.nodeKey from if_pos nameless]
              dsimp only
              rw [← Multiset.cons_coe, Multiset.add_cons]
              exact nodesLeft.count

end Tracks

end

/-! ## The graph -/

theorem localEndpointKey_inj {o o' : Bool} {id id' : Bytes}
    (same : localEndpointKey o id = localEndpointKey o' id') : o = o' ∧ id = id' := by
  cases o <;> cases o'
  · exact ⟨rfl, List.append_cancel_left same⟩
  · exact absurd (show some (115 : UInt8) = some 112 from congrArg List.head? same) (by decide)
  · exact absurd (show some (112 : UInt8) = some 115 from congrArg List.head? same) (by decide)
  · exact ⟨rfl, List.append_cancel_left same⟩

theorem localServiceEndpointKey_inj {o o' : Bool} {id id' : Bytes}
    (same : localServiceEndpointKey o id = localServiceEndpointKey o' id') : o = o' ∧ id = id' := by
  cases o <;> cases o'
  · exact ⟨rfl, List.append_cancel_left same⟩
  · exact absurd (show some (99 : UInt8) = some 115 from congrArg List.head? same) (by decide)
  · exact absurd (show some (115 : UInt8) = some 99 from congrArg List.head? same) (by decide)
  · exact ⟨rfl, List.append_cancel_left same⟩

def topicKind (publisher : Bool) : Bytes :=
  if publisher then octets "publisher" else octets "subscription"

def serviceKind (service : Bool) : Bytes := if service then octets "service" else octets "client"

theorem topicKind_inj : ∀ {o o'}, topicKind o = topicKind o' → o = o' := by decide

theorem serviceKind_inj : ∀ {o o'}, serviceKind o = serviceKind o' → o = o' := by decide

def topicKeying : Keying := ⟨localEndpointKey, topicKind, localEndpointKey_inj, topicKind_inj⟩

def serviceKeying : Keying :=
  ⟨localServiceEndpointKey, serviceKind, localServiceEndpointKey_inj, serviceKind_inj⟩

/-- The tables of the graph are indexes of what lives. -/
structure GraphTracks (g : Graph) (l : LiveGraph) : Prop where
  topics : Tracks topicKeying g.topics l.topics
  services : Tracks serviceKeying g.services l.services
  nodes : NodesOf g.nodes ↑(l.registered ++ l.named)

theorem LocalArguments.offers_of_endpoint? {I : Type} {a : LocalArguments I} {offers : Bool}
    {e : Endpoint I} (h : a.endpoint? offers = some e) : e.offers = offers := by
  unfold LocalArguments.endpoint? at h
  split at h
  · cases h
    rfl
  · cases h

namespace GraphTracks

variable {g : Graph} {l : LiveGraph}

theorem start : GraphTracks {} {} where
  topics := {
    localKeys := nofun
    remoteKeys := nofun
    localDistinct := .nil
    remoteDistinct := .nil
    locals := .nil
    remotes := .nil
    records := .nil }
  services := {
    localKeys := nofun
    remoteKeys := nofun
    localDistinct := .nil
    remoteDistinct := .nil
    locals := .nil
    remotes := .nil
    records := .nil }
  nodes := .nil

/-- The nodes besides those that one side names. -/
theorem nodes_topics (l : LiveGraph) : (↑(l.registered ++ l.named) : Multiset NodeKey) =
    (↑l.registered + ↑l.services.named) + ↑l.topics.named := by
  unfold LiveGraph.named
  rw [← Multiset.coe_add, ← Multiset.coe_add, ← add_assoc, add_right_comm]

theorem nodes_services (l : LiveGraph) : (↑(l.registered ++ l.named) : Multiset NodeKey) =
    (↑l.registered + ↑l.topics.named) + ↑l.services.named := by
  unfold LiveGraph.named
  rw [← Multiset.coe_add, ← Multiset.coe_add, ← add_assoc]

theorem registerNode (tracks : GraphTracks g l) (name namespace_ : Option Bytes)
    (domainId : UInt64) : GraphTracks (g.registerNode name namespace_ domainId)
      (l.step (.registerNode name namespace_ domainId)) := by
  unfold Graph.registerNode LiveGraph.step
  cases name <;> cases namespace_ <;> try exact tracks
  exact { tracks with nodes := tracks.nodes.count }

theorem unregisterNode (tracks : GraphTracks g l) {name namespace_ : Bytes} {domainId : UInt64}
    (paired : ⟨domainId, name, namespace_⟩ ∈ l.registered ∨
      ⟨domainId, name, namespace_⟩ ∉ l.named) :
    GraphTracks (g.unregisterNode (some name) (some namespace_) domainId)
      (l.step (.unregisterNode (some name) (some namespace_) domainId)) := by
  unfold Graph.unregisterNode LiveGraph.step
  dsimp only
  by_cases registered : ⟨domainId, name, namespace_⟩ ∈ l.registered
  · refine { tracks with nodes := NodesOf.discount ?_ }
    have whole := (List.perm_cons_erase registered).append_right l.named
    have counted := tracks.nodes
    rw [Multiset.coe_eq_coe.mpr whole] at counted
    exact counted
  · have unnamed := paired.resolve_left registered
    rw [List.erase_of_not_mem registered, tracks.nodes.discount_of_absent]
    · exact tracks
    · intro among
      cases List.mem_append.mp among with
      | inl isRegistered => exact registered isRegistered
      | inr named => exact unnamed named

theorem registerTopic (tracks : GraphTracks g l) (offers : Bool)
    (a : LocalArguments LocalTopicInfo) :
    GraphTracks (g.addLocalEndpoint offers a) (l.registerTopic offers a) := by
  unfold Graph.addLocalEndpoint LiveGraph.registerTopic
  cases isEndpoint : a.endpoint? offers with
  | none => exact tracks
  | some e =>
      obtain rfl := LocalArguments.offers_of_endpoint? isEndpoint
      exact { tracks with topics := tracks.topics.register e }

theorem registerService (tracks : GraphTracks g l) (offers : Bool)
    (a : LocalArguments RmwQosProfile) :
    GraphTracks (g.addLocalServiceEndpoint offers a) (l.registerService offers a) := by
  unfold Graph.addLocalServiceEndpoint LiveGraph.registerService
  cases isEndpoint : a.endpoint? offers with
  | none => exact tracks
  | some e =>
      obtain rfl := LocalArguments.offers_of_endpoint? isEndpoint
      exact { tracks with services := tracks.services.register e }

theorem unregisterTopic (tracks : GraphTracks g l) (offers : Bool) (id : Option Bytes) :
    GraphTracks (g.removeLocalEndpoint offers id) (l.unregisterTopic offers id) := by
  cases id with
  | none => exact tracks
  | some id => exact { tracks with topics := (tracks.topics.unregister offers id).1 }

theorem unregisterService (tracks : GraphTracks g l) (offers : Bool) (id : Option Bytes) :
    GraphTracks (g.removeLocalServiceEndpoint offers id) (l.unregisterService offers id) := by
  cases id with
  | none => exact tracks
  | some id => exact { tracks with services := (tracks.services.unregister offers id).1 }

theorem purgeExpired (tracks : GraphTracks g l) (now : Int) :
    GraphTracks (g.purgeExpired now) (l.expire now) := by
  have nodes := tracks.nodes
  rw [nodes_topics] at nodes
  obtain ⟨topics, nodes⟩ := tracks.topics.expire nodes now
  rw [add_right_comm] at nodes
  obtain ⟨services, nodes⟩ := tracks.services.expire nodes now
  refine ⟨topics, services, ?_⟩
  rw [nodes_services]
  exact nodes

theorem applyRemoteAdvertisement (tracks : GraphTracks g l) (a : RemoteArguments)
    (now renewedAt : Int) (hasNamespace : a.nodeNamespace.isSome) :
    GraphTracks (g.applyRemoteAdvertisement a now renewedAt) (l.advertised a now renewedAt) := by
  have purged := tracks.purgeExpired now
  unfold Graph.applyRemoteAdvertisement LiveGraph.advertised
  rw [hasNamespace]
  cases a.action with
  | none => exact tracks
  | some action =>
  cases a.entityKind with
  | none => exact tracks
  | some kind =>
  cases a.topicName with
  | none => exact tracks
  | some name =>
  cases a.typeName with
  | none => exact tracks
  | some typeName =>
  cases a.endpointId with
  | none => exact tracks
  | some endpointId =>
  dsimp only
  by_cases act : action = octets "add" ∨ action = octets "remove"
  case neg =>
    rw [if_pos (not_or.mp act), if_pos (fun both => act both.1)]
    exact tracks
  by_cases kinds : kind ∈ LiveGraph.entityKinds
  case neg =>
    rw [if_neg (fun neither => act.elim neither.1 neither.2), if_pos (fun both => kinds both.2)]
    simp only [LiveGraph.entityKinds, List.mem_cons, List.not_mem_nil, or_false, not_or] at kinds
    obtain ⟨publisher, subscription, service, client⟩ := kinds
    rw [if_pos ⟨not_or.mpr ⟨publisher, subscription⟩, not_or.mpr ⟨service, client⟩⟩]
    exact tracks
  have known : (kind = octets "publisher" ∨ kind = octets "subscription") ∨
      (kind = octets "service" ∨ kind = octets "client") := by
    simp only [LiveGraph.entityKinds, List.mem_cons, List.not_mem_nil, or_false] at kinds
    rw [or_assoc]
    exact kinds
  rw [if_neg (fun neither => act.elim neither.1 neither.2),
    if_neg (fun neither => known.elim neither.1 neither.2), if_neg (not_not.mpr ⟨act, kinds⟩)]
  have adds {L R : Type} (live : LiveSide L R) (e : RemoteEndpoint R) :
      (if action = octets "add" then live.advertise e else live.withdraw e.identity) =
        if decide (action = octets "remove") then live.withdraw e.identity
        else live.advertise e := by
    cases act with
    | inl isAdd => rw [isAdd, if_pos rfl, if_neg (by decide)]
    | inr isRemove => rw [isRemove, if_neg (by decide), if_pos (by decide)]
  simp only [adds]
  have nodes := purged.nodes
  by_cases service : kind = octets "service" ∨ kind = octets "client"
  · rw [if_pos service, if_pos service]
    have isKind : serviceKeying.kind (decide (kind = octets "service")) = kind := by
      cases service with
      | inl isService => rw [isService]; rfl
      | inr isClient => rw [isClient]; rfl
    rw [nodes_services] at nodes
    have applied := purged.services.applyRemote (e := {
      offers := decide (kind = octets "service")
      domainId := a.domainId
      nodeName := a.nodeName.getD []
      nodeNamespace := a.nodeNamespace.getD []
      name, typeName, endpointId
      info := a.qos.getD {}
      expiresAt := renewedAt + Graph.leaseDuration a.leaseMs }) nodes
      (decide (action = octets "remove"))
    dsimp only [Endpoint.key] at applied
    rw [isKind] at applied
    generalize GraphSide.applyRemote _ _ _ _ _ _ = result at applied ⊢
    refine ⟨purged.topics, applied.1, ?_⟩
    rw [nodes_services]
    exact applied.2
  · rw [if_neg service, if_neg service]
    have isKind : topicKeying.kind (decide (kind = octets "publisher")) = kind := by
      cases known.resolve_right service with
      | inl isPublisher => rw [isPublisher]; rfl
      | inr isSubscription => rw [isSubscription]; rfl
    rw [nodes_topics] at nodes
    have applied := purged.topics.applyRemote (e := {
      offers := decide (kind = octets "publisher")
      domainId := a.domainId
      nodeName := a.nodeName.getD []
      nodeNamespace := a.nodeNamespace.getD []
      name, typeName, endpointId
      info := ⟨a.endpointGid, a.qos.getD {}⟩
      expiresAt := renewedAt + Graph.leaseDuration a.leaseMs }) nodes
      (decide (action = octets "remove"))
    dsimp only [Endpoint.key] at applied
    rw [isKind] at applied
    generalize GraphSide.applyRemote _ _ _ _ _ _ = result at applied ⊢
    refine ⟨applied.1, purged.services, ?_⟩
    rw [nodes_topics]
    exact applied.2

end GraphTracks

/-! ## Runs are exact -/

/-- A node is unregistered while it is registered, or while no advertised endpoint names it, and
    what is advertised has a namespace for its node. -/
def GraphRun.Fits (r : GraphRun) : GraphEvent → Prop
  | .unregisterNode (some name) (some namespace_) domainId =>
      ⟨domainId, name, namespace_⟩ ∈ r.live.registered ∨
        ⟨domainId, name, namespace_⟩ ∉ r.live.named
  | .applyRemoteAdvertisement a _ _ => a.nodeNamespace.isSome
  | _ => True

def GraphRun.Tracked (r : GraphRun) : Prop := GraphTracks r.graph r.live

theorem GraphRun.Tracked.start : ({} : GraphRun).Tracked := GraphTracks.start

theorem GraphRun.Tracked.step {r r' : GraphRun} {e : GraphEvent} (tracks : r.Tracked)
    (fits : r.Fits e) (h : r.step e = some r') : r'.Tracked := by
  cases Option.some.inj h
  cases e with
  | registerNode name namespace_ domainId => exact tracks.registerNode name namespace_ domainId
  | unregisterNode name namespace_ domainId =>
      cases name with
      | none => exact tracks
      | some name =>
          cases namespace_ with
          | none => exact tracks
          | some namespace_ => exact tracks.unregisterNode fits
  | registerPublisherEndpoint a => exact tracks.registerTopic true a
  | registerSubscriptionEndpoint a => exact tracks.registerTopic false a
  | registerServiceEndpoint a => exact tracks.registerService true a
  | registerClientEndpoint a => exact tracks.registerService false a
  | unregisterPublisherEndpoint id => exact tracks.unregisterTopic true id
  | unregisterSubscriptionEndpoint id => exact tracks.unregisterTopic false id
  | unregisterServiceEndpoint id => exact tracks.unregisterService true id
  | unregisterClientEndpoint id => exact tracks.unregisterService false id
  | applyRemoteAdvertisement a now renewedAt =>
      exact tracks.applyRemoteAdvertisement a now renewedAt fits
  | purgeExpired now => exact tracks.purgeExpired now

theorem count_typeName (listings : List Listing) (k : GraphNameKey) (t : Bytes) :
    ((itemsOf Listing.key ↑listings k).map Listing.typeName).count t =
      listings.countP fun x => x.key = k ∧ x.typeName = t := by
  unfold itemsOf
  rw [Multiset.count, Multiset.countP_map, Multiset.filter_filter, ← Multiset.countP_eq_card_filter,
    Multiset.coe_countP]
  apply List.countP_congr
  intro x _
  simp only [decide_eq_true_eq, and_comm, eq_comm]

theorem countP_itemsOf (listings : List Listing) (k : GraphNameKey) (p : Listing → Prop)
    [DecidablePred p] :
    (itemsOf Listing.key ↑listings k).countP p = listings.countP fun x => x.key = k ∧ p x := by
  unfold itemsOf
  rw [Multiset.countP_filter, Multiset.coe_countP]
  apply List.countP_congr
  intro x _
  simp only [decide_eq_true_eq, and_comm]

theorem Tracks.exact_ {L R : Type} {keying : Keying} {side : GraphSide L R} {live : LiveSide L R}
    (tracks : Tracks keying side live) : side.Exact live where
  present k := tracks.records.isSome_iff
  offered k record there := by
    rw [(tracks.records.of_get? there).2.offered, countP_itemsOf]
  used k record there := by
    rw [(tracks.records.of_get? there).2.used, countP_itemsOf]
    simp only [Bool.not_eq_true, Bool.not_eq_true']
  typeCounts k record t there := by
    rw [(tracks.records.of_get? there).2.typeCounts.get?_eq, count_typeName]
  locals := tracks.locals
  remotes := tracks.remotes
  single := tracks.remoteDistinct

/-- In every run that fits, the graph counts the live endpoints exactly. -/
theorem graph_exact {events : List GraphEvent} {r : GraphRun}
    (fits : RunMeets GraphRun.step GraphRun.Fits {} events)
    (h : run GraphRun.step {} events = some r) : r.graph.Exact r.live := by
  have tracks : r.Tracked :=
    run_invariant (fun held ok taken => held.step ok taken) .start fits h
  refine ⟨tracks.topics.exact_, tracks.services.exact_, fun k => ?_⟩
  rw [tracks.nodes.get?_eq, Multiset.coe_count, List.count_append]
  rfl

/-- What another process says of an endpoint named `2` of the topic `/`, on the node `/n`. -/
def advertisement (action kind typeName : Bytes) : RemoteArguments :=
  { action := some action
    entityKind := some kind
    nodeName := some [110]
    nodeNamespace := some [47]
    topicName := some [47]
    typeName := some typeName
    endpointId := some [50] }

/-- A publisher of this process, and a subscription of its topic that is advertised once more with
    another type. -/
theorem graph_exact_readvertised :
    ∃ r, run GraphRun.step {} [
        .registerPublisherEndpoint {
          name := some [47]
          typeName := some [84]
          endpointId := some [49]
          info := {} },
        .applyRemoteAdvertisement
          (advertisement (octets "add") (octets "subscription") [84]) 0 0,
        .applyRemoteAdvertisement
          (advertisement (octets "add") (octets "subscription") [85]) 1 1] = some r ∧
      r.graph.topics.records = [(⟨0, [47]⟩, {
        name := [47]
        types := [[84], [85]]
        typeCounts := [([84], 1), ([85], 1)]
        offeredCount := 1
        usedCount := 1 })] ∧
      r.graph.Exact r.live := by
  have fits : RunMeets GraphRun.step GraphRun.Fits {} [
      .registerPublisherEndpoint {
        name := some [47]
        typeName := some [84]
        endpointId := some [49]
        info := {} },
      .applyRemoteAdvertisement
        (advertisement (octets "add") (octets "subscription") [84]) 0 0,
      .applyRemoteAdvertisement
        (advertisement (octets "add") (octets "subscription") [85]) 1 1] :=
    ⟨True.intro, rfl, rfl, True.intro⟩
  exact ⟨_, rfl, by decide, graph_exact fits rfl⟩

/-- Taking back a node that is not registered takes the count of a publisher that another process
    advertises. -/
theorem unpaired_unregister_lost :
    ∃ r, run GraphRun.step {} [
        .applyRemoteAdvertisement (advertisement (octets "add") (octets "publisher") [84]) 0 0,
        .unregisterNode (some [110]) (some [47]) 0] = some r ∧
      ⟨0, [110], [47]⟩ ∈ r.live.named ∧ ¬r.graph.Exact r.live := by
  refine ⟨_, rfl, by decide, fun exact_ => ?_⟩
  exact absurd (exact_.nodes ⟨0, [110], [47]⟩) (by decide)

end FleetRMW.Rmw
