import FleetRMW.Lib.Eviction
import FleetRMW.Rmw.Qos

/-! # The graph

The graph counts, for each topic and each service, the endpoints of this process and the
endpoints that other processes advertise, and for each node its registrations and the advertised
endpoints that name it. An advertised endpoint is held by a lease.

Topics and services are kept in the same way: a publisher or a service offers, a subscription or
a client uses. A text that is `none` is a null pointer.
-/

namespace FleetRMW.Rmw

open Lib

/-! ## Records -/

structure NodeKey where
  domainId : UInt64
  name : Bytes
  namespace_ : Bytes
  deriving Repr, DecidableEq

structure NodeRecord where
  domainId : UInt64 := 0
  name : Bytes := []
  namespace_ : Bytes := []
  count : Nat := 0
  deriving Repr, DecidableEq

structure GraphNameKey where
  domainId : UInt64
  name : Bytes
  deriving Repr, DecidableEq

/-- `TopicRecord`, with the counts of publishers and of subscriptions, and `ServiceRecord`, with
    those of services and of clients. -/
structure GraphRecord where
  name : Bytes := []
  types : List Bytes := []
  typeCounts : Dict Bytes Nat := []
  offeredCount : Nat := 0
  usedCount : Nat := 0
  deriving Repr, DecidableEq

structure RemoteGraphKey where
  domainId : UInt64
  endpointId : Bytes
  entityKind : Bytes
  topicName : Bytes
  typeName : Bytes
  nodeName : Bytes
  nodeNamespace : Bytes
  deriving Repr, DecidableEq

/-- What all four kinds of endpoint record; `info` is the rest. -/
structure Endpoint (I : Type) where
  offers : Bool
  domainId : UInt64
  nodeName : Bytes
  nodeNamespace : Bytes
  name : Bytes
  typeName : Bytes
  endpointId : Bytes
  info : I
  deriving Repr, DecidableEq

structure RemoteEndpoint (I : Type) extends Endpoint I where
  expiresAt : Int
  deriving Repr, DecidableEq

/-- The array that `copy_endpoint_gid` makes, and the profile. -/
structure TopicInfo where
  endpointGid : Bytes := []
  qos : RmwQosProfile := {}
  deriving Repr, DecidableEq

structure LocalTopicInfo extends TopicInfo where
  typeHash : Option Bytes := none
  deriving Repr, DecidableEq

/-- `g_topics` or `g_services`, with the endpoints that it counts. -/
structure GraphSide (L R : Type) where
  records : Dict GraphNameKey GraphRecord := []
  locals : Dict Bytes (Endpoint L) := []
  remotes : Dict RemoteGraphKey (RemoteEndpoint R) := []
  deriving Repr, DecidableEq

structure Graph where
  nodes : Dict NodeKey NodeRecord := []
  topics : GraphSide LocalTopicInfo TopicInfo := {}
  services : GraphSide RmwQosProfile RmwQosProfile := {}
  deriving Repr, DecidableEq

/-- The product wraps as the code's does. -/
def Graph.leaseDuration (leaseMs : UInt64) : Int :=
  ((if leaseMs = 0 then 5000 else leaseMs).toInt64 * 1000000).toInt

/-- `local_endpoint_key` -/
def localEndpointKey (publisher : Bool) (endpointId : Bytes) : Bytes :=
  octets (if publisher then "publisher:" else "subscription:") ++ endpointId

/-- `local_service_endpoint_key` -/
def localServiceEndpointKey (service : Bool) (endpointId : Bytes) : Bytes :=
  octets (if service then "service:" else "client:") ++ endpointId

/-! ## Counts -/

/-- `add_topic_endpoint_locked`, `add_service_endpoint_locked` -/
def addEndpoint (records : Dict GraphNameKey GraphRecord) (domainId : UInt64)
    (name typeName : Bytes) (offers : Bool) : Dict GraphNameKey GraphRecord :=
  let record := (records.get? ⟨domainId, name⟩).getD {}
  records.set ⟨domainId, name⟩ {
    name
    types := if typeName ∈ record.types then record.types else record.types ++ [typeName]
    typeCounts := record.typeCounts.set typeName ((record.typeCounts.get? typeName).getD 0 + 1)
    offeredCount := if offers then record.offeredCount + 1 else record.offeredCount
    usedCount := if offers then record.usedCount else record.usedCount + 1 }

/-- The part of `remove_topic_endpoint_locked` that takes the type off. -/
def GraphRecord.dropType (record : GraphRecord) (typeName : Bytes) : GraphRecord :=
  match record.typeCounts.get? typeName with
  | none => record
  | some n =>
      if n > 1 then { record with typeCounts := record.typeCounts.set typeName (n - 1) }
      else { record with
        typeCounts := record.typeCounts.erase typeName
        types := record.types.filter (· ≠ typeName) }

/-- The part of `remove_topic_endpoint_locked` that lowers the count, which never wraps. -/
def GraphRecord.dropRole (record : GraphRecord) (offers : Bool) : GraphRecord :=
  if offers ∧ record.offeredCount > 0 then { record with offeredCount := record.offeredCount - 1 }
  else if !offers ∧ record.usedCount > 0 then { record with usedCount := record.usedCount - 1 }
  else record

/-- `remove_topic_endpoint_locked`, `remove_service_endpoint_locked` -/
def removeEndpoint (records : Dict GraphNameKey GraphRecord) (domainId : UInt64)
    (name typeName : Bytes) (offers : Bool) : Dict GraphNameKey GraphRecord :=
  match records.get? ⟨domainId, name⟩ with
  | none => records
  | some record =>
      let record := (record.dropRole offers).dropType typeName
      if record.offeredCount = 0 ∧ record.usedCount = 0 then records.erase ⟨domainId, name⟩
      else records.set ⟨domainId, name⟩ record

/-- `++g_nodes[key].count` -/
def countNode (nodes : Dict NodeKey NodeRecord) (key : NodeKey) : Dict NodeKey NodeRecord :=
  let record := (nodes.get? key).getD {}
  nodes.set key { key with count := record.count + 1 }

/-- The count goes down and with the last one the record goes. -/
def discountNode (nodes : Dict NodeKey NodeRecord) (key : NodeKey) : Dict NodeKey NodeRecord :=
  match nodes.get? key with
  | none => nodes
  | some record =>
      if record.count > 1 then nodes.set key { record with count := record.count - 1 }
      else nodes.erase key

/-! ## Endpoints of this process -/

section
variable {L R : Type}

/-- `remove_local_endpoint_locked`, `remove_local_service_endpoint_locked` -/
def GraphSide.removeLocal (side : GraphSide L R) (key : Bytes) : GraphSide L R :=
  match side.locals.get? key with
  | none => side
  | some e =>
      { side with
        records := removeEndpoint side.records e.domainId e.name e.typeName e.offers
        locals := side.locals.erase key }

/-- `add_local_endpoint`, `add_local_service_endpoint` -/
def GraphSide.addLocal (side : GraphSide L R) (key : Bytes) (e : Endpoint L) : GraphSide L R :=
  let side := side.removeLocal key
  { side with
    records := addEndpoint side.records e.domainId e.name e.typeName e.offers
    locals := side.locals.set key e }

end

/-- What an endpoint of this process is registered with. -/
structure LocalArguments (I : Type) where
  nodeName : Option Bytes := none
  nodeNamespace : Option Bytes := none
  name : Option Bytes := none
  typeName : Option Bytes := none
  endpointId : Option Bytes := none
  info : I
  domainId : UInt64 := 0
  deriving Repr, DecidableEq

/-- The endpoint, where no pointer that it needs is null. -/
def LocalArguments.endpoint? {I : Type} (a : LocalArguments I) (offers : Bool) :
    Option (Endpoint I) :=
  match a.name, a.typeName, a.endpointId with
  | some name, some typeName, some endpointId => some {
      offers
      domainId := a.domainId
      nodeName := a.nodeName.getD []
      nodeNamespace := a.nodeNamespace.getD []
      name, typeName, endpointId
      info := a.info }
  | _, _, _ => none

namespace Graph

def registerNode (g : Graph) (name namespace_ : Option Bytes) (domainId : UInt64) : Graph :=
  match name, namespace_ with
  | some name, some namespace_ => { g with nodes := countNode g.nodes ⟨domainId, name, namespace_⟩ }
  | _, _ => g

def unregisterNode (g : Graph) (name namespace_ : Option Bytes) (domainId : UInt64) : Graph :=
  match name, namespace_ with
  | some name, some namespace_ =>
      { g with nodes := discountNode g.nodes ⟨domainId, name, namespace_⟩ }
  | _, _ => g

/-- `add_local_endpoint` -/
def addLocalEndpoint (g : Graph) (publisher : Bool) (a : LocalArguments LocalTopicInfo) : Graph :=
  match a.endpoint? publisher with
  | none => g
  | some e =>
      { g with topics := g.topics.addLocal (localEndpointKey publisher e.endpointId) e }

/-- `add_local_service_endpoint` -/
def addLocalServiceEndpoint (g : Graph) (service : Bool) (a : LocalArguments RmwQosProfile) :
    Graph :=
  match a.endpoint? service with
  | none => g
  | some e =>
      { g with services := g.services.addLocal (localServiceEndpointKey service e.endpointId) e }

/-- `remove_local_endpoint_locked` -/
def removeLocalEndpoint (g : Graph) (publisher : Bool) (endpointId : Option Bytes) : Graph :=
  match endpointId with
  | none => g
  | some id => { g with topics := g.topics.removeLocal (localEndpointKey publisher id) }

/-- `remove_local_service_endpoint_locked` -/
def removeLocalServiceEndpoint (g : Graph) (service : Bool) (endpointId : Option Bytes) : Graph :=
  match endpointId with
  | none => g
  | some id => { g with services := g.services.removeLocal (localServiceEndpointKey service id) }

def registerPublisherEndpoint (g : Graph) := g.addLocalEndpoint true
def registerSubscriptionEndpoint (g : Graph) := g.addLocalEndpoint false
def registerServiceEndpoint (g : Graph) := g.addLocalServiceEndpoint true
def registerClientEndpoint (g : Graph) := g.addLocalServiceEndpoint false
def unregisterPublisherEndpoint (g : Graph) := g.removeLocalEndpoint true
def unregisterSubscriptionEndpoint (g : Graph) := g.removeLocalEndpoint false
def unregisterServiceEndpoint (g : Graph) := g.removeLocalServiceEndpoint true
def unregisterClientEndpoint (g : Graph) := g.removeLocalServiceEndpoint false

end Graph

/-! ## Endpoints of other processes -/

section
variable {L R : Type}

def Endpoint.nodeKey {I : Type} (e : Endpoint I) : NodeKey := ⟨e.domainId, e.nodeName, e.nodeNamespace⟩

/-- `remove_remote_endpoint_locked`, `remove_remote_service_endpoint_locked`: what the endpoint is
    counted in. -/
def removeRemoteEndpoint (counted : Dict NodeKey NodeRecord × Dict GraphNameKey GraphRecord)
    (e : RemoteEndpoint R) : Dict NodeKey NodeRecord × Dict GraphNameKey GraphRecord :=
  (if e.nodeName ≠ [] then discountNode counted.1 e.nodeKey else counted.1,
    removeEndpoint counted.2 e.domainId e.name e.typeName e.offers)

/-- A loop over the remote endpoints that removes those that are `gone`. -/
def GraphSide.removeRemotes (nodes : Dict NodeKey NodeRecord) (side : GraphSide L R)
    (gone : RemoteEndpoint R → Bool) : Dict NodeKey NodeRecord × GraphSide L R :=
  let (nodes, records) := side.remotes.foldl
    (fun counted entry => if gone entry.2 then removeRemoteEndpoint counted entry.2 else counted)
    (nodes, side.records)
  (nodes, { side with records, remotes := side.remotes.filter fun entry => !gone entry.2 })

/-- An advertisement for one side, behind the purge: what a `remove` takes off, and what an `add`
    renews, or replaces and adds. The node is counted where it has a namespace. -/
def GraphSide.applyRemote (nodes : Dict NodeKey NodeRecord) (side : GraphSide L R)
    (isRemove hasNamespace : Bool) (key : RemoteGraphKey) (e : RemoteEndpoint R) :
    Dict NodeKey NodeRecord × GraphSide L R :=
  let same (old : RemoteEndpoint R) : Bool :=
    old.domainId = e.domainId && old.offers = e.offers && old.endpointId = e.endpointId
  if isRemove then side.removeRemotes nodes same
  else
    match side.remotes.get? key with
    | some found =>
        (nodes, { side with
          remotes := side.remotes.set key { found with expiresAt := e.expiresAt, info := e.info } })
    | none =>
        let (nodes, side) := side.removeRemotes nodes same
        (if e.nodeName ≠ [] ∧ hasNamespace then countNode nodes e.nodeKey else nodes,
          { side with
            records := addEndpoint side.records e.domainId e.name e.typeName e.offers
            remotes := side.remotes.set key e })

end

/-- What other processes advertise. -/
structure RemoteArguments where
  action : Option Bytes := none
  entityKind : Option Bytes := none
  nodeName : Option Bytes := none
  nodeNamespace : Option Bytes := none
  topicName : Option Bytes := none
  typeName : Option Bytes := none
  endpointId : Option Bytes := none
  endpointGid : Bytes := []
  qos : Option RmwQosProfile := none
  domainId : UInt64 := 0
  leaseMs : UInt64 := 0
  deriving Repr, DecidableEq

namespace Graph

/-- `purge_expired_remote_graph_locked` -/
def purgeExpired (g : Graph) (now : Int) : Graph :=
  let (nodes, topics) := g.topics.removeRemotes g.nodes fun e => e.expiresAt ≤ now
  let (nodes, services) := g.services.removeRemotes nodes fun e => e.expiresAt ≤ now
  { nodes, topics, services }

/-- `rmw_fleetqox_cpp_graph_apply_remote_advertisement_with_info_in_domain`. The clock shows `now`
    at the purge and `renewedAt` where the lease begins. -/
def applyRemoteAdvertisement (g : Graph) (a : RemoteArguments) (now renewedAt : Int) : Graph :=
  match a.action, a.entityKind, a.topicName, a.typeName, a.endpointId with
  | some action, some entityKind, some topicName, some typeName, some endpointId =>
      let isAdd := action = octets "add"
      let isRemove := action = octets "remove"
      let isPublisher := entityKind = octets "publisher"
      let isSubscription := entityKind = octets "subscription"
      let isService := entityKind = octets "service"
      let isClient := entityKind = octets "client"
      let isTopicEndpoint := isPublisher ∨ isSubscription
      let isServiceEndpoint := isService ∨ isClient
      if ¬isAdd ∧ ¬isRemove then g
      else if ¬isTopicEndpoint ∧ ¬isServiceEndpoint then g
      else
        let g := g.purgeExpired now
        let nodeName := a.nodeName.getD []
        let nodeNamespace := a.nodeNamespace.getD []
        let key : RemoteGraphKey := {
          domainId := a.domainId
          endpointId, entityKind, topicName, typeName, nodeName, nodeNamespace }
        let endpoint {I : Type} (offers : Bool) (info : I) : RemoteEndpoint I := {
          offers
          domainId := a.domainId
          nodeName, nodeNamespace
          name := topicName
          typeName, endpointId, info
          expiresAt := renewedAt + leaseDuration a.leaseMs }
        let qos := a.qos.getD {}
        if isServiceEndpoint then
          let (nodes, services) := g.services.applyRemote g.nodes isRemove
            a.nodeNamespace.isSome key (endpoint isService qos)
          { g with nodes, services }
        else
          let (nodes, topics) := g.topics.applyRemote g.nodes isRemove
            a.nodeNamespace.isSome key (endpoint isPublisher ⟨a.endpointGid, qos⟩)
          { g with nodes, topics }
  | _, _, _, _, _ => g

end Graph

end FleetRMW.Rmw
