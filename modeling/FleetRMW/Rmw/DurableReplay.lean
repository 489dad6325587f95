import FleetRMW.Lib.Lines
import FleetRMW.Lib.Recency
import FleetRMW.Rmw.ServiceOnce
import FleetRMW.Rmw.ServiceRoundTrip

/-! # Responses that survive a restart

A service writes its stored responses into a file after each response that it sends, one line for
each, and reads them again when it starts. A line is a key, a tab and the digits of a frame, so
responses whose keys hold a tab or the end of a line are not written.
-/

namespace FleetRMW.Rmw

open Lib

/-! ## Digits -/

/-- The digits of octets. -/
def hexText (decoded : Bytes) : Bytes :=
  decoded.flatMap fun byte => [hexDigit (byte.toNat / 16), hexDigit (byte.toNat % 16)]

/-- `decode_durable_replay_hex` -/
def decodeDurableReplayHex : Bytes → Option Bytes
  | [] => some []
  | [_] => none
  | a :: b :: rest =>
      match hexNibble a, hexNibble b with
      | some high, some low => (decodeDurableReplayHex rest).map (((high <<< 4) ||| low) :: ·)
      | _, _ => none

/-! ## The file -/

def replayHeader : Bytes := octets "FLEETQOX_SERVICE_REPLAY_V1"

/-- A key that a line can hold. -/
def fitsLine (key : Bytes) : Bool := 9 ∉ key && 10 ∉ key

/-- What is written of a stored response. -/
def replayLine (e : Bytes × Bytes) : Bytes := e.1 ++ 9 :: hexText e.2

namespace FleetQoxServiceData

def durableServiceReplaySnapshot (data : FleetQoxServiceData) : Bytes :=
  unlines 10 (replayHeader ::
    (data.responseReplay.filter fun e => fitsLine e.1).map replayLine)

/-- The response of a line is stored under the endpoint of this service, and its request is
    remembered. -/
def storeLoaded (data : FleetQoxServiceData) (key : Bytes) (frame : ServiceFrame) :
    FleetQoxServiceData :=
  let rebound := { frame with serviceEndpointId := data.endpointId }
  { data with
    responseReplay := storeBoundedServiceResponseReplay data.responseReplay key
      (encodeServiceFrame rebound) data.responseReplayLimit
    seenRequestKeys := rememberBoundedServiceKey data.seenRequestKeys
      (rebound.clientEndpointId ++ octets "||request|" ++ signedDecimal rebound.sequenceId.toInt)
      data.dedupeHistoryLimit }

/-- One line of the file, where `none` stands for a line that is passed over. -/
def loadReplayLine (data : FleetQoxServiceData) (line : Bytes) :
    Cpp (Option FleetQoxServiceData) :=
  match cut 9 line with
  | none => .ok none
  | some (key, text) =>
      match decodeDurableReplayHex text with
      | none => .ok none
      | some encoded => do
          match ← decodeServiceFrame encoded with
          | none => return none
          | some frame =>
              if frame.role ≠ octets "response" ∨ frame.domainId ≠ data.domainId ∨
                  frame.serviceName ≠ data.serviceName ∨ frame.typeName ≠ data.typeName ∨
                  key ≠ serviceResponseReplayKey frame.clientEndpointId frame.sequenceId then
                return none
              else return some (data.storeLoaded key frame)

/-- `while (loaded < response_replay_limit && std::getline(input, line))` -/
def loadReplayLines (data : FleetQoxServiceData) (loaded : Nat) :
    List Bytes → Cpp (Nat × FleetQoxServiceData)
  | [] => .ok (loaded, data)
  | line :: rest =>
      if loaded < data.responseReplayLimit then do
        match ← data.loadReplayLine line with
        | none => loadReplayLines data loaded rest
        | some data => loadReplayLines data (loaded + 1) rest
      else .ok (loaded, data)

/-- `load_durable_service_replays`, with what the file holds if there is one. -/
def loadDurableServiceReplays (data : FleetQoxServiceData) (file : Option Bytes) :
    Cpp (Nat × FleetQoxServiceData) :=
  match file.map (lines 10) with
  | some (header :: rest) =>
      if header = replayHeader then data.loadReplayLines 0 rest else .ok (0, data)
  | _ => .ok (0, data)

end FleetQoxServiceData

/-! ## Runs with restarts -/

/-- What a service is created with each time. -/
structure ServiceSettings where
  serviceName : Bytes
  typeName : Bytes
  domainId : UInt64
  depth : Nat
  lifespan : RmwTime
  env : ServiceEnvironment

def ServiceSettings.create (settings : ServiceSettings) (endpointId : Bytes) :
    FleetQoxServiceData :=
  allocateServiceData settings.serviceName settings.typeName settings.domainId endpointId
    settings.depth settings.lifespan settings.env

/-- `allocate_service_endpoint_id` of a service, where the socket is bound to an endpoint or to
    none. -/
def allocateServiceEndpointId (boundEndpoint : Bytes) (id : Nat) : Bytes :=
  (if boundEndpoint ≠ [] then boundEndpoint ++ octets "|" else octets "local|") ++
    octets "fsvccpp-" ++ decimal id

inductive DurableEvent where
  | arrives (frame : ServiceFrame) (arrival : FleetQoxServiceData.Arrival)
  | takes (clocks : FleetQoxServiceData.TurnClocks) (deserializes : Bool)
  | responds (call : FleetQoxServiceData.SendResponse)
  | restarts (boundEndpoint : Bytes) (id : Nat)

/-- A service and its file. -/
structure DurableService where
  data : FleetQoxServiceData
  replayFile : Option Bytes := none
  deriving Repr, DecidableEq

namespace DurableService

/-- Each response is persisted before the call returns. -/
def step (settings : ServiceSettings) (gidSize : Nat) (s : DurableService) :
    DurableEvent → Option DurableService
  | .arrives frame arrival => some { s with data := (s.data.handleServiceFrame frame arrival).2 }
  | .takes clocks deserializes =>
      some { s with data := (s.data.rmwTakeRequest gidSize clocks deserializes).2 }
  | .responds call =>
      match s.data.rmwSendResponse call with
      | (none, data) => some { s with data }
      | (some _, data) => some ⟨data, some data.durableServiceReplaySnapshot⟩
  | .restarts boundEndpoint id =>
      match (settings.create (allocateServiceEndpointId boundEndpoint id)).loadDurableServiceReplays
        s.replayFile with
      | .ok (_, data) => some { s with data }
      | .error _ => none

end DurableService

/-! ## Frames that are read again -/

/-- Neither the service nor the client of a response has a name that hides a value behind it, and
    its numbers can be read. -/
structure ServiceFrame.Legible (f : ServiceFrame) : Prop where
  typeName : shadowed [f.serviceName] "type_name" = false
  clientEndpointId : shadowed [f.serviceName, f.typeName] "client_endpoint_id" = false
  sequenceId : 0 ≤ f.sequenceId ∧
    shadowed [f.serviceName, f.typeName, f.clientEndpointId] "sequence_id" = false
  sourceTimestampNs : 0 ≤ f.sourceTimestampNs ∧
    shadowed [f.serviceName, f.typeName, f.clientEndpointId] "source_timestamp_ns" = false
  lifespanNs : 0 ≤ f.lifespanNs ∧ (f.lifespanNs ≠ 0 →
    shadowed [f.serviceName, f.typeName, f.clientEndpointId] "lifespan_ns" = false)
  serializedPayload : f.serializedPayload ≠ [] →
    shadowed [f.serviceName, f.typeName, f.clientEndpointId] "serialized_payload" = false

/-- The response that a call sends can be read again. -/
def DurableService.Legible (s : DurableService) : DurableEvent → Prop
  | .responds call =>
      ∀ client ∈ s.data.responseTarget call, client ≠ [] → (s.data.responseFrame client call).Legible
  | _ => True

/-! ## Digits are read again -/

theorem hexNibble_hexDigit {n : Nat} (small : n < 16) :
    hexNibble (hexDigit n) = some (UInt8.ofNat n) ∧ hexDigit n ≠ 10 := by
  have all : ∀ n : Fin 16, hexNibble (hexDigit n) = some (UInt8.ofNat n) ∧ hexDigit n ≠ 10 := by
    decide
  exact all ⟨n, small⟩

theorem nibbles_join (byte : UInt8) :
    (UInt8.ofNat (byte.toNat / 16) <<< 4) ||| UInt8.ofNat (byte.toNat % 16) = byte := by
  have all : ∀ n : Fin 256, (UInt8.ofNat (n / 16) <<< 4) ||| UInt8.ofNat (n % 16) =
      UInt8.ofNat n := by
    decide +kernel
  have here := all ⟨byte.toNat, byte.toNat_lt⟩
  rwa [UInt8.ofNat_toNat] at here

theorem decodeDurableReplayHex_hexText (decoded : Bytes) :
    decodeDurableReplayHex (hexText decoded) = some decoded := by
  induction decoded with
  | nil => rfl
  | cons byte decoded ih =>
      have high := hexNibble_hexDigit (n := byte.toNat / 16) (by have := byte.toNat_lt; omega)
      have low := hexNibble_hexDigit (n := byte.toNat % 16) (by omega)
      have shape : hexText (byte :: decoded) =
          hexDigit (byte.toNat / 16) :: hexDigit (byte.toNat % 16) :: hexText decoded := rfl
      rw [shape, decodeDurableReplayHex, high.1, low.1]
      simp only [ih, Option.map_some, nibbles_join]

theorem hexText_oneLine (decoded : Bytes) : 10 ∉ hexText decoded := by
  intro among
  obtain ⟨byte, -, digit⟩ := List.mem_flatMap.mp among
  have small := byte.toNat_lt
  rcases List.mem_cons.mp digit with first | second
  · exact (hexNibble_hexDigit (n := byte.toNat / 16) (by omega)).2 first.symm
  · exact (hexNibble_hexDigit (n := byte.toNat % 16) (by omega)).2
      (List.mem_singleton.mp second).symm

/-! ## Endpoints hide nothing -/

def EndsInDigit (text : Bytes) : Prop := ∃ front c, text = front ++ [c] ∧ isDecimal c

theorem allocateServiceEndpointId_endsInDigit (boundEndpoint : Bytes) (id : Nat) :
    EndsInDigit (allocateServiceEndpointId boundEndpoint id) := by
  have some_ := decimal_ne_nil id
  refine ⟨(if boundEndpoint ≠ [] then boundEndpoint ++ octets "|" else octets "local|") ++
    octets "fsvccpp-" ++ (decimal id).dropLast, (decimal id).getLast some_, ?_, ?_⟩
  · rw [List.append_assoc, List.dropLast_append_getLast]
    rfl
  · exact decimal_isDecimal id _ (List.getLast_mem some_)

/-- No key ends in a digit. -/
theorem EndsInDigit.not_shadows {text key : Bytes} {c : UInt8} (digit : EndsInDigit text)
    (letter : isDecimal c = false) : shadows text (key ++ [c]) = false := by
  obtain ⟨front, d, rfl, digit⟩ := digit
  rw [← Bool.not_eq_true, shadows_iff]
  rintro ⟨behind, same⟩
  rw [← List.cons_append, ← List.append_assoc, ← List.cons_append] at same
  have last : c = d := (List.append_inj' same rfl).2 |> List.singleton_inj.mp
  rw [last, digit] at letter
  cases letter

/-! ## Stored responses -/

namespace ServiceFrame

variable {f : ServiceFrame}

/-- A response of a service, and a text that decodes to it but for the service's endpoint. -/
structure Response (settings : ServiceSettings) (f : ServiceFrame) : Prop where
  role : f.role = octets "response"
  serviceName : f.serviceName = settings.serviceName
  typeName : f.typeName = settings.typeName
  domainId : f.domainId = settings.domainId
  clientWeight : 1 ≤ f.clientWeight
  enqueued : f.localEnqueueTimestampNs = 0
  endpoint : EndsInDigit f.serviceEndpointId
  legible : f.Legible

/-- The same frame of a service with another endpoint. -/
def rebound (endpointId : Bytes) (f : ServiceFrame) : ServiceFrame :=
  { f with serviceEndpointId := endpointId }

theorem shadowed_names (key : String) (front : Bytes) {c : UInt8}
    (role : f.role = octets "response") (endpoint : EndsInDigit f.serviceEndpointId)
    (response : shadows (octets "response") (octets key) = false)
    (last : octets key = front ++ [c]) (letter : isDecimal c = false) :
    shadowed f.names key = shadowed [f.serviceName, f.typeName, f.clientEndpointId] key := by
  have ending : shadows f.serviceEndpointId (octets key) = false := by
    rw [last]
    exact endpoint.not_shadows letter
  simp [names, role, response, ending]

theorem Response.decode {settings : ServiceSettings} (response : f.Response settings) :
    ∃ endpointId, decodeServiceFrame (encodeServiceFrame f) =
      .ok (some (f.rebound endpointId)) := by
  obtain ⟨role, -, -, -, weight, enqueued, endpoint, legible⟩ := response
  have sequence := shadowed_names "sequence_id" (octets "sequence_i") (c := 100) role
    endpoint (by decide) (by decide) rfl
  have timestamp := shadowed_names "source_timestamp_ns" (octets "source_timestamp_n") (c := 115)
    role endpoint (by decide) (by decide) rfl
  have lifespan := shadowed_names "lifespan_ns" (octets "lifespan_n") (c := 115) role
    endpoint (by decide) (by decide) rfl
  have payload := shadowed_names "serialized_payload" (octets "serialized_payloa") (c := 100)
    role endpoint (by decide) (by decide) rfl
  have first : ∀ key, shadows (octets "response") (octets key) = false → ∀ vs,
      shadowed (f.role :: vs) key = shadowed vs key := by
    intro key apart vs
    rw [shadowed_cons, role, apart, Bool.false_or]
  have found : f.identitiesFound := by
    rw [identitiesFound_iff, sequence, timestamp, first _ (by decide), first _ (by decide),
      first _ (by decide)]
    exact ⟨rfl, legible.typeName, legible.clientEndpointId, legible.sequenceId.2,
      legible.sequenceId.1, legible.sourceTimestampNs.2, legible.sourceTimestampNs.1⟩
  refine ⟨f.reread.serviceEndpointId, ?_⟩
  rw [decodeServiceFrame_encodeServiceFrame, if_pos found]
  congr 2
  apply ServiceFrame.ext <;> try rfl
  · change (if shadowed f.names "lifespan_ns" ∨ f.lifespanNs < 0 then 0 else f.lifespanNs) = _
    have positive : ¬f.lifespanNs < 0 := Int64.not_lt.mpr legible.lifespanNs.1
    rw [if_congr (or_iff_left positive) rfl rfl, lifespan]
    exact DataFrame.lost_eq_value.mpr legible.lifespanNs.2
  · change (if shadowed f.names "serialized_payload" then [] else f.serializedPayload) = _
    rw [payload]
    exact DataFrame.lost_eq_value.mpr legible.serializedPayload
  · exact enqueued.symm
  · exact if_neg (UInt64.not_lt.mpr weight)

theorem Response.rebound {settings : ServiceSettings} {endpointId : Bytes}
    (response : f.Response settings) (digit : EndsInDigit endpointId) :
    (f.rebound endpointId).Response settings :=
  ⟨response.role, response.serviceName, response.typeName, response.domainId,
    response.clientWeight, response.enqueued, digit,
    ⟨response.legible.typeName, response.legible.clientEndpointId, response.legible.sequenceId,
      response.legible.sourceTimestampNs, response.legible.lifespanNs,
      response.legible.serializedPayload⟩⟩

/-- The key and the text under which a response is stored. -/
def stored (f : ServiceFrame) : Bytes × Bytes := (f.request.replayKey, encodeServiceFrame f)

end ServiceFrame

/-! ## The file is read again -/

namespace FleetQoxServiceData

variable {settings : ServiceSettings} {data : FleetQoxServiceData} {f : ServiceFrame}
  {fs : List ServiceFrame}

/-- The fields that a service keeps from its creation on. -/
structure Serves (settings : ServiceSettings) (data : FleetQoxServiceData) : Prop where
  serviceName : data.serviceName = settings.serviceName
  typeName : data.typeName = settings.typeName
  domainId : data.domainId = settings.domainId
  endpoint : EndsInDigit data.endpointId
  responseReplayLimit : data.responseReplayLimit = (settings.create []).responseReplayLimit
  dedupeHistoryLimit : data.dedupeHistoryLimit = (settings.create []).dedupeHistoryLimit

theorem cut_replayLine (fits : fitsLine f.request.replayKey) :
    cut 9 (replayLine f.stored) = some (f.request.replayKey, hexText (encodeServiceFrame f)) := by
  rw [fitsLine, Bool.and_eq_true, decide_eq_true_eq, decide_eq_true_eq] at fits
  exact cut_append fits.1

theorem replayLine_oneLine (fits : fitsLine f.request.replayKey) : 10 ∉ replayLine f.stored := by
  rw [fitsLine, Bool.and_eq_true, decide_eq_true_eq, decide_eq_true_eq] at fits
  intro among
  rcases List.mem_append.mp among with key | rest
  · exact fits.2 key
  · rcases List.mem_cons.mp rest with tab | digit
    · exact absurd tab (by decide)
    · exact hexText_oneLine _ digit

/-- A line gives back the response that it was written for. -/
theorem loadReplayLine_stored (serves : data.Serves settings) (response : f.Response settings)
    (fits : fitsLine f.request.replayKey) :
    data.loadReplayLine (replayLine f.stored) =
      .ok (some (data.storeLoaded f.request.replayKey f)) := by
  obtain ⟨endpointId, decodes⟩ := response.decode
  have accepted : ¬((f.rebound endpointId).role ≠ octets "response" ∨
      (f.rebound endpointId).domainId ≠ data.domainId ∨
      (f.rebound endpointId).serviceName ≠ data.serviceName ∨
      (f.rebound endpointId).typeName ≠ data.typeName ∨
      f.request.replayKey ≠ serviceResponseReplayKey (f.rebound endpointId).clientEndpointId
        (f.rebound endpointId).sequenceId) := by
    have role : (f.rebound endpointId).role = octets "response" := response.role
    have domain : (f.rebound endpointId).domainId = data.domainId :=
      response.domainId.trans serves.domainId.symm
    have service : (f.rebound endpointId).serviceName = data.serviceName :=
      response.serviceName.trans serves.serviceName.symm
    have type : (f.rebound endpointId).typeName = data.typeName :=
      response.typeName.trans serves.typeName.symm
    have key : serviceResponseReplayKey (f.rebound endpointId).clientEndpointId
        (f.rebound endpointId).sequenceId = f.request.replayKey := rfl
    simp only [role, domain, service, type, key, ne_eq, not_true_eq_false, or_self,
      not_false_eq_true]
  have same : data.storeLoaded f.request.replayKey (f.rebound endpointId) =
      data.storeLoaded f.request.replayKey f := rfl
  unfold loadReplayLine
  rw [cut_replayLine fits]
  simp only [decodeDurableReplayHex_hexText, decodes, ok_bind, if_neg accepted, same]
  rfl

/-- A response that is not stored yet comes behind the others. -/
theorem storeLoaded_new (few : data.responseReplay.length < data.responseReplayLimit)
    (new : data.responseReplay.get? f.request.replayKey = none)
    (unseen : f.request.dedupeKey ∉ data.seenRequestKeys) :
    data.storeLoaded f.request.replayKey f = { data with
      responseReplay := data.responseReplay ++ [(f.rebound data.endpointId).stored]
      seenRequestKeys := popWhileLonger data.dedupeHistoryLimit
        (data.seenRequestKeys ++ [f.request.dedupeKey]) } := by
  have replay : storeBoundedServiceResponseReplay data.responseReplay f.request.replayKey
      (encodeServiceFrame (f.rebound data.endpointId)) data.responseReplayLimit =
      data.responseReplay ++ [(f.rebound data.endpointId).stored] := by
    rw [storeBoundedServiceResponseReplay, Dict.set_of_absent new]
    apply popWhileLonger_of_le
    rw [List.length_append, List.length_singleton]
    exact few
  have seen : rememberBoundedServiceKey data.seenRequestKeys f.request.dedupeKey
      data.dedupeHistoryLimit = popWhileLonger data.dedupeHistoryLimit
        (data.seenRequestKeys ++ [f.request.dedupeKey]) := if_neg unseen
  rw [← replay, ← seen]
  rfl

/-- What loading adds to a service. -/
def withLoaded (data : FleetQoxServiceData) (fs : List ServiceFrame) : FleetQoxServiceData :=
  { data with
    responseReplay := data.responseReplay ++ fs.map fun f => (f.rebound data.endpointId).stored
    seenRequestKeys := popWhileLonger data.dedupeHistoryLimit
      (data.seenRequestKeys ++ fs.map fun f => f.request.dedupeKey) }

theorem loadReplayLines_stored (loaded : Nat) (serves : data.Serves settings)
    (responses : ∀ f ∈ fs, f.Response settings ∧ fitsLine f.request.replayKey)
    (distinct : (data.responseReplay.map Prod.fst ++ fs.map fun f => f.request.replayKey).Nodup)
    (unseen : ∀ f ∈ fs, f.request.dedupeKey ∉ data.seenRequestKeys)
    (few : data.seenRequestKeys.length ≤ data.dedupeHistoryLimit)
    (count : data.responseReplay.length = loaded)
    (room : loaded + fs.length ≤ data.responseReplayLimit) :
    data.loadReplayLines loaded (fs.map fun f => replayLine f.stored) =
      .ok (loaded + fs.length, data.withLoaded fs) := by
  induction fs generalizing data loaded with
  | nil =>
      have same : data.withLoaded [] = data := by
        simp only [withLoaded, List.map_nil, List.append_nil, popWhileLonger_of_le few]
      rw [same]
      rfl
  | cons f fs ih =>
      obtain ⟨response, fits⟩ := responses f List.mem_cons_self
      obtain ⟨-, newDistinct, apart⟩ := List.nodup_append.mp distinct
      have once := (List.nodup_cons.mp newDistinct).1
      rw [List.length_cons] at room
      have absent : data.responseReplay.get? f.request.replayKey = none := by
        apply Option.eq_none_iff_forall_ne_some.mpr
        intro text held
        exact apart _ (List.mem_map_of_mem (Dict.mem_of_get? held)) _ List.mem_cons_self rfl
      have first : data.loadReplayLine (replayLine f.stored) = .ok (some (data.withLoaded [f])) := by
        rw [loadReplayLine_stored serves response fits, storeLoaded_new (by omega) absent
          (unseen f List.mem_cons_self)]
        rfl
      have later := @ih (data.withLoaded [f]) (loaded + 1)
        ⟨serves.serviceName, serves.typeName, serves.domainId, serves.endpoint,
          serves.responseReplayLimit, serves.dedupeHistoryLimit⟩
        (fun g among => responses g (List.mem_cons_of_mem _ among))
        (by
          rw [List.map_cons, ← List.singleton_append, ← List.append_assoc] at distinct
          simp only [withLoaded, List.map_append]
          exact distinct)
        (by
          intro g among seen
          rcases List.mem_append.mp ((popWhileLonger_sublist _ _).subset seen) with old | new
          · exact unseen g (List.mem_cons_of_mem _ among) old
          · have same := ServiceRequest.dedupeKey_injective (List.mem_singleton.mp new)
            exact once (List.mem_map.mpr ⟨g, among, congrArg ServiceRequest.replayKey same⟩))
        (length_popWhileLonger_le _ _)
        (by simp only [withLoaded, List.length_append, count, List.map_cons, List.map_nil,
          List.length_singleton])
        (by
          change loaded + 1 + fs.length ≤ data.responseReplayLimit
          omega)
      have whole : (data.withLoaded [f]).withLoaded fs = data.withLoaded (f :: fs) := by
        simp only [withLoaded, popWhileLonger_append, List.append_assoc, List.map_cons,
          List.map_nil, List.singleton_append]
      rw [whole] at later
      rw [List.map_cons, loadReplayLines, if_pos (by omega), first, ok_bind]
      simp only [later, List.length_cons, Nat.add_assoc, Nat.add_comm 1]

/-- The file in which these responses stand. -/
def replayText (fs : List ServiceFrame) : Bytes :=
  unlines 10 (replayHeader :: fs.map fun f => replayLine f.stored)

/-- The responses that a line can hold. -/
def written (fs : List ServiceFrame) : List ServiceFrame :=
  fs.filter fun f => fitsLine f.request.replayKey

theorem snapshot_eq (replay : data.responseReplay = fs.map ServiceFrame.stored) :
    data.durableServiceReplaySnapshot = replayText (written fs) := by
  rw [durableServiceReplaySnapshot, replay, List.filter_map, List.map_map]
  rfl

theorem serves_create (settings : ServiceSettings) {endpointId : Bytes}
    (digit : EndsInDigit endpointId) : (settings.create endpointId).Serves settings :=
  ⟨rfl, rfl, rfl, digit, rfl, rfl⟩

/-- A service that is created finds the responses of its file. -/
theorem load_replayText {endpointId : Bytes} (digit : EndsInDigit endpointId)
    (responses : ∀ f ∈ fs, f.Response settings ∧ fitsLine f.request.replayKey)
    (distinct : (fs.map fun f => f.request.replayKey).Nodup)
    (room : fs.length ≤ (settings.create []).responseReplayLimit) :
    (settings.create endpointId).loadDurableServiceReplays (some (replayText fs)) =
      .ok (fs.length, (settings.create endpointId).withLoaded fs) := by
  have header : 10 ∉ replayHeader := by decide
  have text : lines 10 (replayText fs) = replayHeader :: fs.map fun f => replayLine f.stored := by
    apply lines_unlines
    intro line among
    rcases List.mem_cons.mp among with rfl | later
    · exact header
    · obtain ⟨f, inside, rfl⟩ := List.mem_map.mp later
      exact replayLine_oneLine (responses f inside).2
  have loads := loadReplayLines_stored 0 (serves_create settings digit) responses distinct
    (fun _ _ seen => absurd seen List.not_mem_nil) (Nat.zero_le _) rfl
    (by rw [Nat.zero_add]; exact room)
  rw [Nat.zero_add] at loads
  rw [loadDurableServiceReplays, Option.map_some, text]
  simp only [if_true, loads]

end FleetQoxServiceData

/-! ## What a run leaves in the file -/

namespace DurableService

open FleetQoxServiceData

variable {settings : ServiceSettings} {gidSize : Nat} {s s' : DurableService}
  {fs : List ServiceFrame} {events : List DurableEvent}

/-- The stored responses of a service are these, and its file holds those of them that a line can
    hold, each from some endpoint of the service. -/
structure Holds (settings : ServiceSettings) (s : DurableService) (fs : List ServiceFrame) :
    Prop where
  serves : s.data.Serves settings
  replay : s.data.responseReplay = fs.map ServiceFrame.stored
  responses : ∀ f ∈ fs, f.Response settings
  distinct : (fs.map fun f => f.request.replayKey).Nodup
  few : fs.length ≤ (settings.create []).responseReplayLimit
  file : ∃ ws, (s.replayFile = some (replayText ws) ∨ s.replayFile = none ∧ ws = []) ∧
    (∀ f ∈ ws, f.Response settings ∧ fitsLine f.request.replayKey) ∧
    ws.map (ServiceFrame.rebound []) = (written fs).map (ServiceFrame.rebound [])

theorem map_rebound_congr {ws : List ServiceFrame} {α : Type} (g : ServiceFrame → α)
    (blind : ∀ f, g (f.rebound []) = g f)
    (same : ws.map (ServiceFrame.rebound []) = fs.map (ServiceFrame.rebound [])) :
    ws.map g = fs.map g := by
  have through : ∀ l : List ServiceFrame, (l.map (ServiceFrame.rebound [])).map g = l.map g := by
    intro l
    rw [List.map_map]
    exact List.map_congr_left fun f _ => blind f
  rw [← through, same, through]

/-- Loading restores the stored responses that a line can hold. -/
theorem Holds.loads (holds : Holds settings s fs) {endpointId : Bytes}
    (digit : EndsInDigit endpointId) :
    (settings.create endpointId).loadDurableServiceReplays s.replayFile =
      .ok ((written fs).length, (settings.create endpointId).withLoaded (written fs)) := by
  obtain ⟨ws, file, responses, same⟩ := holds.file
  have keys := map_rebound_congr (fun f => f.request.replayKey) (fun _ => rfl) same
  have dedupe := map_rebound_congr (fun f => f.request.dedupeKey) (fun _ => rfl) same
  have texts := map_rebound_congr (fun f => (f.rebound endpointId).stored) (fun _ => rfl) same
  have size : ws.length = (written fs).length := by
    have lengths := congrArg List.length keys
    rwa [List.length_map, List.length_map] at lengths
  have loaded : (settings.create endpointId).withLoaded ws =
      (settings.create endpointId).withLoaded (written fs) := by
    have texts' : (ws.map fun f => (f.rebound (settings.create endpointId).endpointId).stored) =
      (written fs).map fun f => (f.rebound (settings.create endpointId).endpointId).stored := texts
    rw [withLoaded, withLoaded, texts', dedupe]
  rw [← size, ← loaded]
  rcases file with file | ⟨file, rfl⟩
  · rw [file]
    apply load_replayText digit responses
    · rw [keys]
      exact holds.distinct.sublist (List.filter_sublist.map _)
    · rw [size]
      exact (List.length_filter_le _ _).trans holds.few
  · rw [file]
    rfl

theorem holds_create (settings : ServiceSettings) {endpointId : Bytes}
    (digit : EndsInDigit endpointId) : Holds settings ⟨settings.create endpointId, none⟩ [] where
  serves := serves_create settings digit
  replay := rfl
  responses _ among := by cases among
  distinct := List.nodup_nil
  few := Nat.zero_le _
  file := ⟨[], .inr ⟨rfl, rfl⟩, fun _ among => absurd among List.not_mem_nil, rfl⟩

/-- What changes neither the stored responses nor the file. -/
theorem Holds.of_data (holds : Holds settings s fs) {data : FleetQoxServiceData}
    (serves : data.Serves settings) (replay : data.responseReplay = s.data.responseReplay) :
    Holds settings { s with data } fs :=
  ⟨serves, replay.trans holds.replay, holds.responses, holds.distinct, holds.few, holds.file⟩

theorem Holds.arrives (holds : Holds settings s fs) (frame : ServiceFrame) (arrival : Arrival) :
    Holds settings { s with data := (s.data.handleServiceFrame frame arrival).2 } fs := by
  cases handleServiceFrame_cases s.data frame arrival with
  | inl same =>
      rw [same]
      exact holds
  | inr queues =>
      obtain ⟨-, -, -, queued⟩ := queues
      rw [queued]
      have serves := holds.serves
      exact holds.of_data ⟨serves.serviceName, serves.typeName, serves.domainId, serves.endpoint,
        serves.responseReplayLimit, serves.dedupeHistoryLimit⟩ rfl

theorem Holds.takes (holds : Holds settings s fs) (clocks : TurnClocks) (deserializes : Bool) :
    Holds settings { s with data := (s.data.rmwTakeRequest gidSize clocks deserializes).2 } fs := by
  cases call : s.data.rmwTakeRequest gidSize clocks deserializes with
  | mk taken data =>
      obtain ⟨⟨queue, last, weights, pending, rfl, -⟩, -⟩ := rmwTakeRequest_takes call
      have serves := holds.serves
      exact holds.of_data ⟨serves.serviceName, serves.typeName, serves.domainId, serves.endpoint,
        serves.responseReplayLimit, serves.dedupeHistoryLimit⟩ rfl

/-- A response that is stored takes the place of the one under its key or comes last. -/
theorem set_stored (fs : List ServiceFrame) (f : ServiceFrame) :
    ∃ fs' : List ServiceFrame,
      Dict.set (fs.map ServiceFrame.stored) f.request.replayKey (encodeServiceFrame f) =
        fs'.map ServiceFrame.stored ∧ ∀ g ∈ fs', g = f ∨ g ∈ fs := by
  induction fs with
  | nil => exact ⟨[f], rfl, fun g among => .inl (List.mem_singleton.mp among)⟩
  | cons e fs ih =>
      obtain ⟨fs', stored, old⟩ := ih
      rw [List.map_cons, Dict.set]
      split
      case isTrue =>
        refine ⟨f :: fs, ?_, ?_⟩
        · rw [List.map_cons]
          rfl
        · intro g among
          exact (List.mem_cons.mp among).imp_right (List.mem_cons_of_mem _)
      case isFalse =>
        refine ⟨e :: fs', by rw [stored, List.map_cons], ?_⟩
        intro g among
        rcases List.mem_cons.mp among with rfl | later
        · exact .inr List.mem_cons_self
        · exact (old g later).imp_right (List.mem_cons_of_mem _)

theorem map_stored_keys (fs : List ServiceFrame) :
    (fs.map ServiceFrame.stored).map Prod.fst = fs.map fun f => f.request.replayKey := by
  rw [List.map_map]
  rfl

theorem responseFrame_response {data : FleetQoxServiceData} {call : SendResponse} {client : Bytes}
    (serves : data.Serves settings) (legible : (data.responseFrame client call).Legible) :
    (data.responseFrame client call).Response settings :=
  ⟨rfl, serves.serviceName, serves.typeName, serves.domainId, UInt64.le_refl 1, rfl,
    serves.endpoint, legible⟩

/-- A response that is stored and persisted. -/
theorem Holds.persists (holds : Holds settings s fs) {f : ServiceFrame} {data : FleetQoxServiceData}
    (response : f.Response settings) (serves : data.Serves settings)
    (replay : data.responseReplay = popWhileLonger s.data.responseReplayLimit
      (s.data.responseReplay.set f.request.replayKey (encodeServiceFrame f))) :
    ∃ fs', Holds settings ⟨data, some data.durableServiceReplaySnapshot⟩ fs' := by
  obtain ⟨all, stored, old⟩ := set_stored fs f
  have responses : ∀ g ∈ all, g.Response settings := by
    intro g among
    rcases old g among with rfl | before
    · exact response
    · exact holds.responses g before
  have distinct : (all.map fun f => f.request.replayKey).Nodup := by
    rw [← map_stored_keys, ← stored]
    apply Dict.nodup_keys_set
    rw [map_stored_keys]
    exact holds.distinct
  have kept : data.responseReplay =
      (popWhileLonger s.data.responseReplayLimit all).map ServiceFrame.stored := by
    rw [replay, holds.replay, stored, popWhileLonger_eq_drop, popWhileLonger_eq_drop, List.map_drop,
      List.length_map]
  have within := popWhileLonger_sublist s.data.responseReplayLimit all
  refine ⟨popWhileLonger s.data.responseReplayLimit all, serves, kept,
    fun g among => responses g (within.subset among), distinct.sublist (within.map _), ?_,
    written (popWhileLonger s.data.responseReplayLimit all), .inl ?_, ?_, rfl⟩
  · rw [← holds.serves.responseReplayLimit]
    exact length_popWhileLonger_le _ _
  · rw [snapshot_eq kept]
  · intro g among
    obtain ⟨inside, fits⟩ := List.mem_filter.mp among
    exact ⟨responses g (within.subset inside), fits⟩

theorem Holds.restarts (holds : Holds settings s fs) {endpointId : Bytes}
    (digit : EndsInDigit endpointId) :
    Holds settings { s with data := (settings.create endpointId).withLoaded (written fs) }
      ((written fs).map (ServiceFrame.rebound endpointId)) := by
  obtain ⟨ws, file, responses, same⟩ := holds.file
  have fits : ∀ f ∈ written fs, fitsLine f.request.replayKey := fun f among =>
    (List.mem_filter.mp among).2
  have all : written ((written fs).map (ServiceFrame.rebound endpointId)) =
      (written fs).map (ServiceFrame.rebound endpointId) := by
    apply List.filter_eq_self.mpr
    intro g among
    obtain ⟨f, inside, rfl⟩ := List.mem_map.mp among
    exact fits f inside
  refine ⟨⟨rfl, rfl, rfl, digit, rfl, rfl⟩, ?_, ?_, ?_, ?_, ws, file, responses, ?_⟩
  · rw [List.map_map]
    exact List.nil_append _
  · intro g among
    obtain ⟨f, inside, rfl⟩ := List.mem_map.mp among
    exact (holds.responses f (List.mem_of_mem_filter inside)).rebound digit
  · rw [List.map_map]
    exact holds.distinct.sublist (List.filter_sublist.map _)
  · rw [List.length_map]
    exact (List.length_filter_le _ _).trans holds.few
  · rw [all, List.map_map]
    exact same

theorem holds_of_step {e : DurableEvent} (holds : ∃ fs, Holds settings s fs) (legible : s.Legible e)
    (h : step settings gidSize s e = some s') : ∃ fs, Holds settings s' fs := by
  obtain ⟨fs, holds⟩ := holds
  cases e with
  | arrives frame arrival =>
      rw [← Option.some.inj h]
      exact ⟨fs, holds.arrives frame arrival⟩
  | takes clocks deserializes =>
      rw [← Option.some.inj h]
      exact ⟨fs, holds.takes clocks deserializes⟩
  | responds call =>
      have serves := holds.serves
      simp only [step] at h
      cases rmwSendResponse_cases s.data call with
      | inl nothing =>
          obtain ⟨pending, sends⟩ := nothing
          rw [sends] at h
          rw [← Option.some.inj h]
          exact ⟨fs, holds.of_data ⟨serves.serviceName, serves.typeName, serves.domainId,
            serves.endpoint, serves.responseReplayLimit, serves.dedupeHistoryLimit⟩ rfl⟩
      | inr sends =>
          obtain ⟨client, pending, target, nonempty, sends⟩ := sends
          have response := responseFrame_response serves (legible client target nonempty)
          rw [sends] at h
          rw [← Option.some.inj h]
          exact holds.persists response ⟨serves.serviceName, serves.typeName, serves.domainId,
            serves.endpoint, serves.responseReplayLimit, serves.dedupeHistoryLimit⟩ rfl
  | restarts boundEndpoint id =>
      have digit := allocateServiceEndpointId_endsInDigit boundEndpoint id
      simp only [step, holds.loads digit] at h
      rw [← Option.some.inj h]
      exact ⟨_, holds.restarts digit⟩

theorem holds_of_run (holds : ∃ fs, Holds settings s fs)
    (legible : RunMeets (step settings gidSize) Legible s events)
    (h : run (step settings gidSize) s events = some s') : ∃ fs, Holds settings s' fs :=
  run_invariant (fun holds legible taken => holds_of_step holds legible taken) holds legible h

/-- After any run a service that is created again restores the stored responses whose keys hold no
    tab and no end of a line, in their order and with nothing changed but its own endpoint, and
    remembers the newest of their requests. -/
theorem restart_restores (settings : ServiceSettings) (gidSize : Nat) (boundEndpoint : Bytes)
    (id : Nat) {events : List DurableEvent} {s : DurableService}
    (legible : RunMeets (step settings gidSize) Legible
      ⟨settings.create (allocateServiceEndpointId boundEndpoint id), none⟩ events)
    (h : run (step settings gidSize)
      ⟨settings.create (allocateServiceEndpointId boundEndpoint id), none⟩ events = some s) :
    ∃ fs : List ServiceFrame, s.data.responseReplay = fs.map ServiceFrame.stored ∧
      ∀ boundEndpoint' id', ∃ restored,
        (settings.create (allocateServiceEndpointId boundEndpoint' id')).loadDurableServiceReplays
          s.replayFile = .ok ((written fs).length, restored) ∧
        restored.responseReplay = (written fs).map (fun f =>
          (f.rebound (allocateServiceEndpointId boundEndpoint' id')).stored) ∧
        restored.seenRequestKeys = ((written fs).map fun f => f.request.dedupeKey).drop
          ((written fs).length - s.data.dedupeHistoryLimit) := by
  obtain ⟨fs, holds⟩ := holds_of_run
    ⟨[], holds_create settings (allocateServiceEndpointId_endsInDigit boundEndpoint id)⟩ legible h
  refine ⟨fs, holds.replay, fun boundEndpoint' id' => ?_⟩
  have digit := allocateServiceEndpointId_endsInDigit boundEndpoint' id'
  refine ⟨_, holds.loads digit, List.nil_append _, ?_⟩
  rw [holds.serves.dedupeHistoryLimit]
  change popWhileLonger _ ((written fs).map fun f => f.request.dedupeKey) = _
  rw [popWhileLonger_eq_drop, List.length_map]
  rfl

/-! ## A service that is asked once -/

def adderSettings : ServiceSettings := ⟨octets "add", octets "AddTwoInts", 0, 10, {}, {}⟩

/-- The first request of a client, and what `decode_service_frame` makes of its text. -/
def requestOf (client : Bytes) : ServiceFrame :=
  { ServiceRun.addRequest 1 with clientEndpointId := client }

/-- The request arrives, is taken and is answered. -/
def answered (client : Bytes) : List DurableEvent :=
  [.arrives (requestOf client) {}, .takes {} true,
    .responds { requestHeader := ⟨endpointGidFromId 16 client, 1⟩, nowNs := 5 }]

def adderService (id : Nat) : FleetQoxServiceData :=
  adderSettings.create (allocateServiceEndpointId [] id)

/-- The response to a client with a tab in its name is stored, but not restored. -/
theorem tab_not_restored :
    decodeServiceFrame (encodeServiceFrame (requestOf (octets "a\tb"))) =
        .ok (some (requestOf (octets "a\tb"))) ∧
      ∃ s, run (step adderSettings 16) ⟨adderService 1, none⟩ (answered (octets "a\tb")) = some s ∧
        s.data.responseReplay.map Prod.fst = [octets "a\tb|1"] ∧
        (adderService 2).loadDurableServiceReplays s.replayFile = .ok (0, adderService 2) := by
  refine ⟨by decide +kernel, _, rfl, by decide +kernel, by decide +kernel⟩

theorem restart_restores_answered :
    ∃ s, run (step adderSettings 16) ⟨adderService 1, none⟩ (answered (octets "c")) = some s ∧
      ∃ fs : List ServiceFrame, s.data.responseReplay = fs.map ServiceFrame.stored ∧
        ∀ boundEndpoint' id', ∃ restored,
          (adderSettings.create
            (allocateServiceEndpointId boundEndpoint' id')).loadDurableServiceReplays s.replayFile =
              .ok ((written fs).length, restored) ∧
          restored.responseReplay = (written fs).map (fun f =>
            (f.rebound (allocateServiceEndpointId boundEndpoint' id')).stored) ∧
          restored.seenRequestKeys = ((written fs).map fun f => f.request.dedupeKey).drop
            ((written fs).length - s.data.dedupeHistoryLimit) := by
  have legible : RunMeets (step adderSettings 16) Legible ⟨adderService 1, none⟩
      (answered (octets "c")) := by
    apply RunMeets.of_step True.intro rfl
    apply RunMeets.of_step True.intro rfl
    refine ⟨?_, by split <;> exact True.intro⟩
    intro client target nonempty
    obtain rfl : octets "c" = client := Option.some.inj target
    constructor <;> decide +kernel
  exact ⟨_, rfl, restart_restores adderSettings 16 [] 1 legible rfl⟩

end DurableService

end FleetRMW.Rmw
