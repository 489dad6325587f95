import FleetRMW.Lib.ChunkedStream
import FleetRMW.Lib.Unicode

/-! # The protocol between the transport edge and the engine

A request and a response have a header of fixed size with the lengths of the texts behind it. What
the writer accepts is read back, and a stream that ends within it is refused.
-/

namespace FleetRMW.Gateway

open Lib Lib.StreamReader

def requestMagic : Bytes := octets "FQBE2REQ"
def responseMagic : Bytes := octets "FQBE1RES"
def maxMethodBytes : Nat := 16
def maxPathBytes : Nat := 16384
def maxIdentityBytes : Nat := 4096
def maxUint64 : Int := 2 ^ 64 - 1

inductive BackendError where
  /-- `BackendProtocolError`. -/
  | protocol (message : String)
  /-- `UnicodeEncodeError`. -/
  | unicodeEncode
  /-- `struct.error`. -/
  | struct
  deriving Repr, DecidableEq

def truncated : BackendError := .protocol "truncated backend message"

structure PublicQuicPathTelemetry where
  rttInitialized : Bool := false
  smoothedRttUs : Int := 0
  rttvarUs : Int := 0
  streamLossCount : Int := 0
  cwndBytes : Int := 0
  bytesInFlight : Int := 0
  ptoCount : Int := 0
  deriving Repr, DecidableEq

structure BackendRequest where
  method : Str
  path : Str
  clientIdentity : Str
  body : Bytes
  pathTelemetry : PublicQuicPathTelemetry := {}
  deriving Repr, DecidableEq

structure GatewayResponse where
  status : Int
  body : Bytes
  contentType : Str := lit "application/json"
  deriving Repr, DecidableEq

namespace PublicQuicPathTelemetry

def values (telemetry : PublicQuicPathTelemetry) : List Int :=
  [telemetry.smoothedRttUs, telemetry.rttvarUs, telemetry.streamLossCount, telemetry.cwndBytes,
    telemetry.bytesInFlight, telemetry.ptoCount]

/-- `_validate_path_telemetry` -/
def validate (telemetry : PublicQuicPathTelemetry) : Except BackendError Unit := do
  raiseIf (telemetry.values.any fun value => !(0 ≤ value && value ≤ maxUint64))
    (.protocol "invalid backend path telemetry")
  raiseIf (!telemetry.rttInitialized ∧ (telemetry.smoothedRttUs ≠ 0 ∨ telemetry.rttvarUs ≠ 0))
    (.protocol "uninitialized backend RTT telemetry is nonzero")

end PublicQuicPathTelemetry

/-! ## Headers -/

/-- `struct.pack` of an unsigned number. -/
def packUnsigned (width : Nat) (value : Int) : Except BackendError Bytes := do
  raiseIf (¬(0 ≤ value ∧ value < 256 ^ width)) .struct
  return beBytes width value.toNat

/-- `struct.pack` of some octets and of numbers with their widths. -/
def packHeader (magic : Bytes) (numbers : List (Nat × Int)) : Except BackendError Bytes := do
  let packed ← numbers.mapM fun number => packUnsigned number.1 number.2
  return magic ++ packed.flatten

/-- `REQUEST_HEADER`, which is `!8sIIIIIQQQQQQ`. -/
structure RequestHeader where
  magic : Bytes
  methodLength : Nat
  pathLength : Nat
  identityLength : Nat
  bodyLength : Nat
  telemetryFlags : Nat
  smoothedRttUs : Nat
  rttvarUs : Nat
  streamLossCount : Nat
  cwndBytes : Nat
  bytesInFlight : Nat
  ptoCount : Nat

/-- `RESPONSE_HEADER`, which is `!8sIII`. -/
structure ResponseHeader where
  magic : Bytes
  status : Nat
  contentTypeLength : Nat
  bodyLength : Nat

open WireReader in
def readRequestHeader : WireReader RequestHeader := do
  let magic ← take 8
  let methodLength ← fixedBe 4
  let pathLength ← fixedBe 4
  let identityLength ← fixedBe 4
  let bodyLength ← fixedBe 4
  let telemetryFlags ← fixedBe 4
  let smoothedRttUs ← fixedBe 8
  let rttvarUs ← fixedBe 8
  let streamLossCount ← fixedBe 8
  let cwndBytes ← fixedBe 8
  let bytesInFlight ← fixedBe 8
  let ptoCount ← fixedBe 8
  return ⟨magic, methodLength, pathLength, identityLength, bodyLength, telemetryFlags,
    smoothedRttUs, rttvarUs, streamLossCount, cwndBytes, bytesInFlight, ptoCount⟩

open WireReader in
def readResponseHeader : WireReader ResponseHeader := do
  let magic ← take 8
  let status ← fixedBe 4
  let contentTypeLength ← fixedBe 4
  let bodyLength ← fixedBe 4
  return ⟨magic, status, contentTypeLength, bodyLength⟩

/-- `struct.unpack` -/
def unpack {α : Type} (reader : WireReader α) (header : Bytes) : Except BackendError α :=
  match reader header with
  | some (fields, []) => .ok fields
  | _ => .error .struct

/-! ## Writers -/

/-- `s.encode(...)` -/
def encoded (bytes : Option Bytes) : Except BackendError Bytes :=
  match bytes with
  | some bytes => .ok bytes
  | none => .error .unicodeEncode

/-- The numbers of a request's header, with their widths. -/
def requestNumbers (methodLength pathLength identityLength bodyLength : Nat)
    (telemetry : PublicQuicPathTelemetry) : List (Nat × Int) :=
  [(4, methodLength), (4, pathLength), (4, identityLength), (4, bodyLength),
    (4, if telemetry.rttInitialized then 1 else 0), (8, telemetry.smoothedRttUs),
    (8, telemetry.rttvarUs), (8, telemetry.streamLossCount), (8, telemetry.cwndBytes),
    (8, telemetry.bytesInFlight), (8, telemetry.ptoCount)]

def encodeBackendRequest (request : BackendRequest) : Except BackendError Bytes := do
  let method ← encoded (asciiEncode request.method)
  let path ← encoded (utf8Encode request.path)
  let identity ← encoded (utf8Encode request.clientIdentity)
  raiseIf (¬(0 < method.length ∧ method.length ≤ maxMethodBytes))
    (.protocol "invalid backend method length")
  raiseIf (¬(0 < path.length ∧ path.length ≤ maxPathBytes)) (.protocol "invalid backend path length")
  raiseIf (maxIdentityBytes < identity.length) (.protocol "invalid backend identity length")
  raiseIf (0xFFFFFFFF < request.body.length) (.protocol "backend request body too large")
  request.pathTelemetry.validate
  let header ← packHeader requestMagic (requestNumbers method.length path.length identity.length
    request.body.length request.pathTelemetry)
  return header ++ (method ++ (path ++ (identity ++ request.body)))

/-- The numbers of a response's header, with their widths. -/
def responseNumbers (status : Int) (contentTypeLength bodyLength : Nat) : List (Nat × Int) :=
  [(4, status), (4, contentTypeLength), (4, bodyLength)]

def encodeBackendResponse (response : GatewayResponse) : Except BackendError Bytes := do
  let contentType ← encoded (asciiEncode response.contentType)
  raiseIf (4096 < contentType.length ∨ 0xFFFFFFFF < response.body.length)
    (.protocol "backend response too large")
  let header ← packHeader responseMagic (responseNumbers response.status contentType.length
    response.body.length)
  return header ++ (contentType ++ response.body)

/-! ## Readers -/

/-- `bytes.decode(...)`, whose `UnicodeDecodeError` is caught. -/
def decoded (message : String) (text : Option Str) : Except BackendError Str :=
  match text with
  | some text => .ok text
  | none => .error (.protocol message)

/-- `telemetry_flags & ~PATH_TELEMETRY_KNOWN_FLAGS` of a 32-bit number. -/
def unknownFlags (telemetryFlags : Nat) : UInt32 := UInt32.ofNat telemetryFlags &&& ~~~1

def RequestHeader.check (header : RequestHeader) (maxBodyBytes : Nat) : Except BackendError Unit := do
  raiseIf (header.magic ≠ requestMagic) (.protocol "invalid backend request magic")
  raiseIf (unknownFlags header.telemetryFlags ≠ 0)
    (.protocol "unsupported backend path telemetry flags")
  raiseIf (¬(0 < header.methodLength ∧ header.methodLength ≤ maxMethodBytes))
    (.protocol "invalid backend method length")
  raiseIf (¬(0 < header.pathLength ∧ header.pathLength ≤ maxPathBytes))
    (.protocol "invalid backend path length")
  raiseIf (maxIdentityBytes < header.identityLength) (.protocol "invalid backend identity length")
  raiseIf (maxBodyBytes < header.bodyLength) (.protocol "backend request body too large")

def RequestHeader.telemetry (header : RequestHeader) : PublicQuicPathTelemetry where
  rttInitialized := header.telemetryFlags % 2 = 1
  smoothedRttUs := header.smoothedRttUs
  rttvarUs := header.rttvarUs
  streamLossCount := header.streamLossCount
  cwndBytes := header.cwndBytes
  bytesInFlight := header.bytesInFlight
  ptoCount := header.ptoCount

def readBackendRequest (maxBodyBytes : Nat) : StreamReader BackendError BackendRequest := do
  let octets ← readExact truncated 76
  let header ← liftM (unpack readRequestHeader octets)
  liftM (header.check maxBodyBytes)
  let method ← readExact truncated header.methodLength
  let method ← liftM (decoded "invalid backend request encoding" (asciiDecode method))
  let path ← readExact truncated header.pathLength
  let path ← liftM (decoded "invalid backend request encoding" (utf8Decode path))
  let identity ← readExact truncated header.identityLength
  let identity ← liftM (decoded "invalid backend request encoding" (utf8Decode identity))
  let body ← readExact truncated header.bodyLength
  liftM header.telemetry.validate
  return { method, path, clientIdentity := identity, body, pathTelemetry := header.telemetry }

def ResponseHeader.check (header : ResponseHeader) : Except BackendError Unit := do
  raiseIf (header.magic ≠ responseMagic) (.protocol "invalid backend response magic")
  raiseIf (¬(100 ≤ header.status ∧ header.status ≤ 599)) (.protocol "invalid backend response status")
  raiseIf (4096 < header.contentTypeLength) (.protocol "invalid backend content-type length")

def readBackendResponse : StreamReader BackendError GatewayResponse := do
  let octets ← readExact truncated 20
  let header ← liftM (unpack readResponseHeader octets)
  liftM header.check
  let contentType ← readExact truncated header.contentTypeLength
  let contentType ← liftM (decoded "invalid backend response encoding" (asciiDecode contentType))
  let body ← readExact truncated header.bodyLength
  return { status := header.status, body, contentType }

/-! ## What the writer packs is unpacked -/

theorem packUnsigned_eq_ok {width : Nat} {value : Int} {bytes : Bytes} :
    packUnsigned width value = .ok bytes ↔
      (0 ≤ value ∧ value < 256 ^ width) ∧ beBytes width value.toNat = bytes := by
  unfold packUnsigned
  simp only [bind_eq_ok_iff, raiseIf_eq_ok, not_not, pure_eq_ok, exists_const]

theorem packNumbers_eq_ok {numbers : List (Nat × Int)} {packed : List Bytes} :
    numbers.mapM (fun number => packUnsigned number.1 number.2) = .ok packed ↔
      (∀ number ∈ numbers, 0 ≤ number.2 ∧ number.2 < 256 ^ number.1) ∧
        numbers.map (fun number => beBytes number.1 number.2.toNat) = packed := by
  induction numbers generalizing packed with
  | nil => simp [pure, Except.pure]
  | cons number numbers ih =>
      simp only [List.mapM_cons, bind_eq_ok_iff, packUnsigned_eq_ok, ih, pure_eq_ok,
        List.forall_mem_cons, List.map_cons]
      constructor
      · rintro ⟨_, ⟨first, rfl⟩, _, ⟨rest, rfl⟩, rfl⟩
        exact ⟨⟨first, rest⟩, rfl⟩
      · rintro ⟨⟨first, rest⟩, rfl⟩
        exact ⟨_, ⟨first, rfl⟩, _, ⟨rest, rfl⟩, rfl⟩

theorem packHeader_eq_ok {magic header : Bytes} {numbers : List (Nat × Int)} :
    packHeader magic numbers = .ok header ↔
      (∀ number ∈ numbers, 0 ≤ number.2 ∧ number.2 < 256 ^ number.1) ∧
        magic ++ (numbers.map fun number => beBytes number.1 number.2.toNat).flatten = header := by
  unfold packHeader
  simp only [bind_eq_ok_iff, packNumbers_eq_ok, pure_eq_ok]
  constructor
  · rintro ⟨_, ⟨range, rfl⟩, rfl⟩
    exact ⟨range, rfl⟩
  · rintro ⟨range, rfl⟩
    exact ⟨_, ⟨range, rfl⟩, rfl⟩

theorem unpack_of_reads {α : Type} {reader : WireReader α} {header : Bytes} {fields : α}
    (reads : WireReader.Reads reader header fields) : unpack reader header = .ok fields := by
  have whole := reads.whole []
  rw [List.append_nil] at whole
  rw [unpack, whole]

theorem reads_number {width : Nat} {value : Int} (range : 0 ≤ value ∧ value < 256 ^ width) :
    WireReader.Reads (WireReader.fixedBe width) (beBytes width value.toNat) value.toNat := by
  apply WireReader.Reads.fixedBe
  have low := Int.toNat_of_nonneg range.1
  have high := range.2
  rw [← low] at high
  exact_mod_cast high

/-- A header's numbers fit into their widths. -/
def Fits (numbers : List (Nat × Int)) : Prop :=
  ∀ number ∈ numbers, 0 ≤ number.2 ∧ number.2 < 256 ^ number.1

section Headers

variable {methodLength pathLength identityLength bodyLength contentTypeLength : Nat} {status : Int}
  {telemetry : PublicQuicPathTelemetry} {header : Bytes}

/-- The header that a request's numbers are read as. -/
def requestHeader (methodLength pathLength identityLength bodyLength : Nat)
    (telemetry : PublicQuicPathTelemetry) : RequestHeader :=
  ⟨requestMagic, methodLength, pathLength, identityLength, bodyLength,
    if telemetry.rttInitialized then 1 else 0, telemetry.smoothedRttUs.toNat,
    telemetry.rttvarUs.toNat, telemetry.streamLossCount.toNat, telemetry.cwndBytes.toNat,
    telemetry.bytesInFlight.toNat, telemetry.ptoCount.toNat⟩

theorem unpack_requestHeader
    (packed : packHeader requestMagic
      (requestNumbers methodLength pathLength identityLength bodyLength telemetry) = .ok header) :
    header.length = 76 ∧ unpack readRequestHeader header =
      .ok (requestHeader methodLength pathLength identityLength bodyLength telemetry) := by
  obtain ⟨fits, rfl⟩ := packHeader_eq_ok.mp packed
  simp only [requestNumbers, List.forall_mem_cons, List.not_mem_nil] at fits
  obtain ⟨method, path, identity, body, flags, smoothed, rttvar, loss, cwnd, inFlight, pto, -⟩ := fits
  refine ⟨by simp [requestNumbers]; rfl, unpack_of_reads ?_⟩
  have flagsValue : (if telemetry.rttInitialized then (1 : Int) else 0).toNat =
      if telemetry.rttInitialized then 1 else 0 := by
    cases telemetry.rttInitialized <;> rfl
  rw [requestHeader, ← flagsValue]
  apply (WireReader.Reads.take requestMagic).bind
  apply (reads_number method).bind
  apply (reads_number path).bind
  apply (reads_number identity).bind
  apply (reads_number body).bind
  apply (reads_number flags).bind
  apply (reads_number smoothed).bind
  apply (reads_number rttvar).bind
  apply (reads_number loss).bind
  apply (reads_number cwnd).bind
  apply (reads_number inFlight).bind
  apply (reads_number pto).bind
  exact .pure _

theorem unpack_responseHeader
    (packed : packHeader responseMagic
      (responseNumbers status contentTypeLength bodyLength) = .ok header) :
    header.length = 20 ∧ unpack readResponseHeader header =
      .ok ⟨responseMagic, status.toNat, contentTypeLength, bodyLength⟩ := by
  obtain ⟨fits, rfl⟩ := packHeader_eq_ok.mp packed
  simp only [responseNumbers, List.forall_mem_cons, List.not_mem_nil] at fits
  obtain ⟨status, contentType, body, -⟩ := fits
  refine ⟨by simp [responseNumbers]; rfl, unpack_of_reads ?_⟩
  apply (WireReader.Reads.take responseMagic).bind
  apply (reads_number status).bind
  apply (reads_number contentType).bind
  apply (reads_number body).bind
  exact .pure _

theorem requestHeader_telemetry (valid : telemetry.validate = .ok ()) :
    (requestHeader methodLength pathLength identityLength bodyLength telemetry).telemetry =
      telemetry := by
  have nonneg : ∀ value ∈ telemetry.values, 0 ≤ value := by
    unfold PublicQuicPathTelemetry.validate at valid
    simp only [bind_eq_ok_iff, raiseIf_eq_ok] at valid
    obtain ⟨_, inRange, -⟩ := valid
    intro value member
    by_contra negative
    exact inRange (List.any_eq_true.mpr ⟨value, member, by simp [negative]⟩)
  have flag : decide ((if telemetry.rttInitialized then 1 else 0) % 2 = 1) =
      telemetry.rttInitialized := by
    cases telemetry.rttInitialized <;> rfl
  simp only [PublicQuicPathTelemetry.values, List.forall_mem_cons] at nonneg
  obtain ⟨smoothed, rttvar, loss, cwnd, inFlight, pto, -⟩ := nonneg
  unfold requestHeader RequestHeader.telemetry
  simp only [flag, Int.toNat_of_nonneg smoothed, Int.toNat_of_nonneg rttvar,
    Int.toNat_of_nonneg loss, Int.toNat_of_nonneg cwnd, Int.toNat_of_nonneg inFlight,
    Int.toNat_of_nonneg pto]

theorem requestHeader_check {maxBodyBytes : Nat}
    (method : 0 < methodLength ∧ methodLength ≤ maxMethodBytes)
    (path : 0 < pathLength ∧ pathLength ≤ maxPathBytes)
    (identity : ¬maxIdentityBytes < identityLength) (body : bodyLength ≤ maxBodyBytes) :
    (requestHeader methodLength pathLength identityLength bodyLength telemetry).check maxBodyBytes =
      .ok () := by
  have flags : unknownFlags (if telemetry.rttInitialized then 1 else 0) = 0 := by
    cases telemetry.rttInitialized <;> decide
  unfold RequestHeader.check requestHeader
  simp only [bind_eq_ok_iff, raiseIf_eq_ok, not_not]
  exact ⟨(), trivial, (), flags, (), method, (), path, (), identity, body.not_gt⟩

end Headers

/-! ## Round trips -/

theorem encoded_eq_ok {bytes : Option Bytes} {octets : Bytes} :
    encoded bytes = .ok octets ↔ bytes = some octets := by
  cases bytes <;> simp [encoded]

theorem request_round_trip {request : BackendRequest} {bytes : Bytes} {maxBodyBytes : Nat}
    (written : encodeBackendRequest request = .ok bytes)
    (fits : request.body.length ≤ maxBodyBytes) :
    Takes truncated (readBackendRequest maxBodyBytes) bytes request := by
  unfold encodeBackendRequest at written
  simp only [bind_eq_ok_iff, raiseIf_eq_ok, not_not, encoded_eq_ok, pure_eq_ok] at written
  obtain ⟨method, isMethod, path, isPath, identity, isIdentity, _, methodLength, _, pathLength, _,
    identityLength, _, -, _, valid, header, packed, rfl⟩ := written
  obtain ⟨size, unpacked⟩ := unpack_requestHeader packed
  apply (Takes.exact size).bind
  apply Takes.lift unpacked
  apply Takes.lift (requestHeader_check methodLength pathLength identityLength fits)
  apply (Takes.exact rfl).bind
  apply Takes.lift (congrArg (decoded _) (asciiDecode_of_encode isMethod))
  apply (Takes.exact rfl).bind
  apply Takes.lift (congrArg (decoded _) (utf8Decode_of_encode isPath))
  apply (Takes.exact rfl).bind
  apply Takes.lift (congrArg (decoded _) (utf8Decode_of_encode isIdentity))
  apply Takes.last rfl
  rw [requestHeader_telemetry valid]
  apply Takes.lift valid
  exact .pure request

theorem responseHeader_check {status contentTypeLength bodyLength : Nat} (low : 100 ≤ status)
    (high : status ≤ 599) (contentType : contentTypeLength ≤ 4096) :
    (ResponseHeader.mk responseMagic status contentTypeLength bodyLength).check = .ok () := by
  unfold ResponseHeader.check
  simp only [bind_eq_ok_iff, raiseIf_eq_ok, not_not]
  exact ⟨(), trivial, (), ⟨low, high⟩, contentType.not_gt⟩

theorem response_round_trip {response : GatewayResponse} (low : 100 ≤ response.status)
    (high : response.status ≤ 599) (ascii : ∀ c ∈ response.contentType, c < 128)
    (short : response.contentType.length ≤ 4096) (fits : response.body.length ≤ 0xFFFFFFFF) :
    ∃ bytes, encodeBackendResponse response = .ok bytes ∧
      Takes truncated readBackendResponse bytes response := by
  have isContentType : asciiEncode response.contentType =
      some (response.contentType.map UInt8.ofNat) :=
    if_pos (List.all_eq_true.mpr fun c member => decide_eq_true (ascii c member))
  have size : (response.contentType.map UInt8.ofNat).length ≤ 4096 := by rwa [List.length_map]
  generalize response.contentType.map UInt8.ofNat = contentType at isContentType size
  obtain ⟨header, packed⟩ : ∃ header, packHeader responseMagic (responseNumbers response.status
      contentType.length response.body.length) = .ok header := by
    refine ⟨_, packHeader_eq_ok.mpr ⟨?_, rfl⟩⟩
    simp only [responseNumbers, List.forall_mem_cons]
    exact ⟨by omega, by omega, by omega, fun _ none => absurd none List.not_mem_nil⟩
  obtain ⟨headerSize, unpacked⟩ := unpack_responseHeader packed
  refine ⟨header ++ (contentType ++ response.body), ?_, ?_⟩
  · unfold encodeBackendResponse
    simp only [bind_eq_ok_iff, raiseIf_eq_ok, encoded_eq_ok, pure_eq_ok]
    exact ⟨contentType, isContentType, (), by omega, header, packed, rfl⟩
  · apply (Takes.exact headerSize).bind
    apply Takes.lift unpacked
    apply Takes.lift (responseHeader_check (by omega) (by omega) size)
    apply (Takes.exact rfl).bind
    apply Takes.lift (congrArg (decoded _) (asciiDecode_of_encode isContentType))
    apply Takes.last rfl
    rw [Int.toNat_of_nonneg (by omega)]
    exact .pure response

/-- A request that the writer accepts is read back off every stream that begins with its octets,
    and so is a response whose body fits into its length; a stream that ends before them is
    refused. -/
theorem backend_round_trip :
    (∀ (request : BackendRequest) bytes maxBodyBytes, encodeBackendRequest request = .ok bytes →
      request.body.length ≤ maxBodyBytes →
        Takes truncated (readBackendRequest maxBodyBytes) bytes request) ∧
    ∀ response : GatewayResponse, 100 ≤ response.status → response.status ≤ 599 →
      (∀ c ∈ response.contentType, c < 128) → response.contentType.length ≤ 4096 →
      response.body.length ≤ 0xFFFFFFFF →
        ∃ bytes, encodeBackendResponse response = .ok bytes ∧
          Takes truncated readBackendResponse bytes response :=
  ⟨fun _ _ _ written fits => request_round_trip written fits,
    fun _ low high ascii short fits => response_round_trip low high ascii short fits⟩

def indexRequest : BackendRequest where
  method := lit "GET"
  path := lit "/"
  clientIdentity := lit ""
  body := []
  pathTelemetry := { rttInitialized := true, smoothedRttUs := 300 }

theorem backend_round_trip_index :
    (∃ bytes, encodeBackendRequest indexRequest = .ok bytes ∧
        Takes truncated (readBackendRequest 0) bytes indexRequest) ∧
      ∃ bytes, encodeBackendResponse ⟨200, [], lit "a"⟩ = .ok bytes ∧
        Takes truncated readBackendResponse bytes ⟨200, [], lit "a"⟩ := by
  constructor
  · cases written : encodeBackendRequest indexRequest with
    | error e =>
        have passes : (encodeBackendRequest indexRequest).toOption.isSome = true := by decide
        rw [written] at passes
        cases passes
    | ok bytes =>
        exact ⟨bytes, rfl, backend_round_trip.1 indexRequest bytes 0 written (by decide)⟩
  · exact backend_round_trip.2 ⟨200, [], lit "a"⟩ (by decide) (by decide) (by decide) (by decide)
      (by decide)

/-- A response with a body of 2^32 octets is not written. -/
theorem huge_response_refused :
    ¬∀ response : GatewayResponse, 100 ≤ response.status → response.status ≤ 599 →
      (∀ c ∈ response.contentType, c < 128) → response.contentType.length ≤ 4096 →
        ∃ bytes, encodeBackendResponse response = .ok bytes ∧
          Takes truncated readBackendResponse bytes response := by
  intro all
  obtain ⟨bytes, written, -⟩ := all ⟨200, List.replicate (2 ^ 32) 0, []⟩ (by decide) (by decide)
    nofun (Nat.zero_le _)
  unfold encodeBackendResponse at written
  simp only [bind_eq_ok_iff, raiseIf_eq_ok, List.length_replicate] at written
  obtain ⟨contentType, -, _, fits, -⟩ := written
  omega

end FleetRMW.Gateway
