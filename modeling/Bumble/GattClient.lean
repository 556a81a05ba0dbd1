import Bumble.GattQueuedWrites

/-!
# A GATT client's long reads (`bumble-gatt/src/client.rs`)

A client asks over a transport, which answers each request and may be a server in the
same process.  The MTU of a bearer is computed on both sides; a value that fills the
first answer is fetched to its end in parts.
-/

namespace Bumble.Gatt

open Att

/-! ## 1. The client -/

/-- `AttTransport`: what carries a request to the peer and brings back the answer. -/
structure AttTransport (σ : Type) where
  tryRequest : σ → AttPdu → σ × Except String AttPdu

theorem attDefaultMtu_le_max (mtu : UInt16) : attDefaultMtu ≤ max mtu attDefaultMtu := by
  change attDefaultMtu ≤ if mtu ≤ attDefaultMtu then attDefaultMtu else mtu
  split
  · exact UInt16.le_refl _
  · next hgt => exact UInt16.le_of_lt (UInt16.not_le.mp hgt)

/-- How a call of the client ends without a value: in the error it returns, in the panic of an
    addition that overflows, or not within the given number of requests. -/
inductive Failure where
  | error (error : GattError)
  | overflow
  | unfinished
deriving DecidableEq, Repr

structure GattClient where
  mtu : UInt16
  cachedValues : Std.ExtTreeMap UInt16 Bytes
  /-- The MTU is only ever set to a value of 23 or above. -/
  mtuAtLeast : attDefaultMtu ≤ mtu

namespace GattClient

def new : GattClient := ⟨attDefaultMtu, ∅, by decide⟩

def attAttributeNotLongError : UInt8 := 0x0B

def asError : AttPdu → Option GattError
  | .errorResponse requestOpcode attributeHandle errorCode =>
    some (.att requestOpcode attributeHandle errorCode)
  | _ => none

section Calls

/- `debug` prints a PDU into the text of an error. -/
variable {σ : Type} (transport : AttTransport σ) (debug : AttPdu → String)

/-- One request; a failure of the transport is an error of the call. -/
def request (state : σ) (pdu : AttPdu) : Outcome σ Failure AttPdu :=
  match transport.tryRequest state pdu with
  | (state, .ok response) => .ok state response
  | (state, .error message) => .fail state (.error (.transport message))

def exchangeMtu (client : GattClient) (state : σ) (clientRxMtu : UInt16) :
    Outcome (GattClient × σ) Failure UInt16 :=
  ((request transport state (.exchangeMtuRequest clientRxMtu)).mapState (client, ·)).andThen
    fun (client, state) response =>
      match asError response with
      | some error => .fail (client, state) (.error error)
      | none =>
        match response with
        | .exchangeMtuResponse serverRxMtu =>
          let mtu := max (min clientRxMtu serverRxMtu) attDefaultMtu
          .ok ({ client with mtu := mtu, mtuAtLeast := attDefaultMtu_le_max _ }, state) mtu
        | other =>
          .fail (client, state)
            (.error (.protocol s!"expected Exchange MTU Response, got {debug other}"))

/-- The loop that fetches the parts from an offset on, for a number of rounds. -/
def readBlobs (attributeHandle : UInt16) (chunk : Nat) :
    Nat → σ → Bytes → UInt16 → Outcome σ Failure Bytes
  | 0, state, _, _ => .fail state .unfinished
  | rounds + 1, state, value, offset =>
    (request transport state (.readBlobRequest attributeHandle offset)).andThen
      fun state response =>
        match response with
        | .errorResponse requestOpcode handle errorCode =>
          if errorCode = attAttributeNotLongError ∨ errorCode = attInvalidOffsetError then
            .ok state value
          else .fail state (.error (.att requestOpcode handle errorCode))
        | .readBlobResponse partAttributeValue =>
          let value := value ++ partAttributeValue
          if partAttributeValue.length < chunk then .ok state value
          else
            -- the part's length is cast to 16 bits before the addition
            if offset.toNat + partAttributeValue.length % 65536 < 65536 then
              readBlobs attributeHandle chunk rounds state value
                (offset + UInt16.ofNat partAttributeValue.length)
            else .fail state .overflow
        | other =>
          .fail state (.error (.protocol s!"expected Read Blob Response, got {debug other}"))

/-- What `read_value` does before it caches the value. -/
def fetch (client : GattClient) (rounds : Nat) (state : σ) (attributeHandle : UInt16)
    (noLongRead : Bool) : Outcome σ Failure Bytes :=
  (request transport state (.readRequest attributeHandle)).andThen fun state response =>
    match asError response with
    | some error => .fail state (.error error)
    | none =>
      match response with
      | .readResponse value =>
        let chunk := client.mtu.toNat - 1
        if !noLongRead && value.length == chunk then
          readBlobs transport debug attributeHandle chunk rounds state value
            (UInt16.ofNat value.length)
        else .ok state value
      | other => .fail state (.error (.protocol s!"expected Read Response, got {debug other}"))

def readValue (client : GattClient) (rounds : Nat) (state : σ) (attributeHandle : UInt16)
    (noLongRead : Bool) : Outcome (GattClient × σ) Failure Bytes :=
  ((fetch transport debug client rounds state attributeHandle noLongRead).mapState
    (client, ·)).andThen fun (client, state) value =>
      .ok ({ client with cachedValues := client.cachedValues.insert attributeHandle value }, state)
        value

end Calls

end GattClient

def GattServer.transport (cmac : Cmac) (context : AccessContext) : AttTransport GattServer :=
  ⟨fun server request =>
    let (server, response) := server.onRequestWithContext cmac request context
    (server, .ok response)⟩

/-! ## 2. Long reads -/

namespace GattClient

variable (cmac : Cmac) (debug : AttPdu → String) {context : AccessContext}

theorem request_server (server : GattServer) (pdu : AttPdu) :
    request (GattServer.transport cmac context) server pdu =
      .ok (server.onRequestWithContext cmac pdu context).1
        (server.onRequestWithContext cmac pdu context).2 := rfl

theorem readHandle_static {server : GattServer} {attr : Attribute}
    (hattr : attr ∈ server.attributes)
    (hstatic : attr.dynamicValue = none)
    (hreadable : checkReadAccess attr.permissions context = .ok ()) :
    server.readHandle context attr.handle = .ok attr.value := by
  have hfind : server.find attr.handle = some attr  :=
    GattServer.find?_handle_of_mem server.ascending hattr
  rw [GattServer.readHandle, hfind]
  dsimp only
  rw [Attribute.readIn, hreadable, Attribute.readValue, hstatic]
  rfl

/-- **The loop fetches the rest.**  The invariant is that what has been read is the value up to
    the offset: each round appends one part, and the first short part, which is empty when the
    parts before it end with the value, is the last. -/
theorem readBlobs_exact {server : GattServer} {handle : UInt16} {whole : Bytes} {chunk : Nat}
    (hhandle : server.readHandle context handle = .ok whole)
    (hchunk : (server.negotiatedMtu context.bearerId).toNat - 1 = chunk) (hpos : 0 < chunk)
    (hlength : whole.length ≤ 65535) : ∀ rounds (value : Bytes) (offset : UInt16),
      whole.take offset.toNat = value → offset.toNat ≤ whole.length →
      whole.length - offset.toNat < rounds →
      readBlobs (GattServer.transport cmac context) debug handle chunk rounds server value offset =
        .ok server whole := by
  intro rounds
  induction rounds with
  | zero =>
    intro value offset _ _ hrounds
    omega
  | succ rounds ih =>
    intro value offset hvalue hoffset hrounds
    have hanswer : server.onRequestWithContext cmac (.readBlobRequest handle offset) context =
        (server, .readBlobResponse ((whole.drop offset.toNat).take chunk)) := by
      rw [GattServer.onRequestWithContext, GattServer.readBlobRequest, hhandle]
      dsimp only
      rw [if_neg (by omega), hchunk]
    have hlen : ((whole.drop offset.toNat).take chunk).length =
        min chunk (whole.length - offset.toNat) := by
      rw [List.length_take, List.length_drop]
    have hread : value ++ (whole.drop offset.toNat).take chunk =
        whole.take (offset.toNat + chunk) := by
      rw [← hvalue, List.take_add]
    rw [readBlobs, request_server, Outcome.ok_andThen, hanswer]
    dsimp only
    rw [hread, hlen]
    split
    · next hshort =>
      rw [List.take_of_length_le (by omega)]
    · next hfull =>
      have hmin : min chunk (whole.length - offset.toNat) = chunk := by omega
      have hnext : (offset + UInt16.ofNat chunk).toNat = offset.toNat + chunk := by
        rw [UInt16.toNat_add, UInt16.toNat_ofNat']
        omega
      rw [hmin, if_pos (by omega)]
      apply ih
      · rw [hnext]
      · omega
      · omega

theorem fetch_exact {client : GattClient} {server : GattServer} {handle : UInt16} {whole : Bytes}
    (hhandle : server.readHandle context handle = .ok whole)
    (hmtu : server.negotiatedMtu context.bearerId = client.mtu) (hlength : whole.length ≤ 65535)
    {rounds : Nat} (hrounds : whole.length < rounds) :
    fetch (GattServer.transport cmac context) debug client rounds server handle false =
      .ok server whole := by
  have hatLeast : 23 ≤ client.mtu.toNat := UInt16.le_iff_toNat_le.mp client.mtuAtLeast
  have hanswer : server.onRequestWithContext cmac (.readRequest handle) context =
      (server, .readResponse (whole.take (client.mtu.toNat - 1))) := by
    rw [GattServer.onRequestWithContext, GattServer.readRequest, hhandle, hmtu]
  have hlen : (whole.take (client.mtu.toNat - 1)).length =
      min (client.mtu.toNat - 1) whole.length := List.length_take
  rw [fetch, request_server, Outcome.ok_andThen, hanswer]
  dsimp only [asError]
  rw [Bool.not_false, Bool.true_and, hlen]
  split
  · next hfull =>
    have hchunk : min (client.mtu.toNat - 1) whole.length = client.mtu.toNat - 1 :=
      beq_iff_eq.mp hfull
    have hoffset : (UInt16.ofNat (client.mtu.toNat - 1)).toNat = client.mtu.toNat - 1 := by
      rw [UInt16.toNat_ofNat']
      omega
    rw [hchunk]
    apply readBlobs_exact cmac debug hhandle (by rw [hmtu]) (by omega) hlength
    · rw [hoffset]
    · omega
    · omega
  · next hshort =>
    have hne : min (client.mtu.toNat - 1) whole.length ≠ client.mtu.toNat - 1 :=
      fun heq => hshort (beq_iff_eq.mpr heq)
    rw [List.take_of_length_le (by omega)]

theorem exchangeMtu_server (client : GattClient) (server : GattServer) (clientRxMtu : UInt16) :
    ∃ exchanged : GattClient, exchanged.mtu = max (min clientRxMtu server.mtu) attDefaultMtu ∧
      exchangeMtu (GattServer.transport cmac context) debug client server clientRxMtu =
        .ok (exchanged, (server.exchangeMtuRequest clientRxMtu context).1) exchanged.mtu ∧
      (server.exchangeMtuRequest clientRxMtu context).1.negotiatedMtu context.bearerId =
        exchanged.mtu := by
  refine ⟨⟨max (min clientRxMtu server.mtu) attDefaultMtu, client.cachedValues,
    attDefaultMtu_le_max _⟩, rfl, rfl, ?_⟩
  change ((server.negotiatedMtus.insert _ _)[context.bearerId]?).getD attDefaultMtu = _
  rw [OrderedMap.getElem?_insert, if_pos rfl]
  rfl

/-- **Long reads are exact.**  After the exchange both sides have the same MTU for the bearer,
    and the client reads the whole value of any static attribute that its context may read. -/
theorem long_reads_exact (client : GattClient) (server : GattServer) (clientRxMtu : UInt16)
    (attr : Attribute) (hattr : attr ∈ server.attributes) (hstatic : attr.dynamicValue = none)
    (hreadable : checkReadAccess attr.permissions context = .ok ())
    (hlength : attr.value.length ≤ 65535) :
    ∃ client' server',
      exchangeMtu (GattServer.transport cmac context) debug client server clientRxMtu =
        .ok (client', server') client'.mtu ∧
      server'.negotiatedMtu context.bearerId = client'.mtu ∧
      ∀ rounds, attr.value.length < rounds →
        readValue (GattServer.transport cmac context) debug client' rounds server' attr.handle
            false =
          .ok ({ client' with
              cachedValues := client'.cachedValues.insert attr.handle attr.value }, server')
            attr.value := by
  obtain ⟨exchanged, -, hexchange, hmtu⟩ :=
    @exchangeMtu_server cmac debug context client server clientRxMtu
  refine ⟨exchanged, _, hexchange, hmtu, ?_⟩
  intro rounds hrounds
  have hhandle : (server.exchangeMtuRequest clientRxMtu context).1.readHandle context attr.handle =
      .ok attr.value := readHandle_static hattr hstatic hreadable
  rw [readValue, fetch_exact cmac debug hhandle hmtu hlength hrounds]
  rfl

/-- A readable attribute whose value fills two parts of the smallest MTU. -/
def twoParts : Attribute := ⟨1, .from16Bits 0x2A00, 1, Permissions.readable, .replicate 44 7, none⟩

theorem two_parts_read :
    ∃ (client' : GattClient) (server' : GattServer),
      exchangeMtu (GattServer.transport (fun _ key => key) plainContext) reprStr new
          ⟨[twoParts], 64, ∅, ∅, fun _ _ => none, none, List.pairwise_singleton _ _⟩ 23 =
        .ok (client', server') client'.mtu ∧
      server'.negotiatedMtu 0 = client'.mtu ∧
      ∀ rounds, 44 < rounds →
        readValue (GattServer.transport (fun _ key => key) plainContext) reprStr client' rounds
            server' 1 false =
          .ok ({ client' with
              cachedValues := client'.cachedValues.insert 1 (.replicate 44 7) }, server')
            (.replicate 44 7) :=
  long_reads_exact _ _ new _ 23 twoParts (.head _) rfl rfl (by decide)

end GattClient

end Bumble.Gatt
