import OpenLogi.Lib.Codec
/-!
# Frame — the frame envelope of a Flow link

Eight header bytes, and a payload no longer than its kind allows.  A kind of a newer peer is kept as the number it has
on the wire.
-/
namespace OpenLogi
namespace Flow

open Lib (toLe ofLe readExact readMany)

/-- Number of bytes in the frame header. -/
def headerLen : Nat := 8

/-- Maximum payload size for ordinary frames. -/
def maxPayloadLen : Nat := 1024 * 1024

/-- Maximum payload size of a chunk. -/
def maxChunkLen : Nat := 64 * 1024

inductive FrameKind where
  | unspecified
  | hello | helloReject | error | ping | pong
  | pairStart | pairPrompted | pairConfirm | pairOutcome | pairAbort | pairReveal | pairRevealed
  | getPeerInfo | peerInfo | announceDevices | peerState
  | handoffRequest | handoffAccept | handoffReject | handoffResult | handoffCancel
  | clipboardAnnounce | clipboardFetch | clipboardData | chunk | chunkEnd | fileFetch
  | unknown (value : UInt16)
  deriving DecidableEq

namespace FrameKind

def wireValue : FrameKind → UInt16
  | unspecified => 0x00
  | hello => 0x01
  | helloReject => 0x02
  | error => 0x03
  | ping => 0x04
  | pong => 0x05
  | pairStart => 0x10
  | pairPrompted => 0x11
  | pairConfirm => 0x12
  | pairOutcome => 0x13
  | pairAbort => 0x14
  | pairReveal => 0x15
  | pairRevealed => 0x16
  | getPeerInfo => 0x20
  | peerInfo => 0x21
  | announceDevices => 0x22
  | peerState => 0x23
  | handoffRequest => 0x30
  | handoffAccept => 0x31
  | handoffReject => 0x32
  | handoffResult => 0x33
  | handoffCancel => 0x34
  | clipboardAnnounce => 0x40
  | clipboardFetch => 0x41
  | clipboardData => 0x42
  | chunk => 0x43
  | chunkEnd => 0x44
  | fileFetch => 0x45
  | unknown value => value

def payloadCap (kind : FrameKind) : Nat := if kind = chunk then maxChunkLen else maxPayloadLen

/-- `From<u16>`. -/
def ofU16 (value : UInt16) : FrameKind :=
  match value with
  | 0 => unspecified
  | 1 => hello
  | 2 => helloReject
  | 3 => error
  | 4 => ping
  | 5 => pong
  | 0x10 => pairStart
  | 0x11 => pairPrompted
  | 0x12 => pairConfirm
  | 0x13 => pairOutcome
  | 0x14 => pairAbort
  | 0x15 => pairReveal
  | 0x16 => pairRevealed
  | 0x20 => getPeerInfo
  | 0x21 => peerInfo
  | 0x22 => announceDevices
  | 0x23 => peerState
  | 0x30 => handoffRequest
  | 0x31 => handoffAccept
  | 0x32 => handoffReject
  | 0x33 => handoffResult
  | 0x34 => handoffCancel
  | 0x40 => clipboardAnnounce
  | 0x41 => clipboardFetch
  | 0x42 => clipboardData
  | 0x43 => chunk
  | 0x44 => chunkEnd
  | 0x45 => fileFetch
  | other => unknown other

/-- The kind is not the number of another: what a decoder makes of a number is canonical. -/
def Canonical : FrameKind → Prop
  | unknown value => ofU16 value = unknown value
  | _ => True

instance (kind : FrameKind) : Decidable kind.Canonical := by
  cases kind <;> unfold Canonical <;> infer_instance

theorem wireValue_ofU16 (value : UInt16) : (ofU16 value).wireValue = value := by
  unfold ofU16
  split <;> rfl

theorem ofU16_wireValue {kind : FrameKind} (h : kind.Canonical) : ofU16 kind.wireValue = kind := by
  cases kind with
  | unknown value => exact h
  | _ => rfl

theorem canonical_ofU16 (value : UInt16) : (ofU16 value).Canonical := by
  have hwire := wireValue_ofU16 value
  cases hkind : ofU16 value with
  | unknown other =>
    rw [hkind] at hwire
    change other = value at hwire
    change ofU16 other = unknown other
    rw [hwire, hkind, hwire]
  | _ => exact trivial

end FrameKind

inductive FrameError where
  | truncated
  | tooLarge (len cap : Nat)
  /-- The transport ended within a frame. -/
  | unexpectedEof
  deriving DecidableEq

def checkLen (kind : FrameKind) (len : Nat) : Except FrameError Unit :=
  let cap := kind.payloadCap
  if cap < len then .error (.tooLarge len cap) else .ok ()

structure Envelope where
  kind : FrameKind
  flags : UInt16
  payload : List UInt8
  deriving DecidableEq

/-- What the header bytes say. -/
structure FrameHeader where
  kind : FrameKind
  flags : UInt16
  len : Nat
  deriving DecidableEq

namespace FrameHeader

def encode (kind : FrameKind) (flags : UInt16) (len : Nat) : List UInt8 :=
  toLe 2 kind.wireValue.toNat ++ (toLe 2 flags.toNat ++ toLe 4 len)

def decode (header : List UInt8) : FrameHeader where
  kind := .ofU16 (UInt16.ofNat (ofLe (header.take 2)))
  flags := UInt16.ofNat (ofLe ((header.drop 2).take 2))
  len := ofLe ((header.drop 4).take 4)

end FrameHeader

namespace Envelope

def new (kind : FrameKind) (flags : UInt16) (payload : List UInt8) : Except FrameError Envelope := do
  checkLen kind payload.length
  return ⟨kind, flags, payload⟩

def toBytes (e : Envelope) : Except FrameError (List UInt8) := do
  checkLen e.kind e.payload.length
  -- the length is a `u32` on the wire
  if 2 ^ 32 ≤ e.payload.length then throw (.tooLarge e.payload.length e.kind.payloadCap)
  return FrameHeader.encode e.kind e.flags e.payload.length ++ e.payload

def fromBytes (bytes : List UInt8) : Except FrameError Envelope := do
  if bytes.length < headerLen then throw .truncated
  let header := FrameHeader.decode (bytes.take headerLen)
  checkLen header.kind header.len
  if bytes.length ≠ headerLen + header.len then throw .truncated
  return ⟨header.kind, header.flags, bytes.drop headerLen⟩

/-- Read one envelope off a transport that delivers `input` and ends. -/
def readFrom (input : List UInt8) : Except FrameError (Envelope × List UInt8) :=
  match readExact headerLen input with
  | none => .error .unexpectedEof
  | some (header, input) => do
    let header := FrameHeader.decode header
    checkLen header.kind header.len
    match readExact header.len input with
    | none => throw .unexpectedEof
    | some (payload, input) => return (⟨header.kind, header.flags, payload⟩, input)

end Envelope

/-! ## The header -/

theorem length_encode (kind : FrameKind) (flags : UInt16) (len : Nat) :
    (FrameHeader.encode kind flags len).length = headerLen := by
  simp [FrameHeader.encode, headerLen]

theorem decode_encode (kind : FrameKind) (flags : UInt16) {len : Nat} (h : len < 2 ^ 32) :
    FrameHeader.decode (FrameHeader.encode kind flags len) = ⟨.ofU16 kind.wireValue, flags, len⟩ := by
  have hkind : (FrameHeader.encode kind flags len).take 2 = toLe 2 kind.wireValue.toNat :=
    List.take_left' (Lib.length_toLe 2 _)
  have hdrop : (FrameHeader.encode kind flags len).drop 2 = toLe 2 flags.toNat ++ toLe 4 len :=
    List.drop_left' (Lib.length_toLe 2 _)
  have hflags : ((FrameHeader.encode kind flags len).drop 2).take 2 = toLe 2 flags.toNat := by
    rw [hdrop]
    exact List.take_left' (Lib.length_toLe 2 _)
  have hlen : ((FrameHeader.encode kind flags len).drop 4).take 4 = toLe 4 len := by
    rw [show 4 = 2 + 2 from rfl, ← List.drop_drop, hdrop, List.drop_left' (Lib.length_toLe 2 _)]
    exact List.take_of_length_le (Nat.le_of_eq (Lib.length_toLe 4 len))
  have hwire (value : UInt16) : UInt16.ofNat (ofLe (toLe 2 value.toNat)) = value := by
    rw [Lib.ofLe_toLe 2 _ value.toNat_lt, UInt16.ofNat_toNat]
  rw [FrameHeader.decode, hkind, hflags, hlen, hwire, hwire, Lib.ofLe_toLe 4 len h]

/-- What a header says is what its bytes were written from. -/
theorem encode_decode {header : List UInt8} (h : header.length = headerLen) :
    FrameHeader.encode (FrameHeader.decode header).kind (FrameHeader.decode header).flags
      (FrameHeader.decode header).len = header := by
  have hlength : (header.take 2).length = 2 ∧ ((header.drop 2).take 2).length = 2 ∧
      ((header.drop 4).take 4).length = 4 := by
    simp [h, headerLen]
  obtain ⟨hkind, hflags, hlen⟩ := hlength
  have hbytes {bytes : List UInt8} (hb : bytes.length = 2) : toLe 2 (UInt16.ofNat (ofLe bytes)).toNat = bytes := by
    have hlt : ofLe bytes < 2 ^ 16 := Nat.lt_of_lt_of_eq (Lib.ofLe_lt bytes hb) (by decide)
    rw [UInt16.toNat_ofNat', Nat.mod_eq_of_lt hlt, Lib.toLe_ofLe bytes hb]
  have hrest : header.drop 4 = (header.drop 4).take 4 :=
    (List.take_of_length_le (by simp [h, headerLen])).symm
  have hparts : header = header.take 2 ++ ((header.drop 2).take 2 ++ (header.drop 4).take 4) := by
    rw [← hrest, show 4 = 2 + 2 from rfl, ← List.drop_drop, List.take_append_drop, List.take_append_drop]
  rw [FrameHeader.encode, FrameHeader.decode, FrameKind.wireValue_ofU16, hbytes hkind, hbytes hflags,
    Lib.toLe_ofLe _ hlen, ← hparts]

theorem payloadCap_lt (kind : FrameKind) : kind.payloadCap < 2 ^ 32 := by
  unfold FrameKind.payloadCap
  split <;> decide

/-! ## The envelope -/

/-- What `Envelope::new` accepts. -/
def Envelope.Fits (e : Envelope) : Prop := e.payload.length ≤ e.kind.payloadCap

instance (e : Envelope) : Decidable e.Fits := Nat.decLe _ _

theorem checkLen_ok {kind : FrameKind} {len : Nat} : checkLen kind len = .ok () ↔ len ≤ kind.payloadCap := by
  unfold checkLen
  dsimp only
  split
  · rename_i hlt
    exact iff_of_false (fun hc => (nomatch hc)) (Nat.not_le.2 hlt)
  · rename_i hle
    exact iff_of_true rfl (Nat.not_lt.1 hle)

namespace Envelope

/-- The bytes of an envelope. -/
def wire (e : Envelope) : List UInt8 := FrameHeader.encode e.kind e.flags e.payload.length ++ e.payload

variable {e : Envelope}

theorem new_eq_ok {kind : FrameKind} {flags : UInt16} {payload : List UInt8} :
    new kind flags payload = .ok e ↔ e = ⟨kind, flags, payload⟩ ∧ e.Fits := by
  unfold new
  cases hcheck : checkLen kind payload.length with
  | error error =>
    refine iff_of_false (fun hc => (nomatch hc)) ?_
    rintro ⟨rfl, hfits⟩
    rw [checkLen_ok.2 hfits] at hcheck
    cases hcheck
  | ok =>
    have hfits := checkLen_ok.1 hcheck
    constructor
    · intro h
      cases h
      exact ⟨rfl, hfits⟩
    · rintro ⟨rfl, -⟩
      rfl

theorem toBytes_of_fits (h : e.Fits) : e.toBytes = .ok e.wire := by
  have hlength : ¬2 ^ 32 ≤ e.payload.length := Nat.not_le.2 (Nat.lt_of_le_of_lt h (payloadCap_lt e.kind))
  unfold toBytes
  rw [checkLen_ok.2 h, if_neg hlength]
  rfl

/-- The layout of the header does not change. -/
example : (⟨.hello, 0x0201, [0xaa, 0xbb, 0xcc]⟩ : Envelope).toBytes =
    .ok [0x01, 0x00, 0x01, 0x02, 0x03, 0, 0, 0, 0xaa, 0xbb, 0xcc] := by decide

/-- **A read yields exactly the envelope that was written before the rest**, and one of a kind that can be read. -/
theorem readFrom_eq_ok {input rest : List UInt8} :
    readFrom input = .ok (e, rest) ↔ e.Fits ∧ e.kind.Canonical ∧ input = e.wire ++ rest := by
  constructor
  · intro h
    unfold readFrom at h
    split at h
    · cases h
    · rename_i header body hread
      obtain ⟨hheader, rfl⟩ := Lib.readExact_eq_some.1 hread
      dsimp only at h
      cases hcheck : checkLen (FrameHeader.decode header).kind (FrameHeader.decode header).len with
      | error error =>
        rw [hcheck] at h
        cases h
      | ok =>
        rw [hcheck] at h
        dsimp only [bind, Except.bind] at h
        split at h
        · cases h
        · rename_i payload input hbody
          obtain ⟨hlength, rfl⟩ := Lib.readExact_eq_some.1 hbody
          cases h
          refine ⟨?_, FrameKind.canonical_ofU16 _, ?_⟩
          · have hfits := checkLen_ok.1 hcheck
            rw [← hlength] at hfits
            exact hfits
          · have hbytes := encode_decode hheader
            rw [← hlength] at hbytes
            rw [wire, hbytes, List.append_assoc]
  · rintro ⟨hfits, hcanonical, rfl⟩
    have hlength : e.payload.length < 2 ^ 32 := Nat.lt_of_le_of_lt hfits (payloadCap_lt e.kind)
    have hheader := Lib.readExact_append (length_encode e.kind e.flags e.payload.length) (e.payload ++ rest)
    have hpayload : readExact e.payload.length (e.payload ++ rest) = some (e.payload, rest) :=
      Lib.readExact_append rfl rest
    unfold readFrom
    rw [wire, List.append_assoc, hheader]
    dsimp only
    rw [decode_encode e.kind e.flags hlength, FrameKind.ofU16_wireValue hcanonical]
    dsimp only
    rw [checkLen_ok.2 hfits, hpayload]
    rfl

/-- A frame is decoded from exactly its bytes. -/
theorem fromBytes_eq_ok {bytes : List UInt8} :
    fromBytes bytes = .ok e ↔ e.Fits ∧ e.kind.Canonical ∧ bytes = e.wire := by
  constructor
  · intro h
    unfold fromBytes at h
    by_cases hshort : bytes.length < headerLen
    · rw [if_pos hshort] at h
      cases h
    · rw [if_neg hshort] at h
      have hheader : (bytes.take headerLen).length = headerLen := List.length_take_of_le (Nat.not_lt.1 hshort)
      have hencode := encode_decode hheader
      have hcanonical : (FrameHeader.decode (bytes.take headerLen)).kind.Canonical := FrameKind.canonical_ofU16 _
      dsimp only [bind, Except.bind, pure, Except.pure] at h
      generalize FrameHeader.decode (bytes.take headerLen) = header at h hencode hcanonical
      cases hcheck : checkLen header.kind header.len with
      | error error =>
        rw [hcheck] at h
        cases h
      | ok =>
        rw [hcheck] at h
        dsimp only at h
        by_cases hlength : bytes.length = headerLen + header.len
        · rw [if_neg (not_not_intro hlength)] at h
          cases h
          have hpayload : (bytes.drop headerLen).length = header.len := by
            rw [List.length_drop, hlength, Nat.add_sub_cancel_left]
          refine ⟨?_, hcanonical, ?_⟩
          · rw [Fits, hpayload]
            exact checkLen_ok.1 hcheck
          · rw [wire, hpayload, hencode, List.take_append_drop]
        · rw [if_pos hlength] at h
          cases h
  · rintro ⟨hfits, hcanonical, rfl⟩
    have hsmall : e.payload.length < 2 ^ 32 := Nat.lt_of_le_of_lt hfits (payloadCap_lt e.kind)
    have hheader : (FrameHeader.encode e.kind e.flags e.payload.length).length = headerLen := length_encode ..
    have hlength : e.wire.length = headerLen + e.payload.length := by rw [wire, List.length_append, hheader]
    have hlong : ¬e.wire.length < headerLen := by
      rw [hlength]
      exact Nat.not_lt.2 (Nat.le_add_right _ _)
    have htake : e.wire.take headerLen = FrameHeader.encode e.kind e.flags e.payload.length := List.take_left' hheader
    have hdrop : e.wire.drop headerLen = e.payload := List.drop_left' hheader
    unfold fromBytes
    dsimp only
    rw [if_neg hlong, htake, decode_encode e.kind e.flags hsmall, FrameKind.ofU16_wireValue hcanonical, hdrop]
    dsimp only
    rw [checkLen_ok.2 hfits, if_neg (not_not_intro hlength)]
    rfl

/-- A kind that is the number of another is not the kind the bytes are read as. -/
theorem fromBytes_wire (h : e.Fits) : fromBytes e.wire = .ok e ↔ e.kind.Canonical :=
  fromBytes_eq_ok.trans ⟨fun hread => hread.2.1, fun hcanonical => ⟨h, hcanonical, rfl⟩⟩

theorem mapM_toBytes : ∀ es : List Envelope, (∀ e ∈ es, e.Fits) → es.mapM toBytes = .ok (es.map wire)
  | [], _ => rfl
  | e :: es, h => by
    rw [List.mapM_cons, toBytes_of_fits (h e List.mem_cons_self),
      mapM_toBytes es fun other hother => h other (List.mem_cons_of_mem _ hother)]
    rfl

/-- **What is encoded is decoded, and what is decoded was encoded so**, for one frame and for frames in a row: an
envelope whose kind is not the number of another comes back as it was, and any other does not. -/
theorem frames_round_trip :
    (∀ kind flags payload e, new kind flags payload = .ok e →
      ((∃ bytes, e.toBytes = .ok bytes ∧ fromBytes bytes = .ok e) ↔ kind.Canonical)) ∧
    (∀ bytes e, fromBytes bytes = .ok e → e.toBytes = .ok bytes) ∧
    ∀ es : List Envelope, (∀ e ∈ es, e.kind.Canonical ∧ new e.kind e.flags e.payload = .ok e) →
      ∃ frames, es.mapM toBytes = .ok frames ∧ readMany readFrom es.length frames.flatten = .ok (es, []) := by
  refine ⟨fun kind flags payload e hnew => ?_, fun bytes e hread => ?_, fun es hes => ?_⟩
  · obtain ⟨rfl, hfits⟩ := new_eq_ok.1 hnew
    refine Iff.trans ⟨?_, fun hread => ⟨_, toBytes_of_fits hfits, hread⟩⟩ (fromBytes_wire hfits)
    rintro ⟨bytes, hbytes, hread⟩
    rw [toBytes_of_fits hfits] at hbytes
    cases hbytes
    exact hread
  · obtain ⟨hfits, -, rfl⟩ := fromBytes_eq_ok.1 hread
    exact toBytes_of_fits hfits
  · have hfits : ∀ e ∈ es, e.Fits := fun e he => (new_eq_ok.1 (hes e he).2).2
    refine ⟨es.map wire, mapM_toBytes es hfits, ?_⟩
    have hread := Lib.readMany_flatMap [] es fun e he rest => readFrom_eq_ok.2 ⟨hfits e he, (hes e he).1, rfl⟩
    rw [List.append_nil] at hread
    exact hread

theorem frames_round_trip_ping :
    (∃ bytes, (⟨.ping, 0, [1]⟩ : Envelope).toBytes = .ok bytes ∧ fromBytes bytes = .ok ⟨.ping, 0, [1]⟩) ∧
    ∃ frames, ([⟨.ping, 0, [1]⟩, ⟨.unknown 0xcafe, 2, []⟩] : List Envelope).mapM toBytes = .ok frames ∧
      readMany readFrom 2 frames.flatten = .ok ([⟨.ping, 0, [1]⟩, ⟨.unknown 0xcafe, 2, []⟩], []) := by
  obtain ⟨hone, -, hmany⟩ := frames_round_trip
  refine ⟨(hone .ping 0 [1] _ (by decide)).2 trivial, hmany [⟨.ping, 0, [1]⟩, ⟨.unknown 0xcafe, 2, []⟩] fun e he => ?_⟩
  rcases List.mem_cons.1 he with rfl | he
  · exact ⟨trivial, by decide⟩
  · obtain rfl := List.mem_singleton.1 he
    exact ⟨by decide, by decide⟩

/-- The number of a hello given to the kind that stands for the numbers without one comes back as a hello. -/
theorem known_number_not_kept :
    ¬ ∀ kind flags payload e, new kind flags payload = .ok e →
      ∃ bytes, e.toBytes = .ok bytes ∧ fromBytes bytes = .ok e := by
  intro h
  obtain ⟨bytes, hbytes, hread⟩ := h (.unknown 1) 0 [] ⟨.unknown 1, 0, []⟩ (by decide)
  obtain ⟨-, hcanonical, -⟩ := fromBytes_eq_ok.1 hread
  revert hcanonical
  decide

end Envelope

end Flow
end OpenLogi
