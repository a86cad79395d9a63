import Mathlib.Data.List.GetD
import OpenLogi.Lib.Utf8
import OpenLogi.Probe.Features
/-!
# Names — the names of the computers that a device switches between

A name is written into a slot's buffer and read back in chunks of fourteen bytes, by two loops: the writer's covers the
whole buffer, the reader's only the length the device reports.
-/
namespace OpenLogi
namespace HostSwitch

open Probe (Hidpp20Error isWhitespace trimMatches)
open Lib (utf8Bytes fromUtf8Lossy)

/-- Bytes of a name that one transfer carries. -/
def hostNameChunkLen : Nat := 14

structure EasySwitchSlot where
  index : UInt8
  paired : Bool
  nameMaxLen : UInt8

structure EasySwitchHosts where
  slots : List EasySwitchSlot
  canRename : Bool

inductive WriteError where
  | hostRenameUnsupported
  | hostSlotEmpty (slot : UInt8)
  | hostNameRejected (maxLen : UInt8)
  deriving DecidableEq

namespace EasySwitchHosts

def slot (hosts : EasySwitchHosts) (index : UInt8) : Option EasySwitchSlot :=
  hosts.slots.find? fun slot => slot.index = index

/-- `str::trim`. -/
def trim (name : String) : String := String.ofList (trimMatches isWhitespace name.toList)

/-- The name to write when `name` is asked for a slot. -/
def nameFor (hosts : EasySwitchHosts) (index : UInt8) (name : String) : Except WriteError String :=
  if !hosts.canRename then .error .hostRenameUnsupported
  else
    match (hosts.slot index).filter EasySwitchSlot.paired with
    | none => .error (.hostSlotEmpty index)
    | some slot =>
      let name := trim name
      if name.isEmpty || name.toList.contains (Char.ofNat 0) || slot.nameMaxLen.toNat < (utf8Bytes name).length then
        .error (.hostNameRejected slot.nameMaxLen)
      else .ok name

/-- The slots are the ones the device counted: `0..host_count`. -/
def Listed (hosts : EasySwitchHosts) : Prop :=
  ∃ hostCount : UInt8, ∀ slot ∈ hosts.slots, slot.index < hostCount

end EasySwitchHosts

/-! ## Chunks -/

/-- `(0..len).step_by(HOST_NAME_CHUNK_LEN)`. -/
def chunkOffsets (len : UInt8) : List UInt8 :=
  (List.range ((len.toNat + (hostNameChunkLen - 1)) / hostNameChunkLen)).map fun k => UInt8.ofNat (k * hostNameChunkLen)

/-- `&bytes[start..end]`; `none` where it panics. -/
def slice (bytes : List UInt8) (start stop : Nat) : Option (List UInt8) :=
  if start ≤ stop ∧ stop ≤ bytes.length then some ((bytes.drop start).take (stop - start)) else none

/-- `chunk[..len].copy_from_slice(bytes)`; `none` where it panics. -/
def copyToFront (chunk : List UInt8) (len : Nat) (bytes : List UInt8) : Option (List UInt8) :=
  if len ≤ chunk.length ∧ bytes.length = len then some (bytes ++ chunk.drop len) else none

/-- The chunk that is written at an offset. -/
def nameChunk (name : List UInt8) (offset : UInt8) : Option (List UInt8) :=
  let start := min offset.toNat name.length
  let stop := min (offset.toNat + hostNameChunkLen) name.length
  (slice name start stop).bind fun bytes => copyToFront (List.replicate hostNameChunkLen 0) (stop - start) bytes

/-! ## The device -/

inductive HostIndex where
  | current
  | slot (index : UInt8)
  deriving DecidableEq

/-- `u8::from(host)` and back, as the device echoes it. -/
def HostIndex.echoed (index : UInt8) : HostIndex := if index = 0xff then .current else .slot index

structure HostNameChunk where
  hostIndex : HostIndex
  offset : UInt8
  bytes : List UInt8

/-- What the length of a name means to a device. -/
inductive NameLength where
  | toFirstZero
  | wholeBuffer

/-- A slot of a device: it keeps a buffer, and answers with anything past its end. -/
structure NameMemory where
  buffer : List UInt8
  length : NameLength
  beyond : Nat → UInt8

namespace NameMemory

/-- `setHostFriendlyName`: the bytes past the buffer are dropped. -/
def set (memory : NameMemory) (offset : UInt8) (chunk : List UInt8) : NameMemory :=
  { memory with buffer := memory.buffer.mapIdx fun i byte =>
      if offset.toNat ≤ i ∧ i < offset.toNat + chunk.length then chunk.getD (i - offset.toNat) 0 else byte }

/-- `getHostFriendlyName`. -/
def get (memory : NameMemory) (slot offset : UInt8) : Except Hidpp20Error HostNameChunk :=
  .ok
    { hostIndex := .echoed slot
      offset
      bytes := (List.range hostNameChunkLen).map fun i =>
        memory.buffer.getD (offset.toNat + i) (memory.beyond (offset.toNat + i)) }

/-- The length that the device reports. -/
def nameLen (memory : NameMemory) : UInt8 :=
  match memory.length with
  | .toFirstZero => UInt8.ofNat (memory.buffer.findIdx (· = 0))
  | .wholeBuffer => UInt8.ofNat memory.buffer.length

end NameMemory

/-- Write `name` into the whole buffer; `none` where the code would panic. -/
def writeName (memory : NameMemory) (nameMaxLen : UInt8) (name : String) : Option NameMemory :=
  (chunkOffsets nameMaxLen).foldlM (fun memory offset =>
    (nameChunk (utf8Bytes name) offset).map (memory.set offset)) memory

/-- The device declines a read that it does not offer. -/
def isDeclined : Hidpp20Error → Bool
  | .feature (.other code) => code = 7 || code = 9 || code = 2
  | .unsupportedResponse => true
  | _ => false

/-- A name up to the first zero byte; no bytes is no name. -/
def decodeName (bytes : List UInt8) : Option String :=
  let stop := bytes.findIdx (· = 0)
  if 0 < stop then some (fromUtf8Lossy (bytes.take stop)) else none

/-- The chunks of a name, or `none` when the device declines one. -/
def readChunks (get : UInt8 → Except Hidpp20Error HostNameChunk) (slot : UInt8) :
    List UInt8 → List UInt8 → Except Hidpp20Error (Option (List UInt8))
  | [], bytes => .ok (some bytes)
  | offset :: offsets, bytes =>
    match get offset with
    | .ok chunk =>
      if chunk.hostIndex ≠ .slot slot ∨ chunk.offset ≠ offset then .error .unsupportedResponse
      else readChunks get slot offsets (bytes ++ chunk.bytes)
    | .error error => if isDeclined error then .ok none else .error error

/-- The name of a slot. -/
def readName (get : UInt8 → Except Hidpp20Error HostNameChunk) (slot nameLen : UInt8) :
    Except Hidpp20Error (Option String) :=
  (readChunks get slot (chunkOffsets nameLen) []).map fun bytes =>
    bytes.bind fun bytes => decodeName (bytes.take nameLen.toNat)

/-! ## Offsets -/

variable {len index : UInt8} {name : String}

theorem toNat_chunkOffset {k : Nat} (h : k < (len.toNat + (hostNameChunkLen - 1)) / hostNameChunkLen) :
    (UInt8.ofNat (k * hostNameChunkLen)).toNat = k * hostNameChunkLen ∧ k * hostNameChunkLen < len.toNat := by
  unfold hostNameChunkLen at *
  have hlen : len.toNat < 256 := len.toNat_lt
  have hk : k * 14 < len.toNat := by omega
  have hfits : k * 14 < UInt8.size := Nat.lt_trans hk hlen
  exact ⟨UInt8.toNat_ofNat_of_lt' hfits, hk⟩

/-- Every offset is inside the buffer, and fourteen more is no `u8` overflow. -/
theorem lt_of_mem_chunkOffsets {offset : UInt8} (h : offset ∈ chunkOffsets len) : offset < len := by
  obtain ⟨k, hk, rfl⟩ := List.mem_map.1 h
  obtain ⟨hnat, hlt⟩ := toNat_chunkOffset (List.mem_range.1 hk)
  rw [UInt8.lt_iff_toNat_lt, hnat]
  exact hlt

/-- The chunks cover every byte. -/
theorem covered_by_chunk {i : Nat} (h : i < len.toNat) :
    ∃ offset ∈ chunkOffsets len, offset.toNat ≤ i ∧ i < offset.toNat + hostNameChunkLen := by
  have hk : i / hostNameChunkLen < (len.toNat + (hostNameChunkLen - 1)) / hostNameChunkLen := by
    unfold hostNameChunkLen
    omega
  refine ⟨_, List.mem_map_of_mem (List.mem_range.2 hk), ?_⟩
  rw [(toNat_chunkOffset hk).1]
  unfold hostNameChunkLen
  omega

/-- Reading all chunks in order reads on without a gap. -/
theorem flatMap_chunkOffsets (len : UInt8) (content : Nat → UInt8) :
    ((chunkOffsets len).flatMap fun offset => (List.range hostNameChunkLen).map fun i => content (offset.toNat + i)) =
      (List.range ((len.toNat + (hostNameChunkLen - 1)) / hostNameChunkLen * hostNameChunkLen)).map content := by
  have hrange : ∀ count, count ≤ (len.toNat + (hostNameChunkLen - 1)) / hostNameChunkLen →
      (((List.range count).map fun k => UInt8.ofNat (k * hostNameChunkLen)).flatMap fun offset =>
        (List.range hostNameChunkLen).map fun i => content (offset.toNat + i)) =
          (List.range (count * hostNameChunkLen)).map content := by
    intro count hcount
    induction count with
    | zero => rw [Nat.zero_mul, List.range_zero, List.map_nil, List.flatMap_nil, List.map_nil]
    | succ count ih =>
      rw [List.range_succ, List.map_append, List.flatMap_append, ih (Nat.le_of_succ_le hcount), Nat.succ_mul,
        List.range_add, List.map_append, List.map_singleton, List.flatMap_singleton, List.map_map,
        (toNat_chunkOffset hcount).1]
      rfl
  exact hrange _ (Nat.le_refl _)

/-! ## Writing -/

/-- The name, with zeros behind it. -/
def padded (name : List UInt8) (i : Nat) : UInt8 := name.getD i 0

/-- **No bound of a chunk is out of range**: fourteen bytes of the padded name are sent. -/
theorem nameChunk_eq (name : List UInt8) (offset : UInt8) :
    nameChunk name offset = some ((List.range hostNameChunkLen).map fun i => padded name (offset.toNat + i)) := by
  have hstart : min offset.toNat name.length ≤ min (offset.toNat + hostNameChunkLen) name.length := by omega
  have hstop : min (offset.toNat + hostNameChunkLen) name.length ≤ name.length := by omega
  have hwidth : min (offset.toNat + hostNameChunkLen) name.length - min offset.toNat name.length ≤ hostNameChunkLen := by
    omega
  have hlength : ((name.drop (min offset.toNat name.length)).take
      (min (offset.toNat + hostNameChunkLen) name.length - min offset.toNat name.length)).length =
        min (offset.toNat + hostNameChunkLen) name.length - min offset.toNat name.length := by
    rw [List.length_take, List.length_drop]
    omega
  unfold nameChunk slice copyToFront
  dsimp only
  rw [if_pos ⟨hstart, hstop⟩, Option.bind_some, if_pos ⟨by rw [List.length_replicate]; exact hwidth, hlength⟩]
  congr 1
  refine List.ext_getElem ?_ fun i hi hi' => ?_
  · rw [List.length_append, hlength, List.length_drop, List.length_replicate, List.length_map, List.length_range]
    omega
  · rw [List.length_map, List.length_range] at hi'
    rw [List.getElem_append, List.getElem_map, List.getElem_range]
    unfold padded
    split
    · rename_i hin
      rw [hlength] at hin
      rw [List.getElem_take, List.getElem_drop, List.getD_eq_getElem _ _ (by omega)]
      congr 1
      omega
    · rename_i hout
      rw [hlength] at hout
      rw [List.getElem_drop, List.getElem_replicate, List.getD_eq_default _ _ (by omega)]

theorem length_set (memory : NameMemory) (offset : UInt8) (chunk : List UInt8) :
    (memory.set offset chunk).buffer.length = memory.buffer.length :=
  List.length_mapIdx

/-- What writing the chunks at some offsets leaves. -/
theorem buffer_set_chunks (name : List UInt8) (offsets : List UInt8) (memory : NameMemory) :
    (offsets.foldlM (fun memory offset => (nameChunk name offset).map (NameMemory.set memory offset)) memory) =
      some { memory with buffer := memory.buffer.mapIdx fun i byte =>
        if ∃ offset ∈ offsets, offset.toNat ≤ i ∧ i < offset.toNat + hostNameChunkLen then padded name i else byte } := by
  induction offsets generalizing memory with
  | nil =>
    have hsame : memory.buffer.mapIdx (fun i byte =>
        if ∃ offset ∈ ([] : List UInt8), offset.toNat ≤ i ∧ i < offset.toNat + hostNameChunkLen then padded name i
        else byte) = memory.buffer := by
      refine List.ext_getElem List.length_mapIdx fun i _ _ => ?_
      rw [List.getElem_mapIdx, if_neg]
      rintro ⟨offset, hmem, -⟩
      cases hmem
    rw [hsame]
    rfl
  | cons offset offsets ih =>
    rw [List.foldlM_cons, nameChunk_eq, Option.map_some]
    have hchunk : ∀ j, j < hostNameChunkLen →
        ((List.range hostNameChunkLen).map fun i => padded name (offset.toNat + i)).getD j 0 =
          padded name (offset.toNat + j) := by
      intro j hj
      rw [List.getD_eq_getElem _ _ (by rw [List.length_map, List.length_range]; exact hj), List.getElem_map,
        List.getElem_range]
    have hwidth : ((List.range hostNameChunkLen).map fun i => padded name (offset.toNat + i)).length =
        hostNameChunkLen := by
      rw [List.length_map, List.length_range]
    generalize (List.range hostNameChunkLen).map (fun i => padded name (offset.toNat + i)) = chunk at hchunk hwidth
    refine (ih _).trans ?_
    congr 2
    refine List.ext_getElem (by rw [List.length_mapIdx, List.length_mapIdx, length_set]) fun i hi hi' => ?_
    rw [List.length_mapIdx] at hi'
    have hset : (memory.set offset chunk).buffer = memory.buffer.mapIdx fun i byte =>
        if offset.toNat ≤ i ∧ i < offset.toNat + chunk.length then chunk.getD (i - offset.toNat) 0 else byte := rfl
    simp only [hset, List.getElem_mapIdx, hwidth]
    by_cases hrest : ∃ offset ∈ offsets, offset.toNat ≤ i ∧ i < offset.toNat + hostNameChunkLen
    · obtain ⟨other, hother, hin⟩ := hrest
      rw [if_pos ⟨other, hother, hin⟩, if_pos ⟨other, List.mem_cons_of_mem _ hother, hin⟩]
    · rw [if_neg hrest]
      by_cases hin : offset.toNat ≤ i ∧ i < offset.toNat + hostNameChunkLen
      · rw [if_pos hin, if_pos ⟨offset, List.mem_cons_self, hin⟩, hchunk _ (by omega)]
        congr 1
        omega
      · rw [if_neg hin, if_neg]
        rintro ⟨other, hother, hat⟩
        rcases List.mem_cons.1 hother with rfl | hother
        · exact hin hat
        · exact hrest ⟨other, hother, hat⟩

/-- **The whole buffer holds the name and zeros**, whatever it held before. -/
theorem writeName_eq {memory : NameMemory} {nameMaxLen : UInt8} (hlength : memory.buffer.length = nameMaxLen.toNat)
    (hname : (utf8Bytes name).length ≤ nameMaxLen.toNat) :
    writeName memory nameMaxLen name = some { memory with
      buffer := utf8Bytes name ++ List.replicate (nameMaxLen.toNat - (utf8Bytes name).length) 0 } := by
  refine (buffer_set_chunks (utf8Bytes name) _ memory).trans ?_
  congr 2
  refine List.ext_getElem ?_ fun i hi hi' => ?_
  · rw [List.length_mapIdx, List.length_append, List.length_replicate]
    omega
  · rw [List.length_mapIdx] at hi
    rw [List.getElem_mapIdx, if_pos (covered_by_chunk (by omega)), List.getElem_append]
    unfold padded
    split
    · rw [List.getD_eq_getElem _ _ ‹_›]
    · rw [List.getD_eq_default _ _ (Nat.le_of_not_lt ‹_›), List.getElem_replicate]

/-! ## Reading -/

/-- What a device holds at a byte, past its buffer too. -/
def NameMemory.byteAt (memory : NameMemory) (i : Nat) : UInt8 := memory.buffer.getD i (memory.beyond i)

/-- A slot of the device answers every read, for itself and at the offset asked for. -/
theorem readChunks_get (memory : NameMemory) (hindex : index ≠ 0xff) (offsets bytes : List UInt8) :
    readChunks (memory.get index) index offsets bytes =
      .ok (some (bytes ++ offsets.flatMap fun offset =>
        (List.range hostNameChunkLen).map fun i => memory.byteAt (offset.toNat + i))) := by
  induction offsets generalizing bytes with
  | nil => rw [List.flatMap_nil, List.append_nil, readChunks]
  | cons offset offsets ih =>
    have hget : memory.get index offset = .ok
        { hostIndex := .slot index
          offset
          bytes := (List.range hostNameChunkLen).map fun i => memory.byteAt (offset.toNat + i) } := by
      unfold NameMemory.get HostIndex.echoed
      rw [if_neg hindex]
      rfl
    rw [readChunks, hget]
    dsimp only
    rw [if_neg (by rintro (h | h) <;> exact h rfl), ih, List.flatMap_cons, List.append_assoc]

/-- **Reading as many bytes as the buffer has gives its first ones.** -/
theorem readName_get (memory : NameMemory) {nameLen : UInt8} (hindex : index ≠ 0xff)
    (hlen : nameLen.toNat ≤ memory.buffer.length) :
    readName (memory.get index) index nameLen = .ok (decodeName (memory.buffer.take nameLen.toNat)) := by
  have hcover : nameLen.toNat ≤
      (nameLen.toNat + (hostNameChunkLen - 1)) / hostNameChunkLen * hostNameChunkLen := by
    unfold hostNameChunkLen
    omega
  have htake : (((List.range ((nameLen.toNat + (hostNameChunkLen - 1)) / hostNameChunkLen * hostNameChunkLen)).map
      memory.byteAt).take nameLen.toNat) = memory.buffer.take nameLen.toNat := by
    refine List.ext_getElem ?_ fun i hi hi' => ?_
    · rw [List.length_take, List.length_take, List.length_map, List.length_range]
      omega
    · rw [List.length_take] at hi'
      rw [List.getElem_take, List.getElem_take, List.getElem_map, List.getElem_range]
      exact List.getD_eq_getElem _ _ (by omega)
  unfold readName
  rw [readChunks_get memory hindex, List.nil_append, flatMap_chunkOffsets nameLen memory.byteAt]
  exact congrArg (fun bytes => Except.ok (decodeName bytes)) htake

theorem findIdx_padded {name : List UInt8} {count : Nat} (hzero : (0 : UInt8) ∉ name) :
    (name ++ List.replicate count 0).findIdx (· = 0) = name.length := by
  have hnone : name.findIdx (· = 0) = name.length := by
    refine List.findIdx_eq_length.2 fun byte hbyte => ?_
    exact decide_eq_false fun h => hzero (h ▸ hbyte)
  rw [List.findIdx_append, hnone, if_neg (Nat.lt_irrefl _)]
  cases count with
  | zero => rw [List.replicate_zero, List.findIdx_nil, Nat.zero_add]
  | succ count => rw [List.replicate_succ, List.findIdx_cons, decide_eq_true rfl, cond_true, Nat.zero_add]

/-- A name ends at its first zero, or with the bytes. -/
theorem decodeName_padded (count : Nat) (hne : utf8Bytes name ≠ []) (hzero : (0 : UInt8) ∉ utf8Bytes name) :
    decodeName (utf8Bytes name ++ List.replicate count 0) = some name := by
  unfold decodeName
  rw [findIdx_padded hzero]
  dsimp only
  rw [if_pos (List.length_pos_of_ne_nil hne), List.take_left, Lib.fromUtf8Lossy_utf8Bytes]

/-- The length that a device reports: up to the first zero, or all of the buffer. -/
theorem toNat_nameLen (memory : NameMemory) (hfits : memory.buffer.length < UInt8.size) :
    memory.nameLen.toNat = memory.buffer.findIdx (· = 0) ∨ memory.nameLen.toNat = memory.buffer.length := by
  unfold NameMemory.nameLen
  cases memory.length with
  | toFirstZero => exact .inl (UInt8.toNat_ofNat_of_lt' (Nat.lt_of_le_of_lt List.findIdx_le_length hfits))
  | wholeBuffer => exact .inr (UInt8.toNat_ofNat_of_lt' hfits)

/-- What `name_for` gives: a name of at least one byte, none of them zero, that fits into the slot. -/
theorem nameFor_ok {hosts : EasySwitchHosts} {slot : EasySwitchSlot} {asked : String}
    (hslot : hosts.slot index = some slot) (h : hosts.nameFor index asked = .ok name) :
    utf8Bytes name ≠ [] ∧ (0 : UInt8) ∉ utf8Bytes name ∧ (utf8Bytes name).length ≤ slot.nameMaxLen.toNat := by
  unfold EasySwitchHosts.nameFor at h
  rw [hslot] at h
  split at h
  · cases h
  · split at h
    · cases h
    · rename_i found hfound
      have hsame : found = slot := (Option.some.inj (Option.filter_eq_some_iff.1 hfound).1).symm
      subst hsame
      dsimp only at h
      split at h
      · cases h
      · rename_i hfits
        obtain rfl := Except.ok.inj h
        rw [Bool.not_eq_true, Bool.or_eq_false_iff, Bool.or_eq_false_iff] at hfits
        obtain ⟨⟨hempty, hzero⟩, hlong⟩ := hfits
        refine ⟨fun hnil => ?_, fun hmem => ?_, Nat.le_of_not_lt (of_decide_eq_false hlong)⟩
        · have hnone : EasySwitchHosts.trim asked = "" := by
            rw [← Lib.fromUtf8Lossy_utf8Bytes (EasySwitchHosts.trim asked), hnil, Lib.fromUtf8Lossy, Lib.lossyChars]
          rw [hnone] at hempty
          cases hempty
        · exact Bool.false_ne_true (hzero.symm.trans (List.contains_iff_mem.2 (Lib.zero_mem_utf8Bytes hmem)))

theorem slot_ne_of_listed {hosts : EasySwitchHosts} {slot : EasySwitchSlot} (hlisted : hosts.Listed)
    (hslot : hosts.slot index = some slot) : index ≠ 0xff := by
  obtain ⟨hostCount, hcounted⟩ := hlisted
  unfold EasySwitchHosts.slot at hslot
  have hfound := List.find?_some hslot
  have hindex : slot.index = index := of_decide_eq_true hfound
  have hlt := hcounted slot (List.mem_of_find?_eq_some hslot)
  rw [hindex, UInt8.lt_iff_toNat_lt] at hlt
  rintro rfl
  have hbound := hostCount.toNat_lt
  have hlast : (0xff : UInt8).toNat = 255 := rfl
  omega

/-- A buffer that holds a name and zeros reads as the name, whichever length the device reports. -/
theorem readName_padded {written : NameMemory} {nameMaxLen : UInt8} (hindex : index ≠ 0xff) (hne : utf8Bytes name ≠ [])
    (hzero : (0 : UInt8) ∉ utf8Bytes name) (hfits : (utf8Bytes name).length ≤ nameMaxLen.toNat)
    (hbuffer : written.buffer = utf8Bytes name ++ List.replicate (nameMaxLen.toNat - (utf8Bytes name).length) 0) :
    readName (written.get index) index written.nameLen = .ok (some name) := by
  have hwidth : written.buffer.length = nameMaxLen.toNat := by
    rw [hbuffer, List.length_append, List.length_replicate]
    omega
  have hsize : written.buffer.length < UInt8.size := hwidth ▸ nameMaxLen.toNat_lt
  rcases toNat_nameLen written hsize with hlen | hlen
  · have hwhole := decodeName_padded 0 hne hzero
    rw [List.replicate_zero, List.append_nil] at hwhole
    rw [readName_get written hindex (hlen ▸ List.findIdx_le_length), hlen, hbuffer, findIdx_padded hzero,
      List.take_left, hwhole]
  · rw [readName_get written hindex (Nat.le_of_eq hlen), hlen, List.take_length, hbuffer,
      decodeName_padded _ hne hzero]

/-- **A rename reads back**: whatever the buffer held and however the device counts the name's length, no bound is out
of range, every offset is in the buffer, and the name that is read is the one that was written. -/
theorem rename_reads_back (hosts : EasySwitchHosts) (index : UInt8) (asked name : String) (slot : EasySwitchSlot)
    (hlisted : hosts.Listed) (hslot : hosts.slot index = some slot) (hname : hosts.nameFor index asked = .ok name)
    (memory : NameMemory) (hlength : memory.buffer.length = slot.nameMaxLen.toNat) :
    (∀ offset ∈ chunkOffsets slot.nameMaxLen, offset < slot.nameMaxLen) ∧
      ∃ written, writeName memory slot.nameMaxLen name = some written ∧
        readName (written.get index) index written.nameLen = .ok (some name) := by
  obtain ⟨hne, hzero, hfits⟩ := nameFor_ok hslot hname
  refine ⟨fun offset hoffset => lt_of_mem_chunkOffsets hoffset, _, writeName_eq hlength hfits, ?_⟩
  exact readName_padded (slot_ne_of_listed hlisted hslot) hne hzero hfits rfl

/-- Two computers of a device that can rename them. -/
def twoHosts : EasySwitchHosts :=
  { slots :=
      [{ index := 0, paired := false, nameMaxLen := 20 }, { index := 1, paired := true, nameMaxLen := 20 }]
    canRename := true }

/-- A character that straddles a chunk, over a longer name. -/
theorem straddling_name_reads_back :
    (∀ offset ∈ chunkOffsets 20, offset < 20) ∧
      ∃ written, writeName { buffer := List.replicate 20 0x61, length := .wholeBuffer, beyond := fun _ => 0x62 } 20
          "Studio of Mr ä" = some written ∧
        readName (written.get 1) 1 written.nameLen = .ok (some "Studio of Mr ä") :=
  rename_reads_back twoHosts 1 " Studio of Mr ä\n" "Studio of Mr ä"
    { index := 1, paired := true, nameMaxLen := 20 } ⟨2, by decide⟩ rfl (by decide +kernel) _ rfl

end HostSwitch
end OpenLogi
