import Mathlib.Algebra.Group.Nat.Defs
import Mathlib.Data.List.Basic
/-!
# Codec — little-endian numbers, and records read one after another

A number of a fixed width is written with its least byte first.  A reader takes one record off the front of its input;
one that undoes a writer, whatever follows, reads a concatenation record by record.
-/
namespace OpenLogi
namespace Lib

/-! ## Little-endian numbers -/

/-- `to_le_bytes` of a number of `width` bytes. -/
def toLe : Nat → Nat → List UInt8
  | 0, _ => []
  | width + 1, n => UInt8.ofNat n :: toLe width (n / 256)

/-- `from_le_bytes`. -/
def ofLe : List UInt8 → Nat
  | [] => 0
  | b :: bytes => b.toNat + 256 * ofLe bytes

@[simp] theorem length_toLe : ∀ width n, (toLe width n).length = width
  | 0, _ => rfl
  | width + 1, n => congrArg (· + 1) (length_toLe width (n / 256))

theorem ofLe_toLe : ∀ width n, n < 256 ^ width → ofLe (toLe width n) = n
  | 0, n, h => by
    rw [Nat.pow_zero] at h
    exact (Nat.lt_one_iff.1 h).symm
  | width + 1, n, h => by
    have hrest : n / 256 < 256 ^ width := by
      rw [Nat.pow_succ, Nat.mul_comm] at h
      exact Nat.div_lt_of_lt_mul h
    rw [toLe, ofLe, ofLe_toLe width (n / 256) hrest, UInt8.toNat_ofNat']
    omega

theorem toLe_ofLe : ∀ {width : Nat} (bytes : List UInt8), bytes.length = width → toLe width (ofLe bytes) = bytes
  | _, [], rfl => rfl
  | _, b :: bytes, rfl => by
    have hb : b.toNat < 256 := b.toNat_lt
    have hlow : UInt8.ofNat (b.toNat + 256 * ofLe bytes) = b := by
      apply UInt8.toNat_inj.1
      rw [UInt8.toNat_ofNat']
      omega
    have hrest : (b.toNat + 256 * ofLe bytes) / 256 = ofLe bytes := by omega
    rw [List.length_cons, ofLe, toLe, hlow, hrest, toLe_ofLe bytes rfl]

theorem ofLe_lt : ∀ {width : Nat} (bytes : List UInt8), bytes.length = width → ofLe bytes < 256 ^ width
  | _, [], rfl => Nat.one_pos
  | _, b :: bytes, rfl => by
    have hb : b.toNat < 256 := b.toNat_lt
    have hrest := ofLe_lt bytes rfl
    rw [List.length_cons, Nat.pow_succ, ofLe]
    omega

/-! ## Records in a row -/

variable {α β ε : Type}

/-- The first `n` items, and the rest, when there are as many. -/
def readExact (n : Nat) (input : List β) : Option (List β × List β) :=
  if input.length < n then none else some (input.splitAt n)

theorem readExact_eq_some {n : Nat} {input first rest : List β} :
    readExact n input = some (first, rest) ↔ first.length = n ∧ input = first ++ rest := by
  unfold readExact
  rw [List.splitAt_eq]
  split
  · rename_i hshort
    refine iff_of_false (fun hc => (nomatch hc)) ?_
    rintro ⟨rfl, rfl⟩
    rw [List.length_append] at hshort
    omega
  · rename_i hlong
    constructor
    · intro h
      cases h
      exact ⟨List.length_take_of_le (Nat.not_lt.1 hlong), (List.take_append_drop n input).symm⟩
    · rintro ⟨rfl, rfl⟩
      rw [List.take_left, List.drop_left]

theorem readExact_append {n : Nat} {first : List β} (h : first.length = n) (rest : List β) :
    readExact n (first ++ rest) = some (first, rest) :=
  readExact_eq_some.2 ⟨h, rfl⟩

/-- Read `n` records. -/
def readMany (read : List β → Except ε (α × List β)) : Nat → List β → Except ε (List α × List β)
  | 0, input => .ok ([], input)
  | n + 1, input =>
    match read input with
    | .error error => .error error
    | .ok (record, rest) => (readMany read n rest).map fun read => (record :: read.1, read.2)

/-- **A reader that undoes the writer reads back what was written in a row, and nothing more.** -/
theorem readMany_flatMap {read : List β → Except ε (α × List β)} {write : α → List β} (rest : List β) :
    ∀ records : List α, (∀ record ∈ records, ∀ rest, read (write record ++ rest) = .ok (record, rest)) →
      readMany read records.length (records.flatMap write ++ rest) = .ok (records, rest)
  | [], _ => rfl
  | record :: records, h => by
    have hfirst := h record List.mem_cons_self (records.flatMap write ++ rest)
    have htail := readMany_flatMap rest records fun other hother => h other (List.mem_cons_of_mem _ hother)
    rw [List.length_cons, List.flatMap_cons, List.append_assoc, readMany, hfirst]
    dsimp only
    rw [htail]
    rfl

end Lib
end OpenLogi
