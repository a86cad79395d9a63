import Mathlib.Algebra.Group.Nat.Defs
import Mathlib.Data.List.Basic
/-!
# Digits — numbers written in a fixed number of digits

A number below a power of the base is written with zeros in front, and reads back; two numbers written alike are one.
The digits are those of `Nat.digitChar`, for a base of at most sixteen.
-/
namespace OpenLogi
namespace Lib

/-- A number in at least so many digits. -/
def padded (base width n : Nat) : List Char :=
  let ds := Nat.toDigits base n
  List.replicate (width - ds.length) '0' ++ ds

def digitValue (c : Char) : Nat := if c.isDigit then c.toNat - '0'.toNat else c.toNat - 'a'.toNat + 10

def readDigits (base : Nat) (ds : List Char) : Nat := ds.foldl (fun n c => base * n + digitValue c) 0

theorem digitValue_digitChar {d : Nat} (h : d < 16) : digitValue d.digitChar = d := by
  have hall : ∀ d : Fin 16, digitValue d.val.digitChar = d.val := by decide
  exact hall ⟨d, h⟩

theorem readDigits_concat (base : Nat) (ds : List Char) (c : Char) :
    readDigits base (ds ++ [c]) = base * readDigits base ds + digitValue c := by
  unfold readDigits
  rw [List.foldl_append]
  rfl

theorem readDigits_zeros (base : Nat) (ds : List Char) :
    ∀ k, readDigits base (List.replicate k '0' ++ ds) = readDigits base ds
  | 0 => rfl
  | k + 1 => by
    have hzero : readDigits base ('0' :: (List.replicate k '0' ++ ds)) =
        readDigits base (List.replicate k '0' ++ ds) := rfl
    rw [List.replicate_succ, List.cons_append, hzero, readDigits_zeros base ds k]

section
variable {base : Nat} (hbase : 1 < base)
include hbase

theorem readDigits_toDigits (hmax : base ≤ 16) (n : Nat) : readDigits base (Nat.toDigits base n) = n := by
  induction n using Nat.strongRecOn with
  | ind n ih =>
    rw [Nat.toDigits_eq_if hbase]
    by_cases hn : n < base
    · have hvalue := digitValue_digitChar (Nat.lt_of_lt_of_le hn hmax)
      rw [if_pos hn]
      simp [readDigits, hvalue]
    · have hlast : n % base < 16 := Nat.lt_of_lt_of_le (Nat.mod_lt n (by omega)) hmax
      rw [if_neg hn, readDigits_concat, ih (n / base) (Nat.div_lt_self (by omega) hbase), digitValue_digitChar hlast,
        Nat.div_add_mod]

/-- **A number reads back from its digits.** -/
theorem readDigits_padded (hmax : base ≤ 16) (width n : Nat) : readDigits base (padded base width n) = n := by
  unfold padded
  rw [readDigits_zeros, readDigits_toDigits hbase hmax]

theorem padded_inj (hmax : base ≤ 16) {width m n : Nat} (h : padded base width m = padded base width n) : m = n := by
  have hread := congrArg (readDigits base) h
  rwa [readDigits_padded hbase hmax, readDigits_padded hbase hmax] at hread

theorem length_padded {width n : Nat} (hwidth : 0 < width) (hn : n < base ^ width) :
    (padded base width n).length = width := by
  have hlen := (Nat.length_toDigits_le_iff hbase hwidth).2 hn
  unfold padded
  rw [List.length_append, List.length_replicate]
  omega

theorem mem_toDigits {n : Nat} {c : Char} (h : c ∈ Nat.toDigits base n) : ∃ d < base, c = d.digitChar := by
  induction n using Nat.strongRecOn with
  | ind n ih =>
    rw [Nat.toDigits_eq_if hbase] at h
    by_cases hn : n < base
    · rw [if_pos hn] at h
      exact ⟨n, hn, List.mem_singleton.1 h⟩
    · rw [if_neg hn] at h
      rcases List.mem_append.1 h with hrest | hlast
      · exact ih (n / base) (Nat.div_lt_self (by omega) hbase) hrest
      · exact ⟨n % base, Nat.mod_lt n (by omega), List.mem_singleton.1 hlast⟩

theorem mem_padded {width n : Nat} {c : Char} (h : c ∈ padded base width n) : ∃ d < base, c = d.digitChar := by
  rcases List.mem_append.1 h with hzero | hdigit
  · exact ⟨0, by omega, List.eq_of_mem_replicate hzero⟩
  · exact mem_toDigits hbase hdigit

end

end Lib
end OpenLogi
