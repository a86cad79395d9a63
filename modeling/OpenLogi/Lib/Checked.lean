import Mathlib.Tactic.Linarith
/-!
# Checked — signed arithmetic that has to fit its type

An operation of a signed type gives the exact result where the type holds it, and a fault otherwise.  Two values of one
type multiply within the type of twice its width.  Two such products have one sum that does not fit: the one where all
four values are the least.
-/
namespace OpenLogi
namespace Lib

inductive ArithFault where
  | overflow (bits : Nat)
  | divideByZero
  deriving DecidableEq

/-- How many negative integers a signed type of so many bits holds; the least of them is its opposite. -/
def half (bits : Nat) : Int := 2 ^ (bits - 1)

/-- The integers that a signed type of so many bits holds. -/
def Fits (bits : Nat) (n : Int) : Prop := -half bits ≤ n ∧ n < half bits

instance (bits : Nat) (n : Int) : Decidable (Fits bits n) := inferInstanceAs (Decidable (_ ∧ _))

def fit (bits : Nat) (n : Int) : Except ArithFault Int := if Fits bits n then .ok n else .error (.overflow bits)

def addChecked (bits : Nat) (a b : Int) : Except ArithFault Int := fit bits (a + b)

def subChecked (bits : Nat) (a b : Int) : Except ArithFault Int := fit bits (a - b)

def mulChecked (bits : Nat) (a b : Int) : Except ArithFault Int := fit bits (a * b)

/-- The quotient, rounded toward zero. -/
def divChecked (bits : Nat) (a b : Int) : Except ArithFault Int :=
  if b = 0 then .error .divideByZero else fit bits (a.tdiv b)

variable {bits : Nat} {a b c d n : Int}

theorem fit_of_fits (h : Fits bits n) : fit bits n = .ok n := if_pos h

theorem fit_of_not_fits (h : ¬ Fits bits n) : fit bits n = .error (.overflow bits) := if_neg h

theorem addChecked_of_fits (h : Fits bits (a + b)) : addChecked bits a b = .ok (a + b) := fit_of_fits h

theorem addChecked_of_not_fits (h : ¬ Fits bits (a + b)) : addChecked bits a b = .error (.overflow bits) :=
  fit_of_not_fits h

theorem subChecked_of_fits (h : Fits bits (a - b)) : subChecked bits a b = .ok (a - b) := fit_of_fits h

theorem mulChecked_of_fits (h : Fits bits (a * b)) : mulChecked bits a b = .ok (a * b) := fit_of_fits h

@[simp] theorem ok_bind {α β : Type} (x : α) (f : α → Except ArithFault β) : Except.ok x >>= f = f x := rfl

@[simp] theorem error_bind {α β : Type} (fault : ArithFault) (f : α → Except ArithFault β) :
    Except.error fault >>= f = .error fault := rfl

theorem half_pos (bits : Nat) : 0 < half bits := by
  unfold half
  positivity

theorem half_double (h : 0 < bits) : half (2 * bits) = 2 * (half bits * half bits) := by
  have hexp : 2 * bits - 1 = (bits - 1) + (bits - 1) + 1 := by omega
  unfold half
  rw [hexp, pow_succ, pow_add, mul_comm]

/-! ## Products -/

/-- What two values of one type multiply to; the upper end is the square of the least value. -/
theorem Fits.mul_bounds (ha : Fits bits a) (hb : Fits bits b) :
    half bits - half bits * half bits ≤ a * b ∧ a * b ≤ half bits * half bits := by
  obtain ⟨ha1, ha2⟩ := ha
  obtain ⟨hb1, hb2⟩ := hb
  have hm := half_pos bits
  rcases le_total 0 b with h | h
  · exact ⟨by nlinarith, by nlinarith⟩
  · exact ⟨by nlinarith, by nlinarith⟩

/-- With a factor that is not negative the product stays below that end. -/
theorem Fits.scaled_bounds (ha : Fits bits a) (hb : Fits bits b) (h : 0 ≤ b) :
    half bits - half bits * half bits ≤ a * b ∧ a * b ≤ half bits * half bits - half bits := by
  obtain ⟨ha1, ha2⟩ := ha
  obtain ⟨hb1, hb2⟩ := hb
  have hm := half_pos bits
  exact ⟨by nlinarith, by nlinarith⟩

theorem Fits.mul_eq_iff (ha : Fits bits a) (hb : Fits bits b) :
    a * b = half bits * half bits ↔ a = -half bits ∧ b = -half bits := by
  have hm := half_pos bits
  constructor
  · intro h
    obtain ⟨ha1, ha2⟩ := ha
    obtain ⟨hb1, hb2⟩ := hb
    have hneg : b < 0 := by
      by_contra hb
      nlinarith
    constructor
    · nlinarith
    · nlinarith
  · rintro ⟨rfl, rfl⟩
    exact neg_mul_neg (half bits) (half bits)

theorem Fits.mul (hbits : 0 < bits) (ha : Fits bits a) (hb : Fits bits b) : Fits (2 * bits) (a * b) := by
  obtain ⟨hlow, hhigh⟩ := ha.mul_bounds hb
  have hm := half_pos bits
  unfold Fits
  rw [half_double hbits]
  constructor
  · nlinarith
  · nlinarith

/-- **Two products have one sum that does not fit.** -/
theorem fits_add_mul_iff (hbits : 0 < bits) (ha : Fits bits a) (hb : Fits bits b) (hc : Fits bits c)
    (hd : Fits bits d) : Fits (2 * bits) (a * b + c * d) ↔
      ¬ (a = -half bits ∧ b = -half bits ∧ c = -half bits ∧ d = -half bits) := by
  obtain ⟨hlow, hhigh⟩ := ha.mul_bounds hb
  obtain ⟨hlow', hhigh'⟩ := hc.mul_bounds hd
  have hm := half_pos bits
  have htop : a * b + c * d < 2 * (half bits * half bits) ↔
      ¬ (a * b = half bits * half bits ∧ c * d = half bits * half bits) := by omega
  unfold Fits
  rw [half_double hbits, htop, ha.mul_eq_iff hb, hc.mul_eq_iff hd, and_assoc]
  refine ⟨And.right, fun h => ⟨?_, h⟩⟩
  omega

/-! ## Quotients -/

/-- A quotient by a positive number lies between the number divided and zero. -/
theorem tdiv_between (a : Int) (hb : 0 < b) : min a 0 ≤ a.tdiv b ∧ a.tdiv b ≤ max a 0 := by
  rcases le_total 0 a with h | h
  · have hnonneg := Int.tdiv_nonneg h hb.le
    have hle := Int.tdiv_le_self b h
    omega
  · have hnonneg := Int.tdiv_nonneg (Int.neg_nonneg.2 h) hb.le
    have hle := Int.tdiv_le_self b (Int.neg_nonneg.2 h)
    rw [Int.neg_tdiv] at hnonneg hle
    omega

theorem Fits.tdiv (ha : Fits bits a) (hb : 0 < b) : Fits bits (a.tdiv b) := by
  obtain ⟨hlow, hhigh⟩ := ha
  obtain ⟨hlow', hhigh'⟩ := tdiv_between a hb
  have hm := half_pos bits
  unfold Fits
  omega

theorem divChecked_of_pos (ha : Fits bits a) (hb : 0 < b) : divChecked bits a b = .ok (a.tdiv b) := by
  unfold divChecked
  rw [if_neg hb.ne', fit_of_fits (ha.tdiv hb)]

/-- **Two shares add up within the type of twice the width.** -/
theorem fits_add_shares (hbits : 0 < bits) (ha : Fits bits a) (hb : Fits bits b) (hb0 : 0 ≤ b) (hc : Fits bits c)
    (hd : Fits bits d) (hd0 : 0 ≤ d) {p q : Int} (hp : 0 < p) (hq : 0 < q) :
    Fits (2 * bits) ((a * b).tdiv p + (c * d).tdiv q) := by
  obtain ⟨hlow, hhigh⟩ := ha.scaled_bounds hb hb0
  obtain ⟨hlow', hhigh'⟩ := hc.scaled_bounds hd hd0
  have hfirst := tdiv_between (a * b) hp
  have hsecond := tdiv_between (c * d) hq
  have hm := half_pos bits
  have hsquare : half bits ≤ half bits * half bits := le_mul_of_one_le_left hm.le hm
  unfold Fits
  rw [half_double hbits]
  omega

end Lib
end OpenLogi
