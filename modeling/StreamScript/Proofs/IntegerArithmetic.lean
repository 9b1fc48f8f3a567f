import Mathlib.Data.Int.ModEq
import Mathlib.Data.Rat.Floor
import StreamScript.Value

/-! Arithmetic of integers. Sums, differences and products are the exact ones, wrapped around to 32 bits. A quotient is
cut toward zero, and what it leaves of the dividend is smaller than the divisor. A single quotient is out of range, that
of the least number by -1, and a zero divisor is the only fault. -/

namespace StreamScript.Value

/-- Of the numbers of 32 bits this one, and no other, differs from the exact result by a multiple of 2^32. -/
def Wraps (exact : Int) (wrapped : Int32) : Prop :=
  ∀ number : Int32, number.toInt ≡ exact [ZMOD 2 ^ 32] ↔ number = wrapped

/-- The next whole number on the way to zero. -/
def truncate (x : ℚ) : Int := if 0 ≤ x then ⌊x⌋ else ⌈x⌉

/-- The one quotient that is too large. -/
def Overflows (dividend divisor : Int32) : Prop := dividend = Int32.minValue ∧ divisor = -1

/-- The outcome of a division that cuts toward zero. Where the quotient overflows, it goes around to the dividend. -/
structure Divided (dividend divisor quotient remainder : Int32) : Prop where
  recombined : quotient.toInt * divisor.toInt + remainder.toInt ≡ dividend.toInt [ZMOD 2 ^ 32]
  smaller : |remainder.toInt| < |divisor.toInt|
  sameSign : remainder = 0 ∨ remainder.toInt.sign = dividend.toInt.sign
  truncated : ¬Overflows dividend divisor → quotient.toInt = truncate (dividend.toInt / divisor.toInt)
  overflowing : Overflows dividend divisor → quotient = Int32.minValue ∧ remainder = 0

section Wrapping

/-- Different numbers of 32 bits are never a multiple of 2^32 apart, so there is no second one. -/
theorem wraps_of_toInt_eq_bmod {exact : Int} {wrapped : Int32} (read : wrapped.toInt = exact.bmod (2 ^ 32)) :
    Wraps exact wrapped := by
  intro number
  constructor
  · intro congruent
    apply Int32.toInt.inj
    calc number.toInt
        = number.toInt.bmod (2 ^ 32) := (Int32.toInt_bmod number).symm
      _ = (number.toInt % 2 ^ 32).bmod (2 ^ 32) := (Int.emod_bmod _ _).symm
      _ = (exact % 2 ^ 32).bmod (2 ^ 32) := by rw [congruent]
      _ = exact.bmod (2 ^ 32) := Int.emod_bmod _ _
      _ = wrapped.toInt := read.symm
  · rintro rfl
    rw [read]
    exact Int.bmod_emod

theorem wraps_add (a b : Int32) : Wraps (a.toInt + b.toInt) (a + b) := wraps_of_toInt_eq_bmod (Int32.toInt_add a b)

theorem wraps_sub (a b : Int32) : Wraps (a.toInt - b.toInt) (a - b) := wraps_of_toInt_eq_bmod (Int32.toInt_sub a b)

theorem wraps_mul (a b : Int32) : Wraps (a.toInt * b.toInt) (a * b) := wraps_of_toInt_eq_bmod (Int32.toInt_mul a b)

theorem wraps_div (a b : Int32) : Wraps (a.toInt.tdiv b.toInt) (a / b) := wraps_of_toInt_eq_bmod (Int32.toInt_div a b)

end Wrapping

section Dividing

theorem truncate_neg (x : ℚ) : truncate (-x) = -truncate x := by
  rcases lt_trichotomy x 0 with negative | rfl | positive
  · rw [truncate, truncate, if_pos (by linarith), if_neg (by linarith), Int.floor_neg]
  · simp [truncate]
  · rw [truncate, truncate, if_neg (by linarith), if_pos (by linarith), Int.ceil_neg]

theorem truncate_natCast_div (a b : Nat) : truncate (a / b) = (a : Int).tdiv b := by
  rw [truncate, if_pos (by positivity), Rat.floor_natCast_div_natCast, Int.tdiv_eq_ediv_of_nonneg (by positivity)]

theorem truncate_div (a b : Int) : truncate (a / b) = a.tdiv b := by
  -- On either side both signs can be taken out, so the four cases are one quotient of natural numbers.
  obtain ⟨m, rfl | rfl⟩ := a.eq_nat_or_neg <;> obtain ⟨n, rfl | rfl⟩ := b.eq_nat_or_neg <;>
    simp only [Int.cast_neg, Int.cast_natCast, neg_div, div_neg, truncate_neg, truncate_natCast_div, Int.neg_tdiv,
      Int.tdiv_neg]

theorem toInt_div_of_not_overflows {a b : Int32} (fits : ¬Overflows a b) : (a / b).toInt = a.toInt.tdiv b.toInt := by
  by_cases least : a = Int32.minValue
  · exact Int32.toInt_div_of_ne_right a b fun minusOne => fits ⟨least, minusOne⟩
  · exact Int32.toInt_div_of_ne_left a b least

theorem abs_tmod_lt {b : Int} (nonzero : b ≠ 0) (a : Int) : |a.tmod b| < |b| := by
  rw [Int.abs_eq_natAbs, Int.abs_eq_natAbs, Int.natAbs_tmod]
  exact_mod_cast Nat.mod_lt _ (Int.natAbs_pos.mpr nonzero)

theorem divided_div_mod (a : Int32) {b : Int32} (nonzero : b ≠ 0) : Divided a b (a / b) (a % b) where
  recombined := by
    have quotient : (a / b).toInt ≡ a.toInt.tdiv b.toInt [ZMOD 2 ^ 32] := (wraps_div a b (a / b)).mpr rfl
    calc (a / b).toInt * b.toInt + (a % b).toInt
        ≡ a.toInt.tdiv b.toInt * b.toInt + (a % b).toInt [ZMOD 2 ^ 32] := (quotient.mul_right _).add_right _
      _ = a.toInt := by rw [Int32.toInt_mod, Int.tdiv_mul_add_tmod]
  smaller := by
    rw [Int32.toInt_mod]
    exact abs_tmod_lt (fun zero => nonzero (Int32.toInt.inj zero)) a.toInt
  sameSign := by
    rw [← Int32.toInt_inj, Int32.toInt_mod, Int32.toInt_zero, Int.sign_tmod]
    by_cases divides : b.toInt ∣ a.toInt
    · exact .inl (Int.tmod_eq_zero_of_dvd divides)
    · exact .inr (if_neg divides)
  truncated fits := by rw [truncate_div, toInt_div_of_not_overflows fits]
  overflowing := by
    rintro ⟨rfl, rfl⟩
    exact ⟨rfl, rfl⟩

end Dividing

theorem combine_integers (operator : Operator) (a b : Int32) :
    combine operator (.integer a) (.integer b) = (calculate operator a b).map .integer := by
  simp [combine, isText, numeric]

theorem combine_integers_error_iff (operator : Operator) (a b : Int32) (fault : Fault) :
    combine operator (.integer a) (.integer b) = .error fault ↔
      fault = .divisionByZero ∧ operator ∈ [.divide, .remainder] ∧ b = 0 := by
  rw [combine_integers]
  cases operator with
  | add | subtract | multiply => simp [calculate, Except.map]
  | divide | remainder => by_cases zero : b = 0 <;> simp [calculate, zero, Except.map, eq_comm]

/-- What the operators make of two integers, whichever they are. -/
theorem combine_integers_wrapped (a b : Int32) :
    (∀ operator fault, combine operator (.integer a) (.integer b) = .error fault ↔
      fault = .divisionByZero ∧ operator ∈ [.divide, .remainder] ∧ b = 0) ∧
    (∃ sum, combine .add (.integer a) (.integer b) = .ok (.integer sum) ∧ Wraps (a.toInt + b.toInt) sum) ∧
    (∃ difference, combine .subtract (.integer a) (.integer b) = .ok (.integer difference) ∧
      Wraps (a.toInt - b.toInt) difference) ∧
    (∃ product, combine .multiply (.integer a) (.integer b) = .ok (.integer product) ∧
      Wraps (a.toInt * b.toInt) product) ∧
    (b ≠ 0 → ∃ quotient remainder, combine .divide (.integer a) (.integer b) = .ok (.integer quotient) ∧
      combine .remainder (.integer a) (.integer b) = .ok (.integer remainder) ∧
      Divided a b quotient remainder) := by
  refine ⟨fun operator fault => combine_integers_error_iff operator a b fault, ?_, ?_, ?_, ?_⟩
  · exact ⟨a + b, combine_integers .add a b, wraps_add a b⟩
  · exact ⟨a - b, combine_integers .subtract a b, wraps_sub a b⟩
  · exact ⟨a * b, combine_integers .multiply a b, wraps_mul a b⟩
  · intro nonzero
    refine ⟨a / b, a % b, ?_, ?_, divided_div_mod a nonzero⟩
    · rw [combine_integers, calculate, if_neg nonzero]
      rfl
    · rw [combine_integers, calculate, if_neg nonzero]
      rfl

/-- The least number divided by -1 stays what it is, and nothing is left of it. -/
theorem combine_integers_wrapped_overflow :
    (-1 : Int32) ≠ 0 ∧
    combine .divide (.integer Int32.minValue) (.integer (-1)) = .ok (.integer Int32.minValue) ∧
    combine .remainder (.integer Int32.minValue) (.integer (-1)) = .ok (.integer 0) := by
  have nonzero : (-1 : Int32) ≠ 0 := by decide
  obtain ⟨-, -, -, -, divides⟩ := combine_integers_wrapped Int32.minValue (-1)
  obtain ⟨quotient, remainder, divided, left, division⟩ := divides nonzero
  obtain ⟨rfl, rfl⟩ := division.overflowing ⟨rfl, rfl⟩
  exact ⟨nonzero, divided, left⟩

end StreamScript.Value
