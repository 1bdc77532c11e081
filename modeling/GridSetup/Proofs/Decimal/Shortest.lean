import GridSetup.Decimal.Shortest
import Mathlib.Algebra.Order.Field.Power
import Mathlib.Data.Rat.Cast.Order
import Mathlib.Order.Monotone.Basic
import Mathlib.Tactic.FieldSimp
import Mathlib.Tactic.Linarith
import Mathlib.Tactic.LinearCombination
import Mathlib.Tactic.Positivity
import Mathlib.Tactic.Ring

/-!
# The shortest decimal belongs to one value

The magnitudes of double-precision numbers grow with their codes, each by one unit in the last place
of the one before it (`magnitude_succ`). The decimals that round to a magnitude are those between
its midpoints with the magnitudes beside it, and a midpoint itself rounds to the one of the two that
has an even code. So no number rounds to two magnitudes (`RoundsTo.eq`).

`admits` asks for just this in natural numbers (`roundsTo_of_admits`). A hit on a grid is a decimal
that was admitted, and the last grid of the search holds the magnitude itself, so whatever the
search returns rounds to the value it was made for, with or without zeros at its end
(`roundsTo_shortest`).
-/

namespace GridSetup

namespace Decimal

/-- The number that a coefficient and a power of ten stand for. -/
def number (d : Nat × Int) : ℚ :=
  d.1 * 10 ^ d.2

end Decimal

namespace Binary

/-! ## Quotients as numerator and denominator -/

/-- The number that a numerator and a denominator stand for. -/
def ratio (q : Nat × Nat) : ℚ :=
  q.1 / q.2

theorem ratio_scale {base : Nat} (hbase : 0 < base) (num den : Nat) (e : Int) :
    ratio (if e < 0 then (num, den * Nat.pow base e.natAbs)
      else (num * Nat.pow base e.natAbs, den)) = ratio (num, den) * base ^ e := by
  have hne : (base : ℚ) ≠ 0 := by positivity
  split
  · next he =>
      have hpow : (base : ℚ) ^ e = ((base : ℚ) ^ e.natAbs)⁻¹ := by
        rw [← zpow_natCast, ← zpow_neg]
        congr 1
        omega
      simp only [ratio, Nat.pow_eq, Nat.cast_mul, Nat.cast_pow]
      rw [hpow, ← div_div, div_eq_mul_inv (_ / _)]
  · next he =>
      have hpow : (base : ℚ) ^ e = (base : ℚ) ^ e.natAbs := by
        rw [← zpow_natCast]
        congr 1
        omega
      simp only [ratio, Nat.pow_eq, Nat.cast_mul, Nat.cast_pow]
      rw [hpow, mul_div_right_comm]

theorem ratio_scaleBinary (num den : Nat) (e : Int) :
    ratio (scaleBinary num den e) = ratio (num, den) * 2 ^ e :=
  ratio_scale (by decide) num den e

theorem ratio_scaleDecimal (num den : Nat) (e : Int) :
    ratio (scaleDecimal num den e) = ratio (num, den) * 10 ^ e :=
  ratio_scale (by decide) num den e

theorem scaleBinary_pos {den : Nat} (h : 0 < den) (num : Nat) (e : Int) :
    0 < (scaleBinary num den e).2 := by
  rw [scaleBinary]
  split
  · exact Nat.mul_pos h (Nat.two_pow_pos _)
  · exact h

theorem scaleDecimal_pos {den : Nat} (h : 0 < den) (num : Nat) (e : Int) :
    0 < (scaleDecimal num den e).2 := by
  rw [scaleDecimal]
  split
  · exact Nat.mul_pos h (Nat.pow_pos (by decide))
  · exact h

section

variable {q : Nat × Nat} {c : Nat}

theorem ratio_le_iff (h : 0 < q.2) : ratio q ≤ c ↔ q.1 ≤ c * q.2 := by
  rw [ratio, div_le_iff₀ (by exact_mod_cast h)]
  norm_cast

theorem le_ratio_iff (h : 0 < q.2) : (c : ℚ) ≤ ratio q ↔ c * q.2 ≤ q.1 := by
  rw [ratio, le_div_iff₀ (by exact_mod_cast h)]
  norm_cast

end

namespace Value

open Decimal

/-! ## Magnitudes -/

theorem ofCode_of_lt {code : Nat} (h : code < 0x10000000000000) :
    ofCode code = ⟨code, -1074, false⟩ := by
  have hbiased : code / 0x10000000000000 = 0 := Nat.div_eq_of_lt h
  simp only [ofCode, hbiased, Nat.mod_eq_of_lt h, if_pos]

theorem ofCode_of_le {code : Nat} (h : 0x10000000000000 ≤ code) :
    ofCode code = ⟨0x10000000000000 + code % 0x10000000000000, code / 0x10000000000000 - 1075,
      code % 0x10000000000000 = 0 && code / 0x10000000000000 != 1⟩ := by
  have hbiased : code / 0x10000000000000 ≠ 0 := by omega
  simp only [ofCode, if_neg hbiased]
  rfl

theorem significand_mod_two (code : Nat) : (ofCode code).significand % 2 = code % 2 := by
  by_cases h : code < 0x10000000000000
  · rw [ofCode_of_lt h]
  · rw [ofCode_of_le (by omega)]
    simp only
    omega

/-- The next value has the next significand. Past the greatest significand it is the least of
the next binade, with half of the next significand. -/
theorem ofCode_succ (code : Nat) :
    ((ofCode (code + 1)).leastOfBinade = false ∧
        (ofCode (code + 1)).exponent = (ofCode code).exponent ∧
        (ofCode (code + 1)).significand = (ofCode code).significand + 1) ∨
      ((ofCode (code + 1)).leastOfBinade = true ∧
        (ofCode (code + 1)).exponent = (ofCode code).exponent + 1 ∧
        2 * (ofCode (code + 1)).significand = (ofCode code).significand + 1) := by
  by_cases hlt : code < 0x10000000000000
  · refine Or.inl ?_
    rw [ofCode_of_lt hlt]
    by_cases hnext : code + 1 < 0x10000000000000
    · rw [ofCode_of_lt hnext]
      exact ⟨rfl, rfl, rfl⟩
    · -- the binade after the denormal values has their unit
      have hcode : code = 0xFFFFFFFFFFFFF := by omega
      subst hcode
      decide
  · rw [ofCode_of_le (by omega : 0x10000000000000 ≤ code + 1), ofCode_of_le (by omega)]
    by_cases hcarry : (code + 1) % 0x10000000000000 = 0
    · refine Or.inr ⟨?_, ?_, ?_⟩
      · simp
        omega
      · simp
        omega
      · simp
        omega
    · refine Or.inl ⟨?_, ?_, ?_⟩
      · simp
        omega
      · simp
        omega
      · simp
        omega

theorem significand_pos {code : Nat} (h : code ≠ 0) : 0 < (ofCode code).significand := by
  obtain ⟨n, rfl⟩ := Nat.exists_eq_add_one_of_ne_zero h
  rcases ofCode_succ n with ⟨-, -, hm⟩ | ⟨-, -, hm⟩ <;> omega

/-- The magnitude with a code. -/
def magnitude (code : Nat) : ℚ :=
  (ofCode code).significand * 2 ^ (ofCode code).exponent

theorem magnitude_zero : magnitude 0 = 0 := by
  simp [magnitude, ofCode]

theorem magnitude_succ (code : Nat) :
    magnitude (code + 1) = magnitude code + 2 ^ (ofCode code).exponent := by
  rcases ofCode_succ code with ⟨-, he, hm⟩ | ⟨-, he, hm⟩
  · rw [magnitude, magnitude, he, hm]
    push_cast
    ring
  · have hm' : 2 * ((ofCode (code + 1)).significand : ℚ) = (ofCode code).significand + 1 := by
      exact_mod_cast hm
    rw [magnitude, magnitude, he, zpow_add_one₀ two_ne_zero]
    linear_combination hm' * 2 ^ (ofCode code).exponent

theorem strictMono_magnitude : StrictMono magnitude := by
  refine strictMono_nat_of_lt_succ fun code => ?_
  have hpos : (0 : ℚ) < 2 ^ (ofCode code).exponent := by positivity
  rw [magnitude_succ]
  linarith

/-! ## Rounding to the nearest magnitude -/

/-- The midpoint of a magnitude and the one before it. Zero, with none before it, is its own. -/
def midpoint (code : Nat) : ℚ :=
  (magnitude (code - 1) + magnitude code) / 2

theorem strictMono_midpoint : StrictMono midpoint := by
  intro a b hab
  have hbefore : magnitude (a - 1) ≤ magnitude (b - 1) :=
    strictMono_magnitude.monotone (Nat.sub_le_sub_right hab.le 1)
  have hmagnitude := strictMono_magnitude hab
  rw [midpoint, midpoint]
  linarith

theorem midpoint_le_magnitude (code : Nat) : midpoint code ≤ magnitude code := by
  have hbefore : magnitude (code - 1) ≤ magnitude code :=
    strictMono_magnitude.monotone (Nat.sub_le code 1)
  rw [midpoint]
  linarith

theorem midpoint_lt_magnitude {code : Nat} (h : code ≠ 0) : midpoint code < magnitude code := by
  have hbefore : magnitude (code - 1) < magnitude code := strictMono_magnitude (by omega)
  rw [midpoint]
  linarith

theorem magnitude_lt_midpoint (code : Nat) : magnitude code < midpoint (code + 1) := by
  have hnext : magnitude code < magnitude (code + 1) := strictMono_magnitude (Nat.lt_add_one code)
  rw [midpoint, Nat.add_sub_cancel]
  linarith

/-- A number rounds to the magnitude with a code. -/
def RoundsTo (x : ℚ) (code : Nat) : Prop :=
  if code % 2 = 0 then midpoint code ≤ x ∧ x ≤ midpoint (code + 1)
  else midpoint code < x ∧ x < midpoint (code + 1)

theorem RoundsTo.between {x : ℚ} {code : Nat} (h : RoundsTo x code) :
    midpoint code ≤ x ∧ x ≤ midpoint (code + 1) := by
  rw [RoundsTo] at h
  split at h
  · exact h
  · exact ⟨h.1.le, h.2.le⟩

theorem RoundsTo.not_lt {x : ℚ} {a b : Nat} (ha : RoundsTo x a) (hb : RoundsTo x b) : ¬ a < b := by
  intro hlt
  have hle : midpoint (a + 1) ≤ midpoint b := strictMono_midpoint.monotone hlt
  have hupper := ha.between.2
  have hlower := hb.between.1
  rw [RoundsTo] at ha hb
  split at ha
  · split at hb
    · -- two even codes have a code between them, and so two midpoints
      have hmid : midpoint (a + 1) < midpoint b := strictMono_midpoint (by omega)
      linarith
    · linarith [hb.1]
  · linarith [ha.2]

theorem RoundsTo.eq {x : ℚ} {a b : Nat} (ha : RoundsTo x a) (hb : RoundsTo x b) : a = b :=
  Nat.le_antisymm (Nat.le_of_not_lt (hb.not_lt ha)) (Nat.le_of_not_lt (ha.not_lt hb))

theorem roundsTo_magnitude (code : Nat) : RoundsTo (magnitude code) code := by
  rw [RoundsTo]
  split
  · exact ⟨midpoint_le_magnitude code, (magnitude_lt_midpoint code).le⟩
  · exact ⟨midpoint_lt_magnitude (by omega), magnitude_lt_midpoint code⟩

/-! ## Quarters of a unit -/

section

variable {v : Value} {k c : Nat} {g : Int}

theorem quarters_pos (v : Value) (k : Nat) (g : Int) : 0 < (v.quarters k g).2 :=
  scaleDecimal_pos (scaleBinary_pos (by decide) k v.exponent) _ (-g)

theorem ratio_quarters (v : Value) (k : Nat) (g : Int) :
    ratio (v.quarters k g) * 10 ^ g = k / 4 * 2 ^ v.exponent := by
  have hten : (10 : ℚ) ^ (-g) * 10 ^ g = 1 := by
    rw [← zpow_add₀ (by norm_num), neg_add_cancel, zpow_zero]
  have hscale : ratio (v.quarters k g) = ratio (scaleBinary k 4 v.exponent) * 10 ^ (-g) :=
    ratio_scaleDecimal _ _ (-g)
  rw [hscale, ratio_scaleBinary, mul_assoc, hten, mul_one]
  rfl

theorem quarters_le_iff : (v.quarters k g).1 ≤ c * (v.quarters k g).2 ↔
    (k / 4 * 2 ^ v.exponent : ℚ) ≤ c * 10 ^ g := by
  have hpos : (0 : ℚ) < 10 ^ g := by positivity
  rw [← ratio_le_iff (quarters_pos v k g), ← mul_le_mul_iff_of_pos_right hpos, ratio_quarters]

theorem le_quarters_iff : c * (v.quarters k g).2 ≤ (v.quarters k g).1 ↔
    (c * 10 ^ g : ℚ) ≤ k / 4 * 2 ^ v.exponent := by
  have hpos : (0 : ℚ) < 10 ^ g := by positivity
  rw [← le_ratio_iff (quarters_pos v k g), ← mul_le_mul_iff_of_pos_right hpos, ratio_quarters]

end

theorem midpoint_succ (code : Nat) :
    midpoint (code + 1) = ((4 * (ofCode code).significand + 2 : Nat) : ℚ) / 4 *
      2 ^ (ofCode code).exponent := by
  rw [midpoint, Nat.add_sub_cancel, magnitude_succ, magnitude]
  push_cast
  ring

/-- The unit below the least value of a binade is half of the unit above it. -/
theorem midpoint_eq {code : Nat} (h : code ≠ 0) :
    midpoint code =
      ((4 * (ofCode code).significand -
        (if (ofCode code).leastOfBinade then 1 else 2) : Nat) : ℚ) / 4 *
          2 ^ (ofCode code).exponent := by
  have hpos := significand_pos h
  obtain ⟨n, rfl⟩ := Nat.exists_eq_add_one_of_ne_zero h
  have hbefore : magnitude n = magnitude (n + 1) - 2 ^ (ofCode n).exponent := by
    rw [magnitude_succ, add_sub_cancel_right]
  rw [midpoint, Nat.add_sub_cancel, hbefore, magnitude]
  rcases ofCode_succ n with ⟨hleast, he, -⟩ | ⟨hleast, he, -⟩
  · rw [hleast, if_neg (by decide), he, Nat.cast_sub (by omega)]
    push_cast
    ring
  · rw [hleast, if_pos rfl, he, zpow_add_one₀ two_ne_zero, Nat.cast_sub (by omega)]
    push_cast
    ring

theorem roundsTo_of_admits {code c : Nat} {g : Int} (hcode : code ≠ 0)
    (h : (ofCode code).admits c g = true) : RoundsTo (number (c, g)) code := by
  simp only [admits, significand_mod_two] at h
  rw [RoundsTo, number, midpoint_eq hcode, midpoint_succ]
  split at h
  · next heven =>
      rw [Bool.and_eq_true, decide_eq_true_eq, decide_eq_true_eq, quarters_le_iff,
        le_quarters_iff] at h
      rwa [if_pos heven]
  · next hodd =>
      rw [Bool.and_eq_true, decide_eq_true_eq, decide_eq_true_eq, ← not_le, ← not_le,
        le_quarters_iff, quarters_le_iff, not_le, not_le] at h
      rwa [if_neg hodd]

/-! ## The search -/

theorem admits_of_onGrid {v : Value} {tie : Tie} {c : Nat} {g : Int}
    (h : v.onGrid tie g = some c) : v.admits c g = true := by
  simp only [onGrid] at h
  split at h
  · cases h
  · next hlower _ =>
      cases h
      exact hlower
  · next _ hupper =>
      cases h
      exact hupper
  · next hlower hupper =>
      generalize (v.quarters (4 * v.significand) g).1 / (v.quarters (4 * v.significand) g).2 = n
        at h hlower hupper
      -- a tie to the even neighbour is the lower one or the upper one as well
      have hnear : c = n ∨ c = n + 1 := by
        split at h
        · exact Or.inl (Option.some.inj h).symm
        · split at h
          · exact Or.inr (Option.some.inj h).symm
          · split at h
            · exact Or.inr (Option.some.inj h).symm
            · have hc := Option.some.inj h
              omega
      rcases hnear with rfl | rfl
      · exact hlower
      · exact hupper

/-- A grid whose unit is not above one and not above the unit of a value holds the value. -/
theorem number_of_le {code : Nat} {g : Int} (hone : g ≤ 0) (hunit : g ≤ (ofCode code).exponent) :
    number (((ofCode code).quarters (4 * (ofCode code).significand) g).1 /
      ((ofCode code).quarters (4 * (ofCode code).significand) g).2, g) = magnitude code := by
  obtain ⟨a, rfl⟩ : ∃ a : Nat, g = -a := ⟨g.natAbs, by omega⟩
  obtain ⟨b, hb⟩ : ∃ b : Nat, (ofCode code).exponent = b - a :=
    ⟨((ofCode code).exponent + a).toNat, by omega⟩
  have hunits : (((ofCode code).significand * 5 ^ a * 2 ^ b : Nat) : ℚ) * 10 ^ (-a : Int) =
      magnitude code := by
    have hten : (10 : ℚ) ^ a = 5 ^ a * 2 ^ a := by
      rw [← mul_pow]
      norm_num
    rw [magnitude, hb, zpow_sub₀ two_ne_zero, zpow_neg, zpow_natCast, zpow_natCast, zpow_natCast,
      hten]
    push_cast
    field_simp
  have hquarters : ((4 * (ofCode code).significand : Nat) / 4 * 2 ^ (ofCode code).exponent : ℚ) =
      magnitude code := by
    rw [magnitude]
    push_cast
    ring
  have hexact := le_antisymm (le_quarters_iff.2 (hunits.trans hquarters.symm).le)
    (quarters_le_iff.2 (hquarters.trans hunits.symm).le)
  rw [← hexact, Nat.mul_div_cancel _ (quarters_pos _ _ _), number, hunits]

theorem roundsTo_search {code : Nat} (hcode : code ≠ 0) (tie : Tie) (count : Nat) (g : Int)
    (hlast : g - count ≤ min 0 (ofCode code).exponent) :
    RoundsTo (number ((ofCode code).search tie count g)) code := by
  induction count generalizing g with
  | zero =>
      rw [search, number_of_le (by omega) (by omega)]
      exact roundsTo_magnitude code
  | succ count ih =>
      rw [search]
      split
      · next c hc => exact roundsTo_of_admits hcode (admits_of_onGrid hc)
      · exact ih (g - 1) (by push_cast at hlast; omega)

theorem roundsTo_firstHit {code : Nat} (hcode : code ≠ 0) (tie : Tie) :
    RoundsTo (number ((ofCode code).firstHit tie)) code :=
  roundsTo_search hcode tie _ _ (by push_cast; omega)

end Value

end Binary

namespace Decimal

open Binary.Value

theorem number_stripZeros (fuel c : Nat) (g : Int) :
    number (stripZeros fuel c g) = number (c, g) := by
  induction fuel generalizing c g with
  | zero => rfl
  | succ fuel ih =>
      rw [stripZeros]
      split
      · next h =>
          have hc : (c : ℚ) = (c / 10 : Nat) * 10 := by
            exact_mod_cast (Nat.div_mul_cancel (Nat.dvd_of_mod_eq_zero h.2)).symm
          rw [ih, number, number, hc, zpow_add_one₀ (by norm_num)]
          ring
      · rfl

/-- The shortest decimal of a value rounds to it. -/
theorem roundsTo_shortest {code : Nat} (hcode : code ≠ 0) (tie : Tie) :
    RoundsTo (number (shortest tie code)) code := by
  rw [shortest, number_stripZeros]
  exact roundsTo_firstHit hcode tie

end Decimal

end GridSetup
