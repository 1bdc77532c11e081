import GridSetup.Decimal.Layout
import GridSetup.Proofs.Decimal.Shortest
import GridSetup.Proofs.Parameter.Number
import Mathlib

/-!
# Real numbers without an exponent are told apart by their texts

A style that writes no exponent puts zeros behind the digits of the shortest decimal or a point
among or before them. Reading such a text as a literal gives a coefficient and a power of ten again.
They need not be those that were written, but they stand for the same number (`exists_readFinite`).
The number rounds to one code only, so the text belongs to one code (`writeFinite_inj`).

A code and a sign are all there is to a double-precision number, except that many codes are no
number at all; of these a number has only one.
-/

namespace GridSetup

namespace Binary

/-! ## Patterns of bits -/

theorem eq_of_codeOf_eq {x y : Float} (hcode : codeOf x = codeOf y)
    (hsign : isNegative x = isNegative y) : x = y := by
  have hx : x.toBits.toNat < 2 * double.signCode := x.toBits.toNat_lt
  have hy : y.toBits.toNat < 2 * double.signCode := y.toBits.toNat_lt
  have hiff : double.signCode ≤ x.toBits.toNat ↔ double.signCode ≤ y.toBits.toNat := by
    simpa [isNegative] using hsign
  simp only [codeOf, double] at hcode hx hy hiff
  refine Float.toBits_inj.1 (UInt64.toNat_inj.1 ?_)
  omega

theorem toBitVec_of_infinityCode_lt {x : Float} (h : double.infinityCode < codeOf x) :
    x.toBits.toBitVec = Float.Model.UnpackedFloat.packedNaN .binary64 := by
  simp only [codeOf, double] at h
  have hnat : x.toBits.toBitVec.toNat = x.toBits.toNat := rfl
  apply x.toModel.valid.eq_packedNaN
  · apply BitVec.eq_of_toNat_eq
    show (x.toBits.toBitVec.extractLsb 62 52).toNat = 2047
    rw [BitVec.extractLsb_toNat, hnat, Nat.shiftRight_eq_div_pow]
    omega
  · intro hzero
    have hmantissa : (x.toBits.toBitVec.extractLsb 51 0).toNat = 0 := congrArg BitVec.toNat hzero
    rw [BitVec.extractLsb_toNat, hnat, Nat.shiftRight_eq_div_pow] at hmantissa
    omega

/-- There is one value that is no number. -/
theorem eq_of_infinityCode_lt {x y : Float} (hx : double.infinityCode < codeOf x)
    (hy : double.infinityCode < codeOf y) : x = y := by
  refine Float.toBits_inj.1 (UInt64.toBitVec_inj.1 ?_)
  rw [toBitVec_of_infinityCode_lt hx, toBitVec_of_infinityCode_lt hy]

end Binary

namespace Decimal

open Binary.Value

/-! ## Reading digits and a point -/

section

variable {whole fraction : List Char} (hne : whole ≠ [])
  (hwhole : ∀ c ∈ whole, c.isDigit = true)
include hne hwhole

theorem readFinite_digits : Literal.readFinite false whole =
    some (.finite false (Nat.ofDigitChars 10 whole 0) 0) := by
  have htake : whole.takeWhile Char.isDigit = whole := List.takeWhile_eq_self_iff.2 hwhole
  have hdrop : whole.dropWhile Char.isDigit = [] := List.dropWhile_eq_nil_iff.2 hwhole
  simp [Literal.readFinite, htake, hdrop, Literal.splitFraction, Literal.readExponent, hne]

theorem readFinite_point (hfraction : ∀ c ∈ fraction, c.isDigit = true) :
    Literal.readFinite false (whole ++ '.' :: fraction) =
      some (.finite false (Nat.ofDigitChars 10 (whole ++ fraction) 0) (-fraction.length)) := by
  have htake : fraction.takeWhile Char.isDigit = fraction := List.takeWhile_eq_self_iff.2 hfraction
  have hdrop : fraction.dropWhile Char.isDigit = [] := List.dropWhile_eq_nil_iff.2 hfraction
  have hpoint : Char.isDigit '.' = false := by decide
  simp [Literal.readFinite, List.takeWhile_append_of_pos hwhole,
    List.dropWhile_append_of_pos hwhole, hpoint, htake, hdrop, Literal.splitFraction, Literal.readExponent, hne]

end

/-! ## Zeros and a point among the digits -/

theorem ofDigitChars_writeNat (n : Nat) : Nat.ofDigitChars 10 (writeNat n) 0 = n :=
  Nat.ofDigitChars_toDigits (by decide) (by decide)

theorem isDigit_of_mem_zeros {n : Nat} {c : Char} (h : c ∈ List.replicate n '0') :
    c.isDigit = true := by
  rw [List.eq_of_mem_replicate h]
  decide

/-- What is read is a coefficient and a power of ten of the same number. -/
theorem exists_readFinite (c : Nat) (g : Int) : ∃ d : Nat × Int,
    Literal.readFinite false (writePositional false (writeNat c) g) = some (.finite false d.1 d.2) ∧
      number d = number (c, g) := by
  rw [writePositional]
  split
  · next hg =>
      have hdigits : ∀ d ∈ writeNat c ++ List.replicate g.toNat '0', d.isDigit = true := by
        intro d hd
        exact (List.mem_append.1 hd).elim isDigit_of_mem_writeNat isDigit_of_mem_zeros
      have hne : writeNat c ++ List.replicate g.toNat '0' ≠ [] := by
        simp [writeNat_ne_nil]
      refine ⟨(10 ^ g.toNat * c, 0), ?_, ?_⟩
      · rw [if_neg (by decide), List.append_nil, readFinite_digits hne hdigits,
          Nat.ofDigitChars_append, ofDigitChars_writeNat, Nat.ofDigitChars_replicate_zero]
      · obtain ⟨n, rfl⟩ := Int.eq_ofNat_of_zero_le hg
        simp [number, mul_comm]
  · next hg =>
      dsimp only
      refine ⟨(c, g), ?_, rfl⟩
      split
      · next hplaces =>
          have hdigits : ∀ d ∈ writeNat c, d.isDigit = true := fun _ => isDigit_of_mem_writeNat
          have hne : (writeNat c).take ((writeNat c).length - g.natAbs) ≠ [] := by
            refine List.ne_nil_of_length_pos ?_
            rw [List.length_take]
            omega
          have hexponent :
              -(((writeNat c).drop ((writeNat c).length - g.natAbs)).length : Int) = g := by
            rw [List.length_drop]
            omega
          rw [readFinite_point hne (fun d hd => hdigits d (List.mem_of_mem_take hd))
            (fun d hd => hdigits d (List.mem_of_mem_drop hd)), List.take_append_drop,
            ofDigitChars_writeNat, hexponent]
      · next hplaces =>
          have hzero : ∀ d ∈ ['0'], d.isDigit = true := by simp
          have hdigits : ∀ d ∈ List.replicate (g.natAbs - (writeNat c).length) '0' ++ writeNat c,
              d.isDigit = true := by
            intro d hd
            exact (List.mem_append.1 hd).elim isDigit_of_mem_zeros isDigit_of_mem_writeNat
          have hexponent :
              -((List.replicate (g.natAbs - (writeNat c).length) '0' ++ writeNat c).length : Int) =
                g := by
            rw [List.length_append, List.length_replicate]
            omega
          have hread := readFinite_point (by decide) hzero hdigits
          rwa [Nat.ofDigitChars_append, Nat.ofDigitChars_append, Nat.ofDigitChars_replicate_zero,
            hexponent, show Nat.ofDigitChars 10 ['0'] 0 = 0 from rfl, mul_zero,
            ofDigitChars_writeNat] at hread

theorem number_eq_of_writePositional {d d' : Nat × Int}
    (h : writePositional false (writeNat d.1) d.2 = writePositional false (writeNat d'.1) d'.2) :
    number d = number d' := by
  obtain ⟨r, hr, hd⟩ := exists_readFinite d.1 d.2
  obtain ⟨r', hr', hd'⟩ := exists_readFinite d'.1 d'.2
  rw [h, hr'] at hr
  injection hr with hr
  injection hr with _ hcoefficient hexponent
  exact hd.symm.trans ((congrArg number (Prod.ext hcoefficient hexponent)).symm.trans hd')

theorem mem_writePositional {c : Nat} {g : Int} {d : Char}
    (h : d ∈ writePositional false (writeNat c) g) : d.isDigit = true ∨ d = '.' := by
  rw [writePositional] at h
  split at h
  · rw [if_neg (by decide), List.append_nil] at h
    exact Or.inl ((List.mem_append.1 h).elim isDigit_of_mem_writeNat isDigit_of_mem_zeros)
  · dsimp only at h
    split at h
    · rcases List.mem_append.1 h with h | h
      · exact Or.inl (isDigit_of_mem_writeNat (List.mem_of_mem_take h))
      · rcases List.mem_cons.1 h with rfl | h
        · exact Or.inr rfl
        · exact Or.inl (isDigit_of_mem_writeNat (List.mem_of_mem_drop h))
    · rcases List.mem_cons.1 h with rfl | h
      · exact Or.inl (by decide)
      · rcases List.mem_cons.1 h with rfl | h
        · exact Or.inr rfl
        · exact Or.inl ((List.mem_append.1 h).elim isDigit_of_mem_zeros isDigit_of_mem_writeNat)

/-! ## Texts of finite values -/

namespace RealStyle

/-- The decimal that is written for a code: zero, or the shortest one. -/
def decimalOf (tie : Tie) (code : Nat) : Nat × Int :=
  if code = 0 then (0, 0) else shortest tie code

theorem roundsTo_decimalOf (tie : Tie) (code : Nat) :
    RoundsTo (number (decimalOf tie code)) code := by
  rw [decimalOf]
  split
  · next h =>
      have hzero : number (0, 0) = magnitude 0 := by
        rw [magnitude_zero]
        simp [number]
      rw [h, hzero]
      exact roundsTo_magnitude 0
  · next h => exact roundsTo_shortest h tie

section

variable {style : RealStyle} (hpositional : style.positional = none)
  (hwhole : style.pointZero = false)
include hpositional hwhole

theorem writeFinite_eq (code : Nat) : style.writeFinite code =
    writePositional false (writeNat (decimalOf style.tie code).1) (decimalOf style.tie code).2 := by
  rw [writeFinite, decimalOf, hwhole, hpositional]
  split <;> rfl

theorem mem_writeFinite {code : Nat} {c : Char} (h : c ∈ style.writeFinite code) :
    c.isDigit = true ∨ c = '.' := by
  rw [writeFinite_eq hpositional hwhole] at h
  exact mem_writePositional h

/-- Two finite values with one text are one value. -/
theorem writeFinite_inj {a b : Nat} (h : style.writeFinite a = style.writeFinite b) : a = b := by
  rw [writeFinite_eq hpositional hwhole, writeFinite_eq hpositional hwhole] at h
  have hb := roundsTo_decimalOf style.tie b
  rw [← number_eq_of_writePositional h] at hb
  exact (roundsTo_decimalOf style.tie a).eq hb

end

end RealStyle

end Decimal

end GridSetup
