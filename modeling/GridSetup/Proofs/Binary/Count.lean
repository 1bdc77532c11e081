import Mathlib

/-!
# Counts as double-precision numbers

A number of points enters a formula as a double-precision number, and one is taken
away from it there and not in the integers. Nothing is lost in this. A count that is
not zero has a significand of 53 bits, its own bits moved up, and every step from
the integer to the difference only moves bits that are zero or moves them back.

So the difference is the count less one (`ofNat_sub_one`), and it is zero for a
count of one and for no other (`ofNat_beq_zero`). Half of a count is exact for the
same reason (`toRat?_half_ofInt`).
-/

namespace GridSetup.Binary

open Float.Model Float.Model.UnpackedFloat

/-- A significand of 53 bits with an exponent that leaves room on both sides. -/
structure Normal (m : Nat) (e : Int) : Prop where
  le_significand : 2 ^ 52 ≤ m
  significand_lt : m < 2 ^ 53
  le_exponent : -1074 ≤ e
  exponent_le : e ≤ 971

theorem log2_mul_two_pow {n : Nat} (h : n ≠ 0) (j : Nat) : (n * 2 ^ j).log2 = n.log2 + j := by
  induction j with
  | zero => rw [pow_zero, mul_one, add_zero]
  | succ j ih =>
      have hne : n * 2 ^ j ≠ 0 := Nat.mul_ne_zero h (Nat.two_pow_pos j).ne'
      rw [pow_succ, ← mul_assoc, mul_comm, Nat.log2_two_mul hne, ih, add_assoc]

section

variable {m : Nat} {e : Int}

theorem Normal.pos (h : Normal m e) : 0 < m :=
  Nat.lt_of_lt_of_le (by decide) h.le_significand

theorem Normal.log2_eq (h : Normal m e) : m.log2 = 52 :=
  (Nat.log2_eq_iff h.pos.ne').2 ⟨h.le_significand, h.significand_lt⟩

theorem Normal.targetExponent_eq (h : Normal m e) (j : Nat) :
    Format.binary64.targetExponent (totalExponent (m * 2 ^ j) (e - j)) = e := by
  have hbits : (Format.binary64.mantissaBits : Int) = 53 := by decide
  have hleast : Format.binary64.minExponent = -1074 := by decide
  have hle := h.le_exponent
  rw [Format.targetExponent, totalExponent, log2_mul_two_pow h.pos.ne', h.log2_eq, hbits, hleast]
  push_cast
  omega

theorem shiftRight_exact (m j : Nat) :
    (⟨m * 2 ^ j, false, false⟩ : ExtendedMantissa) >>> j = ⟨m, false, false⟩ := by
  show j.repeat ExtendedMantissa.shiftRightOne _ = _
  induction j generalizing m with
  | zero => simp [Nat.repeat]
  | succ j ih =>
      have hmore : m * 2 ^ (j + 1) = m * 2 * 2 ^ j := by ring
      rw [Nat.repeat, hmore, ih, ExtendedMantissa.shiftRightOne]
      simp

/-- Bits that are zero are moved out and nothing is rounded. -/
theorem Normal.shiftToTargetExponent_eq (h : Normal m e) (j : Nat) :
    shiftToTargetExponent Format.binary64 (m * 2 ^ j) (e - j) .exact =
      (⟨m, false, false⟩, e) := by
  have hshift : (e - (e - j)).toNat = j := by omega
  simp only [shiftToTargetExponent, h.targetExponent_eq, shiftToExponent, hshift,
    ExtendedMantissa.ofMantissaAndAccuracy, shiftRight_exact]
  congr 1
  omega

theorem Normal.roundWithAccuracy_eq (h : Normal m e) (s : Sign) (j : Nat) :
    roundWithAccuracy Format.binary64 s (m * 2 ^ j) (e - j) .exact = .finite s m e h.pos := by
  have hagain := h.shiftToTargetExponent_eq 0
  rw [pow_zero, mul_one, Nat.cast_zero, sub_zero] at hagain
  simp only [roundWithAccuracy, h.shiftToTargetExponent_eq, ExtendedMantissa.roundedMantissa,
    ExtendedMantissa.accuracy, Accuracy.roundToNearestEven, hagain, h.pos.ne', dif_neg,
    not_false_eq_true]

theorem Normal.round_eq (h : Normal m e) (s : Sign) (j : Nat) :
    UnpackedFloat.round Format.binary64 s (m * 2 ^ j) (e - j) = .finite s m e h.pos := by
  have hshift : (e - j - e).toNat = 0 := by omega
  simp only [UnpackedFloat.round, h.targetExponent_eq, decreaseExponent, hshift]
  simpa using h.roundWithAccuracy_eq s j

/-- Bits that are missing are put in, as zeros. -/
theorem Normal.round_of_shift {n j : Nat} (h : Normal (n * 2 ^ j) e) (s : Sign) :
    UnpackedFloat.round Format.binary64 s n (e + j) = .finite s (n * 2 ^ j) e h.pos := by
  have hn : n ≠ 0 := by
    rintro rfl
    exact absurd h.pos (by simp)
  have htotal : totalExponent n (e + j) = totalExponent (n * 2 ^ j * 2 ^ 0) (e - (0 : Nat)) := by
    rw [pow_zero, mul_one, totalExponent, totalExponent, log2_mul_two_pow hn]
    push_cast
    ring
  have hshift : (e + j - e).toNat = j := by omega
  have hround := h.roundWithAccuracy_eq s 0
  rw [pow_zero, mul_one, Nat.cast_zero, sub_zero] at hround
  simp only [UnpackedFloat.round, htotal, h.targetExponent_eq, decreaseExponent, hshift,
    Nat.shiftLeft_eq]
  simpa using hround

/-- With its leading bit put back a significand is what it was. -/
theorem Normal.toNat_append (h : Normal m e) : (1#1 ++ BitVec.ofNat 52 m).toNat = m := by
  have hle := h.le_significand
  have hlt := h.significand_lt
  have hlow : (BitVec.ofNat 52 m).toNat = m - 2 ^ 52 := by
    rw [BitVec.toNat_ofNat]
    omega
  calc (1#1 ++ BitVec.ofNat 52 m).toNat
      = 1 <<< 52 + (BitVec.ofNat 52 m).toNat := by
        rw [BitVec.toNat_append, Nat.shiftLeft_add_eq_or_of_lt (BitVec.ofNat 52 m).isLt]
        rfl
    _ = m := by
        rw [hlow, Nat.shiftLeft_eq]
        omega

/-- A number that is stored is read back. -/
theorem Normal.unpack_pack (h : Normal m e) (s : Sign) :
    UnpackedFloat.unpack Format.binary64 (UnpackedFloat.pack Format.binary64
      (.finite s m e h.pos)) = .finite s m e h.pos := by
  have hle := h.le_exponent
  have hle' := h.exponent_le
  have hbias : Format.binary64.exponentBias = 1023 := by decide
  have hbits : Format.binary64.mantissaBits = 53 := by decide
  obtain ⟨b, hb⟩ : ∃ b : Nat, (b : Int) = e + 1075 := ⟨(e + 1075).toNat, by omega⟩
  have hbiased : (e + ((1023 : Nat) : Int) + ((52 : Nat) : Int)).toNat = b := by
    omega
  have hcode : (BitVec.ofNat 11 b).toNat = b := by
    rw [BitVec.toNat_ofNat, Nat.mod_eq_of_lt (by omega)]
  have hzero : BitVec.ofNat 11 b ≠ 0#11 := by
    intro heq
    have hval : b = 0 := hcode.symm.trans (congrArg BitVec.toNat heq)
    omega
  have hones : BitVec.ofNat 11 b ≠ -1#11 := by
    intro heq
    have hval : b = 2047 := hcode.symm.trans (congrArg BitVec.toNat heq)
    omega
  have hfinite : ¬ 2 ^ 11 ≤ b + 1 := by omega
  have hpack : UnpackedFloat.pack Format.binary64 (.finite s m e h.pos) =
      packComponents Format.binary64 s (BitVec.ofNat 11 b) (BitVec.ofNat 52 m) := by
    simp only [UnpackedFloat.pack, hbias, hbiased, h.log2_eq, hbits, if_neg hfinite, if_true]
  rw [hpack]
  simp only [UnpackedFloat.unpack, unpackMantissa_packComponents, unpackExponent_packComponents,
    unpackSign_packComponents, Sign.ofBitVec_toBitVec, if_neg hzero, if_neg hones, hcode, hbias,
    h.toNat_append]
  congr 1
  omega

end

/-! ## Counts -/

theorem unpack_one : (Float.ofBits 0x3FF0000000000000).toModel.unpack =
    .finite .positive (2 ^ 52) (-52) (by decide) := by
  rfl

/-- The significand of a count: its own bits, moved up to make 53. -/
def countSignificand (n : Nat) : Nat :=
  n * 2 ^ (52 - n.log2)

def countExponent (n : Nat) : Int :=
  n.log2 - 52

section

variable {n : Nat} (hpos : 0 < n) (hlt : n < 2 ^ 53)
include hpos hlt

theorem log2_le : n.log2 ≤ 52 :=
  Nat.le_of_lt_succ ((Nat.log2_lt hpos.ne').2 hlt)

theorem normal_count : Normal (countSignificand n) (countExponent n) where
  le_significand := by
    have hle := log2_le hpos hlt
    calc 2 ^ 52 = 2 ^ n.log2 * 2 ^ (52 - n.log2) := by rw [← pow_add, Nat.add_sub_cancel' hle]
      _ ≤ countSignificand n := Nat.mul_le_mul_right _ (Nat.log2_self_le hpos.ne')
  significand_lt := by
    have hle := log2_le hpos hlt
    have hsum : n.log2 + 1 + (52 - n.log2) = 53 := by omega
    calc countSignificand n < 2 ^ (n.log2 + 1) * 2 ^ (52 - n.log2) :=
          Nat.mul_lt_mul_of_pos_right Nat.lt_log2_self (Nat.two_pow_pos _)
      _ = 2 ^ 53 := by rw [← pow_add, hsum]
  le_exponent := by
    rw [countExponent]
    omega
  exponent_le := by
    have hle := log2_le hpos hlt
    rw [countExponent]
    omega

theorem normalize_count : UnpackedFloat.normalize Format.binary64 n 0 .positive =
    .finite .positive (countSignificand n) (countExponent n) (normal_count hpos hlt).pos := by
  have hle := log2_le hpos hlt
  have hexponent : (0 : Int) = countExponent n + ((52 - n.log2 : Nat) : Int) := by
    rw [countExponent]
    omega
  have hsign : compare (n : Int) 0 = .gt := Int.compare_eq_gt.2 (by omega)
  rw [UnpackedFloat.normalize, hsign, hexponent]
  exact (normal_count hpos hlt).round_of_shift .positive

theorem unpack_toFloat : n.toUInt64.toFloat.toModel.unpack =
    .finite .positive (countSignificand n) (countExponent n) (normal_count hpos hlt).pos := by
  have hword : n.toUInt64.toNat = n := UInt64.toNat_ofNat_of_lt' (by
    show n < 2 ^ 64
    omega)
  have hcount : UnpackedFloat.ofUInt64 Format.binary64 n.toUInt64 =
      .finite .positive (countSignificand n) (countExponent n) (normal_count hpos hlt).pos := by
    rw [UnpackedFloat.ofUInt64, hword]
    exact normalize_count hpos hlt
  show UnpackedFloat.unpack Format.binary64 (UnpackedFloat.pack Format.binary64
    (UnpackedFloat.ofUInt64 Format.binary64 n.toUInt64)) = _
  rw [hcount, (normal_count hpos hlt).unpack_pack]

theorem unpack_ofNat : (Float.ofNat n).toModel.unpack =
    .finite .positive (countSignificand n) (countExponent n) (normal_count hpos hlt).pos := by
  have hscientific : Float.ofNat n = n.toUInt64.toFloat * Float.ofBits 0x3FF0000000000000 :=
    dif_pos ⟨hlt, by decide⟩
  have hproduct := (normal_count hpos hlt).roundWithAccuracy_eq .positive 52
  rw [hscientific]
  show UnpackedFloat.unpack Format.binary64 (UnpackedFloat.pack Format.binary64
    (UnpackedFloat.mul Format.binary64 n.toUInt64.toFloat.toModel.unpack
      (Float.ofBits 0x3FF0000000000000).toModel.unpack)) = _
  rw [unpack_toFloat hpos hlt, unpack_one]
  show UnpackedFloat.unpack Format.binary64 (UnpackedFloat.pack Format.binary64
    (roundWithAccuracy Format.binary64 .positive (countSignificand n * 2 ^ 52)
      (countExponent n - (52 : Nat)) .exact)) = _
  rw [hproduct, (normal_count hpos hlt).unpack_pack]

theorem pack_count : UnpackedFloat.pack Format.binary64 (.finite .positive (countSignificand n)
    (countExponent n) (normal_count hpos hlt).pos) = (Float.ofNat n).toModel.toBits.toBitVec := by
  rw [← unpack_ofNat hpos hlt]
  exact pack_unpack_of_valid (Float.ofNat n).toModel.valid

/-- Moved to the least exponent of all counts, a count is that many units. -/
theorem decreaseExponent_count :
    decreaseExponent (countSignificand n) (countExponent n) (-52) = (n * 2 ^ 52, -52) := by
  have hle := log2_le hpos hlt
  have hshift : (countExponent n - -52).toNat = n.log2 := by
    rw [countExponent]
    omega
  have hunits : countSignificand n * 2 ^ n.log2 = n * 2 ^ 52 := by
    rw [countSignificand, mul_assoc, ← pow_add, Nat.sub_add_cancel hle]
  rw [decreaseExponent, hshift, Nat.shiftLeft_eq, hunits, countExponent]
  congr 1
  omega

theorem normalize_units : UnpackedFloat.normalize Format.binary64 ((n * 2 ^ 52 : Nat) : Int) (-52)
    .positive = .finite .positive (countSignificand n) (countExponent n)
      (normal_count hpos hlt).pos := by
  have hle := log2_le hpos hlt
  have hunits : n * 2 ^ 52 = countSignificand n * 2 ^ n.log2 := by
    rw [countSignificand, mul_assoc, ← pow_add, Nat.sub_add_cancel hle]
  have hexponent : (-52 : Int) = countExponent n - (n.log2 : Nat) := by
    rw [countExponent]
    omega
  have hsign : compare ((n * 2 ^ 52 : Nat) : Int) 0 = .gt := Int.compare_eq_gt.2 (by omega)
  rw [UnpackedFloat.normalize, hsign]
  show UnpackedFloat.round Format.binary64 .positive (n * 2 ^ 52) (-52) = _
  rw [hunits, hexponent]
  exact (normal_count hpos hlt).round_eq .positive n.log2

end

/-- One can be taken away from a count. -/
theorem ofNat_sub_one {n : Nat} (htwo : 2 ≤ n) (hlt : n < 2 ^ 53) :
    Float.ofNat n - Float.ofNat 1 = Float.ofNat (n - 1) := by
  have hpos : 0 < n := by omega
  have hrest : 0 < n - 1 := by omega
  have hrest' : n - 1 < 2 ^ 53 := by omega
  have hleast : min (countExponent n) (countExponent 1) = -52 := by
    show min ((n.log2 : Int) - 52) (-52) = -52
    omega
  have hunits : ((n * 2 ^ 52 : Nat) : Int) - ((1 * 2 ^ 52 : Nat) : Int) =
      (((n - 1) * 2 ^ 52 : Nat) : Int) := by
    omega
  have hsub : UnpackedFloat.sub Format.binary64 (Float.ofNat n).toModel.unpack
      (Float.ofNat 1).toModel.unpack = .finite .positive (countSignificand (n - 1))
        (countExponent (n - 1)) (normal_count hrest hrest').pos := by
    rw [unpack_ofNat hpos hlt, unpack_ofNat (by decide) (by decide)]
    simp only [UnpackedFloat.sub, hleast, decreaseExponent_count hpos hlt,
      decreaseExponent_count (n := 1) (by decide) (by decide), Sign.apply, hunits]
    exact normalize_units hrest hrest'
  apply Float.toBits_inj.1
  apply UInt64.toBitVec_inj.1
  show UnpackedFloat.pack Format.binary64 (UnpackedFloat.sub Format.binary64
    (Float.ofNat n).toModel.unpack (Float.ofNat 1).toModel.unpack) = _
  rw [hsub, pack_count hrest hrest']
  rfl

theorem ofNat_beq_zero {n : Nat} (hpos : 0 < n) (hlt : n < 2 ^ 53) :
    (Float.ofNat n == 0) = false := by
  show UnpackedFloat.beq (Float.ofNat n).toModel.unpack (0 : Float).toModel.unpack = false
  rw [unpack_ofNat hpos hlt]
  rfl

/-! ## Halves of counts -/

/-- The rational number that a double-precision number stands for, if it stands for one. -/
def toRat? (x : Float) : Option ℚ :=
  match x.toModel.unpack with
  | .finite .positive m e _ => some (m * 2 ^ e)
  | .finite .negative m e _ => some (-(m * 2 ^ e))
  | .zero _ => some 0
  | .infinity _ => none
  | .notANumber => none

theorem unpack_minus_half : (-0.5 : Float).toModel.unpack =
    .finite .negative (2 ^ 52) (-53) (by decide) := by
  rfl

section

variable {n : Nat} (hpos : 0 < n) (hlt : n < 2 ^ 53)
include hpos hlt

theorem normal_half_count : Normal (countSignificand n) (countExponent n - 1) where
  le_significand := (normal_count hpos hlt).le_significand
  significand_lt := (normal_count hpos hlt).significand_lt
  le_exponent := by
    rw [countExponent]
    omega
  exponent_le := by
    have hle := (normal_count hpos hlt).exponent_le
    omega

theorem unpack_half_ofNat : (-0.5 * Float.ofNat n).toModel.unpack =
    .finite .negative (countSignificand n) (countExponent n - 1)
      (normal_half_count hpos hlt).pos := by
  have hproduct := (normal_half_count hpos hlt).roundWithAccuracy_eq .negative 52
  have hexponent : -53 + countExponent n = countExponent n - 1 - (52 : Nat) := by omega
  show UnpackedFloat.unpack Format.binary64 (UnpackedFloat.pack Format.binary64
    (UnpackedFloat.mul Format.binary64 (-0.5 : Float).toModel.unpack
      (Float.ofNat n).toModel.unpack)) = _
  rw [unpack_minus_half, unpack_ofNat hpos hlt]
  show UnpackedFloat.unpack Format.binary64 (UnpackedFloat.pack Format.binary64
    (roundWithAccuracy Format.binary64 .negative (2 ^ 52 * countSignificand n)
      (-53 + countExponent n) .exact)) = _
  rw [Nat.mul_comm, hexponent, hproduct, (normal_half_count hpos hlt).unpack_pack]

theorem toRat?_half_ofNat : toRat? (-0.5 * Float.ofNat n) = some (-(n / 2 : ℚ)) := by
  have hle := log2_le hpos hlt
  have hexponent : countExponent n - 1 = -(((52 - n.log2 : Nat) : Int) + 1) := by
    rw [countExponent]
    omega
  have hvalue : (countSignificand n : ℚ) * 2 ^ (countExponent n - 1) = n / 2 := by
    rw [hexponent, zpow_neg, zpow_add₀ two_ne_zero, zpow_natCast, zpow_one, countSignificand]
    push_cast
    field_simp
  rw [toRat?, unpack_half_ofNat hpos hlt, ← hvalue]

end

/-- Half of a count is exact, and so is half of minus one. -/
theorem toRat?_half_ofInt {k : Int} (hle : -1 ≤ k) (hlt : k < 2 ^ 53) :
    toRat? (-0.5 * Float.ofInt k) = some (-(k / 2 : ℚ)) := by
  rcases lt_trichotomy k 0 with hneg | rfl | hpos
  · obtain rfl : k = -1 := by omega
    decide +kernel
  · decide +kernel
  · obtain ⟨n, rfl⟩ := Int.eq_ofNat_of_zero_le hpos.le
    exact toRat?_half_ofNat (by omega) (by omega)

theorem isFinite_notANumber : (UnpackedFloat.unpack Format.binary64
    (UnpackedFloat.pack Format.binary64 .notANumber)).isFinite = false := by
  rfl

theorem isFinite_infinity (s : Sign) : (UnpackedFloat.unpack Format.binary64
    (UnpackedFloat.pack Format.binary64 (.infinity s))).isFinite = false := by
  cases s with
  | negative | positive => rfl

theorem div_zero_eq (u : UnpackedFloat) :
    UnpackedFloat.div Format.binary64 u (.zero .positive) = .notANumber ∨
      ∃ s, UnpackedFloat.div Format.binary64 u (.zero .positive) = .infinity s := by
  cases u with
  | notANumber | zero s => exact .inl rfl
  | infinity s | finite s m e hm => exact .inr ⟨s / .positive, rfl⟩

theorem isFinite_div_zero (x : Float) : (x / 0).isFinite = false := by
  show (UnpackedFloat.unpack Format.binary64 (UnpackedFloat.pack Format.binary64
    (UnpackedFloat.div Format.binary64 x.toModel.unpack (.zero .positive)))).isFinite = false
  rcases div_zero_eq x.toModel.unpack with hdiv | ⟨s, hdiv⟩
  · rw [hdiv]
    exact isFinite_notANumber
  · rw [hdiv]
    exact isFinite_infinity s

end GridSetup.Binary
