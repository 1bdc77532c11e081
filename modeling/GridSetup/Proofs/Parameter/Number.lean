import GridSetup.Parameters
import GridSetup.Proofs.Parameter.Value
import GridSetup.Proofs.Text.AsciiCase

/-!
# A number written in decimal is read back

What `writeInt` writes is made of eleven characters. None of them is a quote, a
blank or a letter, so tidying leaves the text alone, the text is its own first
word, and it is not taken for a flag. What is left is to read the digits.
-/

namespace GridSetup

open Parameter Text

namespace Decimal

theorem isDigit_of_mem_writeNat {n : Nat} {c : Char} (h : c ∈ writeNat n) : c.isDigit = true :=
  Nat.isDigit_of_mem_toDigits (by omega) (by omega) h

theorem writeNat_ne_nil (n : Nat) : writeNat n ≠ [] := by
  simp [writeNat]

theorem readInt_of_digits {cs : List Char} (h : ∀ c ∈ cs, c.isDigit = true) :
    readInt cs = (readDigits cs).map Int.ofNat := by
  rw [readInt.eq_def]
  split
  · next rest => cases h '-' List.mem_cons_self
  · next rest => cases h '+' List.mem_cons_self
  · rfl

theorem readInt_writeInt (n : Int) : readInt (writeInt n) = some n := by
  rw [writeInt]
  split
  · next hn =>
      have habs : -(n.natAbs : Int) = n := by omega
      rw [readInt, readDigits_writeNat]
      exact congrArg some habs
  · next hn =>
      have habs : (n.natAbs : Int) = n := by omega
      rw [readInt_of_digits fun c => isDigit_of_mem_writeNat, readDigits_writeNat]
      exact congrArg some habs

/-- The characters of numbers in decimal. -/
def numerals : List Char :=
  ['-', '0', '1', '2', '3', '4', '5', '6', '7', '8', '9']

theorem mem_numerals_of_isDigit {c : Char} (h : c.isDigit = true) : c ∈ numerals := by
  rw [Char.isDigit, Bool.and_eq_true, decide_eq_true_eq, decide_eq_true_eq] at h
  have hlo : 48 ≤ c.toNat := h.1
  have hhi : c.toNat < 58 := Nat.lt_succ_of_le h.2
  exact of_toNat_lt (P := fun c => 48 ≤ c.toNat → c ∈ numerals) (by decide) hhi hlo

theorem mem_numerals_of_mem_writeInt {n : Int} {c : Char} (h : c ∈ writeInt n) : c ∈ numerals := by
  rw [writeInt] at h
  split at h
  · rcases List.mem_cons.1 h with rfl | h
    · decide
    · exact mem_numerals_of_isDigit (isDigit_of_mem_writeNat h)
  · exact mem_numerals_of_isDigit (isDigit_of_mem_writeNat h)

theorem writeInt_ne_nil (n : Int) : writeInt n ≠ [] := by
  rw [writeInt]
  split
  · exact List.cons_ne_nil _ _
  · exact writeNat_ne_nil _

end Decimal

open Decimal

/-! ## Texts of numerals are tidy -/

theorem isBlank_of_mem_numerals : ∀ c ∈ numerals, isBlank c = false :=
  forall_mem_of_all (by decide)

theorem asciiLower_numerals {cs : List Char} (h : ∀ c ∈ cs, c ∈ numerals) : asciiLower cs = cs := by
  have hall : ∀ c ∈ numerals, asciiLowerChar c = c := forall_mem_of_all (by decide)
  rw [asciiLower, List.map_congr_left fun c hc => hall c (h c hc), List.map_id']

theorem flagDigit_numerals {cs : List Char} (h : ∀ c ∈ cs, c ∈ numerals) : flagDigit cs = cs := by
  have hwords : ((trueWords ++ falseWords).all fun w => w.any fun c => c ∉ numerals) = true := by
    decide
  have hnot : cs ∉ trueWords ++ falseWords := by
    intro hmem
    obtain ⟨c, hc, hnumeral⟩ := List.any_eq_true.1 (List.all_eq_true.1 hwords cs hmem)
    exact of_decide_eq_true hnumeral (h c hc)
  rw [List.mem_append, not_or] at hnot
  rw [flagDigit, asciiLower_numerals h, if_neg (by simpa using hnot.1), if_neg (by simpa using hnot.2)]

theorem tidyChars_numerals {cs : List Char} (h : ∀ c ∈ cs, c ∈ numerals) : tidyChars cs = cs := by
  have hquote : '"' ∉ cs := fun hmem => absurd (h _ hmem) (by decide)
  have htrim : trim cs = cs := trim_eq_self
    (fun c hc => isBlank_of_mem_numerals c (h c (List.mem_of_mem_head? hc)))
    (fun c hc => isBlank_of_mem_numerals c (h c (List.mem_of_mem_getLast? hc)))
  rw [tidyChars, unquote_eq_self hquote, htrim, flagDigit_numerals h]

theorem firstWord_numerals {cs : List Char} (hne : cs ≠ []) (h : ∀ c ∈ cs, c ∈ numerals) :
    firstWord cs = some cs := by
  have hstart : trimStart cs = cs :=
    trimStart_eq_self fun c hc => isBlank_of_mem_numerals c (h c (List.mem_of_mem_head? hc))
  have hword : cs.takeWhile (fun c => !isBlank c) = cs :=
    List.takeWhile_eq_self_iff.2 fun c hc => by rw [isBlank_of_mem_numerals c (h c hc)]; rfl
  rw [firstWord, hstart]
  cases cs with
  | nil => exact absurd rfl hne
  | cons c rest => exact congrArg some hword

/-! ## The types of integers -/

/-- The types of integers among the types of values. -/
inductive IntegerType where
  | int32
  | int64
  | nat32
  | nat64
  | count
  deriving DecidableEq

namespace IntegerType

def valueType : IntegerType → ValueType
  | .int32 => .int32
  | .int64 => .int64
  | .nat32 => .nat32
  | .nat64 => .nat64
  | .count => .count

/-- The least number of a type. -/
def least : IntegerType → Int
  | .int32 => -0x80000000
  | .int64 => -0x8000000000000000
  | .nat32 | .nat64 | .count => 0

/-- The greatest number of a type. -/
def greatest : IntegerType → Int
  | .int32 => 0x7fffffff
  | .int64 => 0x7fffffffffffffff
  | .nat32 => 0xffffffff
  | .nat64 | .count => 0xffffffffffffffff

/-- A number lies in the range of a type. -/
def Holds (t : IntegerType) (n : Int) : Prop :=
  t.least ≤ n ∧ n ≤ t.greatest

instance (t : IntegerType) (n : Int) : Decidable (t.Holds n) :=
  inferInstanceAs (Decidable (_ ∧ _))

/-- The number that a value of a type stands for. -/
def toInt : (t : IntegerType) → t.valueType.Carrier → Int
  | .int32, x => Int32.toInt x
  | .int64, x => Int64.toInt x
  | .nat32, x => UInt32.toNat x
  | .nat64, x => UInt64.toNat x
  | .count, x => UInt64.toNat x

end IntegerType

namespace Decimal

/-! ## Reading -/

theorem readDigits_minus (cs : List Char) : readDigits ('-' :: cs) = none := by
  simp [readDigits]

theorem readNat_writeNat (n : Nat) : readNat (writeNat n) = some n := by
  rw [readNat.eq_def]
  split
  · next cs hcs =>
      have hplus : '+' ∈ writeNat n := by simp [hcs]
      have hdigit := isDigit_of_mem_writeNat hplus
      cases hdigit
  · exact readDigits_writeNat n

theorem readNat_writeInt (n : Int) :
    readNat (writeInt n) = if n < 0 then none else some n.toNat := by
  rw [writeInt]
  split
  · exact readDigits_minus _
  · rw [readNat_writeNat]
    congr 1
    omega

section

variable {α : Type} {toInt : α → Int}

/-- A number between two bounds is read and put into a type that has all numbers between them. -/
theorem map_readIntBetween_writeInt {low high : Int} {ofInt : Int → α}
    (h : ∀ n, low ≤ n → n ≤ high → toInt (ofInt n) = n) (n : Int) :
    ((ValueType.readIntBetween low high (writeInt n)).map ofInt).map toInt =
      if low ≤ n ∧ n ≤ high then some n else none := by
  rw [ValueType.readIntBetween, readInt_writeInt, Option.filter_some]
  simp only [Bool.and_eq_true, decide_eq_true_eq]
  split
  · next hn => rw [Option.map_some, Option.map_some, h n hn.1 hn.2]
  · rfl

theorem map_readNatBelow_writeInt {bound : Nat} {ofNat : Nat → α}
    (h : ∀ m < bound, toInt (ofNat m) = m) (n : Int) :
    ((ValueType.readNatBelow bound (writeInt n)).map ofNat).map toInt =
      if 0 ≤ n ∧ n ≤ bound - 1 then some n else none := by
  rw [ValueType.readNatBelow, readNat_writeInt]
  by_cases hn : n < 0
  · rw [if_pos hn, if_neg (by omega)]
    rfl
  · rw [if_neg hn, Option.filter_some]
    by_cases hbound : n.toNat < bound
    · rw [if_pos (by simpa using hbound), if_pos (by omega), Option.map_some, Option.map_some,
        h _ hbound]
      congr 1
      omega
    · rw [if_neg (by simpa using hbound), if_neg (by omega)]
      rfl

end

/-- A number in decimal reads as itself in a type that has it, and not at all in another. -/
theorem readToken_writeInt (t : IntegerType) (n : Int) :
    (t.valueType.readToken (writeInt n)).map t.toInt = if t.Holds n then some n else none := by
  cases t with
  | int32 =>
      exact map_readIntBetween_writeInt
        (fun n hlow hhigh => Int32.toInt_ofInt_of_le hlow (by omega)) n
  | int64 =>
      exact map_readIntBetween_writeInt
        (fun n hlow hhigh => Int64.toInt_ofInt_of_le hlow (by omega)) n
  | nat32 =>
      have hexact : ∀ m < 0x100000000, IntegerType.nat32.toInt (UInt32.ofNat m) = m :=
        fun m hm => congrArg Int.ofNat (UInt32.toNat_ofNat_of_lt' hm)
      exact map_readNatBelow_writeInt hexact n
  | nat64 | count =>
      have hexact : ∀ m < 0x10000000000000000, IntegerType.nat64.toInt (UInt64.ofNat m) = m :=
        fun m hm => congrArg Int.ofNat (UInt64.toNat_ofNat_of_lt' hm)
      exact map_readNatBelow_writeInt hexact n

end Decimal

theorem readToken_writeInt_int32 (n : Int32) :
    ValueType.readToken .int32 (writeInt n.toInt) = some n := by
  have hholds : IntegerType.int32.Holds n.toInt := ⟨Int32.le_toInt n, Int32.toInt_le n⟩
  have hread := Decimal.readToken_writeInt .int32 n.toInt
  rw [if_pos hholds] at hread
  obtain ⟨x, hx, hn⟩ := Option.map_eq_some_iff.1 hread
  exact hx.trans (congrArg some (Int32.toInt_inj.1 hn))

/-- A number written in decimal reads as that number. -/
theorem Parameters.readValue_writeInt_int32 (n : Int32) :
    readValue .int32 (tidy (String.ofList (writeInt n.toInt))) = .ok n := by
  have hnumerals : ∀ c ∈ writeInt n.toInt, c ∈ numerals := fun c => mem_numerals_of_mem_writeInt
  rw [tidy_ofList, tidyChars_numerals hnumerals, readValue, String.toList_ofList,
    firstWord_numerals (writeInt_ne_nil _) hnumerals, Option.bind_some, readToken_writeInt_int32]

end GridSetup
