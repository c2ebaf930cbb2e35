import RowMerge.Proofs.ExactValues

/-!
# Readings as an integer

A value reads as the integer that it is tied with, and inside the range of 64 bits as no other. Past the
range there is no integer to be tied with, but a finite number has a reading all the same: the integer at
the end that it lies beyond. Every number out there is whole, for the spacing of the numbers reaches 1 long
before the end of the range, so all of them have this reading.
-/
namespace RowMerge

namespace Binary64

/-! ## Whole numbers -/

theorem isFinite_of_absUnits_lt {x : Binary64} (inside : x.absUnits < infinityUnits) :
    x.isFinite = true := by
  rw [isFinite_iff]
  intro past
  rw [absUnits_of_past_finite past] at inside
  omega

theorem toInt?_eq_some_iff {x : Binary64} {n : Int} :
    x.toInt? = some n ↔ x.isFinite = true ∧ x.units = unitsOfInt n := by
  unfold toInt? unitsOfInt
  constructor
  · intro read
    split at read
    case isTrue whole =>
      rw [Bool.and_eq_true, beq_iff_eq] at whole
      cases read
      exact ⟨whole.1, (Int.ediv_mul_cancel (Int.dvd_of_emod_eq_zero whole.2)).symm⟩
    case isFalse => cases read
  · rintro ⟨finite, place⟩
    have floor : n * unitsPerOne / unitsPerOne = n :=
      Int.mul_ediv_cancel n (Int.ne_of_gt unitsPerOne_pos)
    simp [finite, place, floor]

/-- A number of `2 ^ (52 + k)` units or more is a multiple of `2 ^ k` units. -/
theorem two_pow_dvd_absUnits {x : Binary64} {k : Nat} (large : fractionCount * 2 ^ k ≤ x.absUnits) :
    2 ^ k ∣ x.absUnits := by
  -- a significand is less than `2 ^ 53`, so it has been doubled `k` times at least
  have doublings : k < x.exponentField := by
    have upper := Nat.lt_of_le_of_lt large x.absUnits_lt
    exact (Nat.pow_lt_pow_iff_right (by decide)).mp (Nat.lt_of_mul_lt_mul_left upper)
  rw [absUnits_of_normal (by omega)]
  exact (Nat.pow_dvd_pow 2 (by omega)).mul_left _

theorem exists_unitsOfInt_of_large {x : Binary64}
    (large : fractionCount * unitsPerOne ≤ x.absUnits) : ∃ n, x.units = unitsOfInt n := by
  have whole : (unitsPerOne : Int) ∣ x.units := by
    rw [unitsPerOne_eq] at large ⊢
    have whole := Int.natCast_dvd_natCast.mpr (two_pow_dvd_absUnits large)
    rcases x.units_eq_or with same | same
    · rw [same]
      exact whole
    · rw [same]
      exact Int.dvd_neg.mpr whole
  exact ⟨x.units / unitsPerOne, (Int.ediv_mul_cancel whole).symm⟩

/-! ## The range of 64 bits -/

/-- An integer moved into the range stays where it is, or comes to the end that it lay beyond. -/
theorem ofIntClamp_eq_iff {n : Int} {i : Int64} :
    Int64.ofIntClamp n = i ↔ n = i.toInt ∨
      i = Int64.maxValue ∧ i.toInt < n ∨ i = Int64.minValue ∧ n < i.toInt := by
  have ends : Int64.minValue.toInt ≤ Int64.maxValue.toInt := by decide
  constructor
  · rintro rfl
    by_cases below : n < Int64.minValue.toInt
    · have moved : Int64.ofIntClamp n = Int64.minValue := dif_neg (Int.not_le.mpr below)
      exact .inr (.inr ⟨moved, moved ▸ below⟩)
    · by_cases above : Int64.maxValue.toInt < n
      · have moved : Int64.ofIntClamp n = Int64.maxValue := by
          rw [Int64.ofIntClamp, dif_pos (Int.not_lt.mp below), dif_neg (Int.not_le.mpr above)]
        exact .inr (.inl ⟨moved, moved ▸ above⟩)
      · exact .inl (Int64.toInt_ofIntClamp (Int.not_lt.mp below) (Int.not_lt.mp above)).symm
  · rintro (rfl | ⟨rfl, above⟩ | ⟨rfl, below⟩)
    · exact i.ofIntClamp_toInt
    · rw [Int64.ofIntClamp, dif_pos (by omega), dif_neg (Int.not_le.mpr above)]
    · rw [Int64.ofIntClamp, dif_neg (Int.not_le.mpr below)]

theorem absUnits_lt_of_unitsOfInt {x : Binary64} {i : Int64} (tied : x.units = unitsOfInt i.toInt) :
    x.absUnits < infinityUnits := by
  obtain ⟨least, greatest⟩ := unitsOfInt_range i
  have ends := unitsOfInt_lt_infinityUnits
  have sizes := x.units_eq_or
  omega

theorem value?_eq_some_integer_iff {x : Binary64} {i : Int64} :
    x.value? = some ((i.toInt : ℚ) : WithBotTop ℚ) ↔ x.units = unitsOfInt i.toInt := by
  obtain ⟨value, inside⟩ := valueAt_unitsOfInt i
  constructor
  · intro whole
    obtain ⟨place, inside'⟩ := value?_eq_some whole
    exact valueAt_strictMonoOn.injOn inside' inside (place.trans value.symm)
  · intro tied
    have finite := isFinite_iff.mp (isFinite_of_absUnits_lt (absUnits_lt_of_unitsOfInt tied))
    have number : ¬ x.isNaN = true := fun nan => finite (isNaN_iff.mp nan).1
    rw [(value?_of_not_isNaN number).1, tied, value]

end Binary64

namespace Value

open Binary64

/-- A finite number beyond the range of 64 bits, and the integer at the end that it lies beyond. -/
def PastEnd (v : Value) (i : Int64) : Prop :=
  ∃ x, v = number x ∧ x.isFinite = true ∧
    (i = Int64.maxValue ∧ v.order (integer i) = .gt ∨
      i = Int64.minValue ∧ v.order (integer i) = .lt)

theorem order_number_integer (x : Binary64) (i : Int64) :
    (number x).order (integer i) = compare x.units (unitsOfInt i.toInt) :=
  order_of_units rfl rfl

/-- Past an end of the range a finite number is an integer. -/
theorem exists_toInt?_of_pastEnd {x : Binary64} {i : Int64} (past : PastEnd (number x) i) :
    ∃ n, x.toInt? = some n ∧ Int64.ofIntClamp n = i := by
  obtain ⟨x', same, finite, beyond⟩ := past
  cases same
  simp only [order_number_integer, Int.compare_eq_gt, Int.compare_eq_lt] at beyond
  -- the count of fractions is an integer well inside the range
  have large : fractionCount * unitsPerOne ≤ x.absUnits := by
    have units : ((fractionCount * unitsPerOne : Nat) : Int) = unitsOfInt fractionCount :=
      Int.natCast_mul _ _
    have upper : unitsOfInt fractionCount < unitsOfInt Int64.maxValue.toInt :=
      unitsOfInt_lt_iff.mpr (by decide)
    have lower : unitsOfInt Int64.minValue.toInt < -unitsOfInt fractionCount := by
      rw [unitsOfInt, unitsOfInt, ← Int.neg_mul]
      exact unitsOfInt_lt_iff.mpr (by decide)
    have sizes := units_eq_or x
    rcases beyond with ⟨rfl, above⟩ | ⟨rfl, below⟩ <;> omega
  obtain ⟨n, place⟩ := exists_unitsOfInt_of_large large
  rw [place, unitsOfInt_lt_iff, unitsOfInt_lt_iff] at beyond
  exact ⟨n, toInt?_eq_some_iff.mpr ⟨finite, place⟩, ofIntClamp_eq_iff.mpr (.inr beyond)⟩

theorem toInteger?_number_iff (x : Binary64) (i : Int64) :
    (number x).toInteger? = some i ↔
      (number x).order (integer i) = .eq ∨ PastEnd (number x) i := by
  rw [toInteger?, Option.map_eq_some_iff]
  constructor
  · rintro ⟨n, read, moved⟩
    obtain ⟨finite, place⟩ := toInt?_eq_some_iff.mp read
    -- the number is compared as the integer `n` that it is, before `n` is moved into the range
    have order (j : Int64) : (number x).order (integer j) = compare n j.toInt := by
      rw [order_number_integer, place, compare_unitsOfInt]
    rcases ofIntClamp_eq_iff.mp moved with rfl | ⟨rfl, above⟩ | ⟨rfl, below⟩
    · exact .inl ((order i).trans Std.ReflOrd.compare_self)
    · exact .inr ⟨x, rfl, finite, .inl ⟨rfl, (order _).trans (Int.compare_eq_gt.mpr above)⟩⟩
    · exact .inr ⟨x, rfl, finite, .inr ⟨rfl, (order _).trans (Int.compare_eq_lt.mpr below)⟩⟩
  · rintro (tied | past)
    · rw [order_number_integer, Int.compare_eq_eq] at tied
      have finite := isFinite_of_absUnits_lt (absUnits_lt_of_unitsOfInt tied)
      exact ⟨i.toInt, toInt?_eq_some_iff.mpr ⟨finite, tied⟩, i.ofIntClamp_toInt⟩
    · exact exists_toInt?_of_pastEnd past

/-- A value reads as the integers that it is tied with, which there is at most one of: the integer that it
is, or the exact value of the number that it is. Besides, a finite number past an end of the range reads
as the integer at that end. -/
theorem toInteger?_eq_some_iff (v : Value) (i : Int64) :
    (v.toInteger? = some i ↔ v.order (integer i) = .eq ∨ PastEnd v i) ∧
      (v.order (integer i) = .eq ↔
        v = integer i ∨ ∃ x, v = number x ∧ x.value? = some ((i.toInt : ℚ) : WithBotTop ℚ)) := by
  cases v
  case number x =>
    refine ⟨toInteger?_number_iff x i, ?_⟩
    rw [order_number_integer, Int.compare_eq_eq]
    simp [value?_eq_some_integer_iff]
  case integer j => simp [toInteger?, order, PastEnd, Int64.toInt_inj]
  all_goals simp [toInteger?, order, rank, PastEnd]

/-- The number `2 ^ 63` is one past the last integer of 64 bits, which it reads as. -/
theorem toInteger?_of_past_range :
    let v : Value := number ⟨0x43E0000000000000⟩
    v.toInteger? = some Int64.maxValue ∧ v.order (integer Int64.maxValue) = .gt ∧
      ¬ (v.toInteger? = some Int64.maxValue ↔ v.order (integer Int64.maxValue) = .eq) := by
  intro v
  have read : v.toInteger? = some Int64.maxValue := by decide +kernel
  have past : v.order (integer Int64.maxValue) = .gt := by decide +kernel
  refine ⟨read, past, ?_⟩
  intro claimed
  have tied := claimed.mp read
  rw [past] at tied
  cases tied

end Value

end RowMerge
