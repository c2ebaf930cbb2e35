import RowMerge.Number.Binary64
import Mathlib.Algebra.Ring.Int.Defs
import Mathlib.Algebra.Ring.Nat
import Mathlib.Tactic.ByContra

/-!
# The order of numbers is that of their units

Numbers are compared by their bits, and an integer with a number by the ends of its range, a floor
and what lies above the floor. Both ways agree with the places on the scale of `Binary64.units`,
where every comparison is one of integers. For the bits the reason is that a greater magnitude has
more units: the units of one exponent field end where those of the next begin.
-/
namespace RowMerge.Binary64

/-! ## Magnitudes -/

theorem exponentField_fraction (x : Binary64) :
    x.exponentField * fractionCount + x.fraction = x.magnitude :=
  Nat.div_add_mod' x.magnitude fractionCount

theorem fraction_lt (x : Binary64) : x.fraction < fractionCount := Nat.mod_lt _ (by decide)

theorem exponentField_le (x : Binary64) : x.exponentField ≤ 2047 := by
  have bound := x.magnitude_lt
  have fields := x.exponentField_fraction
  simp only [signWeight, fractionCount] at *
  omega

theorem absUnits_of_least {x : Binary64} (least : x.exponentField = 0) :
    x.absUnits = x.fraction := by
  simp only [absUnits, significand, scale, least, if_true, Nat.shiftLeft_eq]
  exact Nat.mul_one _

theorem absUnits_of_normal {x : Binary64} (normal : x.exponentField ≠ 0) :
    x.absUnits = (fractionCount + x.fraction) * 2 ^ (x.exponentField - 1) := by
  simp only [absUnits, significand, scale, if_neg normal, Nat.shiftLeft_eq]

theorem absUnits_lt (x : Binary64) : x.absUnits < fractionCount * 2 ^ x.exponentField := by
  have small := x.fraction_lt
  by_cases least : x.exponentField = 0
  · simpa [absUnits_of_least least, least] using small
  · have doubled : 2 ^ x.exponentField = 2 * 2 ^ (x.exponentField - 1) := by
      rw [← Nat.pow_succ', Nat.succ_eq_add_one, Nat.sub_add_cancel (Nat.pos_of_ne_zero least)]
    rw [absUnits_of_normal least, doubled, Nat.mul_left_comm, ← Nat.mul_assoc]
    apply Nat.mul_lt_mul_of_pos_right _ (Nat.two_pow_pos _)
    omega

theorem le_absUnits {x : Binary64} (normal : x.exponentField ≠ 0) :
    fractionCount * 2 ^ (x.exponentField - 1) ≤ x.absUnits := by
  rw [absUnits_of_normal normal]
  exact Nat.mul_le_mul_right _ (Nat.le_add_right _ _)

theorem absUnits_lt_absUnits {x y : Binary64} (less : x.magnitude < y.magnitude) :
    x.absUnits < y.absUnits := by
  have fields : x.exponentField ≤ y.exponentField := Nat.div_le_div_right (Nat.le_of_lt less)
  rcases Nat.lt_or_eq_of_le fields with below | same
  · calc x.absUnits
        < fractionCount * 2 ^ x.exponentField := x.absUnits_lt
      _ ≤ fractionCount * 2 ^ (y.exponentField - 1) := by
          apply Nat.mul_le_mul_left
          apply Nat.pow_le_pow_right (by decide)
          omega
      _ ≤ y.absUnits := le_absUnits (by omega)
  · -- in one field the spacing is the same, so the fractions decide
    have hx := x.exponentField_fraction
    have hy := y.exponentField_fraction
    rw [same] at hx
    have fractions : x.fraction < y.fraction := by omega
    simp only [absUnits, significand, scale, Nat.shiftLeft_eq, same]
    apply Nat.mul_lt_mul_of_pos_right _ (Nat.two_pow_pos _)
    split <;> omega

theorem absUnits_eq_zero_iff (x : Binary64) : x.absUnits = 0 ↔ x.magnitude = 0 := by
  constructor
  · intro none
    by_contra some
    -- 0 has fewer units than what has a greater magnitude
    have zero : (⟨0⟩ : Binary64).absUnits = 0 := by decide +kernel
    have positive : (⟨0⟩ : Binary64).absUnits < x.absUnits :=
      absUnits_lt_absUnits (Nat.pos_of_ne_zero some)
    omega
  · intro none
    have least : x.exponentField = 0 := by rw [exponentField, none, Nat.zero_div]
    rw [absUnits_of_least least, fraction, none, Nat.zero_mod]

theorem units_eq_or (x : Binary64) : x.units = x.absUnits ∨ x.units = -(x.absUnits : Int) := by
  unfold units
  split
  · exact .inr rfl
  · exact .inl rfl

/-! ## Infinities and NaNs -/

/-- How often the significand of an infinity or a NaN is doubled. -/
def infinityScale : Nat := 2046

/-- The place of the infinity on the scale of units. -/
def infinityUnits : Nat := fractionCount * 2 ^ infinityScale

theorem infinityUnits_pos : 0 < infinityUnits := Nat.mul_pos (by decide) (Nat.two_pow_pos _)

theorem absUnits_lt_infinityUnits {x : Binary64} (finite : x.exponentField ≠ 2047) :
    x.absUnits < infinityUnits := by
  have below : x.exponentField ≤ infinityScale :=
    Nat.le_of_lt_succ (Nat.lt_of_le_of_ne x.exponentField_le finite)
  apply Nat.lt_of_lt_of_le x.absUnits_lt
  apply Nat.mul_le_mul_left
  exact Nat.pow_le_pow_right (by decide) below

theorem absUnits_of_past_finite {x : Binary64} (past : x.exponentField = 2047) :
    x.absUnits = infinityUnits + x.fraction * 2 ^ infinityScale := by
  have highest : x.exponentField - 1 = infinityScale := by rw [past, infinityScale]
  rw [absUnits_of_normal (by omega), highest, Nat.add_mul, infinityUnits]

/-- Below the last exponent field are the finite numbers. In it the fraction is counted from the infinity. -/
theorem magnitude_cases (x : Binary64) :
    x.exponentField ≠ 2047 ∧ x.magnitude < infinityMagnitude ∨
      x.exponentField = 2047 ∧ x.magnitude = infinityMagnitude + x.fraction := by
  have bound := x.exponentField_le
  have small := x.fraction_lt
  have fields := x.exponentField_fraction
  simp only [infinityMagnitude, fractionCount] at small fields ⊢
  omega

theorem isNaN_iff {x : Binary64} :
    x.isNaN = true ↔ x.exponentField = 2047 ∧ x.fraction ≠ 0 := by
  have side := x.magnitude_cases
  rw [isNaN, decide_eq_true_eq]
  omega

theorem isFinite_iff {x : Binary64} : x.isFinite = true ↔ x.exponentField ≠ 2047 := by
  have side := x.magnitude_cases
  rw [isFinite, decide_eq_true_eq]
  omega

/-- A NaN stands past the infinity of its sign. -/
theorem units_of_isNaN {x : Binary64} (nan : x.isNaN = true) :
    (x.isNegative = true → x.units < -infinityUnits) ∧
      (x.isNegative = false → infinityUnits < x.units) := by
  obtain ⟨past, payload⟩ := isNaN_iff.mp nan
  have positive : 0 < x.fraction * 2 ^ infinityScale :=
    Nat.mul_pos (Nat.pos_of_ne_zero payload) (Nat.two_pow_pos _)
  have places := absUnits_of_past_finite past
  constructor
  · intro negative
    rw [units, if_pos negative]
    omega
  · intro positive
    rw [units, if_neg (Bool.eq_false_iff.mp positive)]
    omega

/-! ## Two numbers -/

/-- The order of the bits has no ties. -/
theorem bitOrderKey_inj {x y : Binary64} : x.bitOrderKey = y.bitOrderKey ↔ x.bits = y.bits := by
  have sign (z : Binary64) : z.isNegative = true ↔ 2 ^ 63 ≤ z.bits.toNat := decide_eq_true_iff
  have magnitude (z : Binary64) : z.magnitude = z.bits.toNat % 2 ^ 63 := rfl
  have bound := x.bits.toNat_lt
  have bound' := y.bits.toNat_lt
  rw [← UInt64.toNat_inj]
  simp only [bitOrderKey, sign, magnitude]
  split <;> split <;> omega

/-- What is lower by its bits has fewer units, unless it is -0 and the other 0. -/
theorem units_lt_or_zeros {x y : Binary64} (less : x.bitOrderKey < y.bitOrderKey) :
    x.units < y.units ∨ x.magnitude = 0 ∧ y.magnitude = 0 := by
  have upward : x.magnitude < y.magnitude → x.absUnits < y.absUnits := absUnits_lt_absUnits
  have downward : y.magnitude < x.magnitude → y.absUnits < x.absUnits := absUnits_lt_absUnits
  have zero := x.absUnits_eq_zero_iff
  have zero' := y.absUnits_eq_zero_iff
  unfold bitOrderKey at less
  unfold units
  -- below 0 the order of the magnitudes is turned round
  cases hx : x.isNegative <;> cases hy : y.isNegative <;>
    simp only [hx, hy, Bool.false_eq_true, ↓reduceIte] at less ⊢ <;> omega

theorem numericEq_of_zeros {x y : Binary64} (hx : x.magnitude = 0) (hy : y.magnitude = 0) :
    x.numericEq y = true := by
  have zx := x.absUnits_eq_zero_iff.mpr hx
  have zy := y.absUnits_eq_zero_iff.mpr hy
  simp [numericEq, isNaN, units, hx, hy, zx, zy]

theorem order_eq (x y : Binary64) : x.order y = compare x.units y.units := by
  unfold order
  split
  case isTrue equal =>
    have units : x.units = y.units := by
      simp only [numericEq, Bool.and_eq_true, beq_iff_eq] at equal
      exact equal.2
    rw [units, Std.ReflOrd.compare_self]
  case isFalse distinct =>
    -- the two zeros are equal numbers, so the bits do not decide between them
    rcases Int.lt_trichotomy x.bitOrderKey y.bitOrderKey with less | equal | greater
    · rcases units_lt_or_zeros less with units | ⟨hx, hy⟩
      · rw [Int.compare_eq_lt.mpr less, Int.compare_eq_lt.mpr units]
      · exact absurd (numericEq_of_zeros hx hy) distinct
    · have same : x = y := congrArg Binary64.mk (bitOrderKey_inj.mp equal)
      rw [same, Std.ReflOrd.compare_self, Std.ReflOrd.compare_self]
    · rcases units_lt_or_zeros greater with units | ⟨hy, hx⟩
      · rw [Int.compare_eq_gt.mpr greater, Int.compare_eq_gt.mpr units]
      · exact absurd (numericEq_of_zeros hx hy) distinct

/-- Numbers that are tied without being equal are the same NaN. -/
theorem order_eq_eq_iff {x y : Binary64} : x.order y = .eq ↔ x.numericEq y = true ∨ x = y := by
  unfold order
  split
  case isTrue equal => simp [equal]
  case isFalse distinct =>
    rw [Std.LawfulEqOrd.compare_eq_iff_eq, bitOrderKey_inj]
    constructor
    · intro same
      exact .inr (congrArg mk same)
    · rintro (equal | rfl)
      · exact absurd equal distinct
      · rfl

/-! ## An integer and a number -/

theorem unitsPerOne_eq : unitsPerOne = 2 ^ 1074 := by
  -- stated for any power, so that this one is not evaluated
  have shifted (k : Nat) : 1 <<< k = 2 ^ k := Nat.one_shiftLeft k
  exact shifted 1074

theorem unitsPerOne_pos : (0 : Int) < unitsPerOne := by decide +kernel

theorem unitsOfInt_lt_iff {m n : Int} : unitsOfInt m < unitsOfInt n ↔ m < n :=
  Int.mul_lt_mul_right unitsPerOne_pos

theorem unitsOfInt_le_iff {m n : Int} : unitsOfInt m ≤ unitsOfInt n ↔ m ≤ n :=
  Int.mul_le_mul_right unitsPerOne_pos

theorem compare_unitsOfInt (m n : Int) : compare (unitsOfInt m) (unitsOfInt n) = compare m n := by
  rcases Int.lt_trichotomy m n with less | rfl | greater
  · rw [Int.compare_eq_lt.mpr less, Int.compare_eq_lt.mpr (unitsOfInt_lt_iff.mpr less)]
  · rw [Std.ReflOrd.compare_self, Std.ReflOrd.compare_self]
  · rw [Int.compare_eq_gt.mpr greater, Int.compare_eq_gt.mpr (unitsOfInt_lt_iff.mpr greater)]

theorem unitsOfInt_le_iff_le_floor {m n : Int} : unitsOfInt m ≤ n ↔ m ≤ n / unitsPerOne :=
  (Int.le_ediv_iff_mul_le unitsPerOne_pos).symm

theorem unitsOfInt_lt_infinityUnits : unitsOfInt integersEnd < infinityUnits := by decide +kernel

theorem unitsOfInt_range (i : Int64) :
    -unitsOfInt integersEnd ≤ unitsOfInt i.toInt ∧ unitsOfInt i.toInt < unitsOfInt integersEnd := by
  constructor
  · rw [unitsOfInt, ← Int.neg_mul]
    exact unitsOfInt_le_iff.mpr i.le_toInt
  · exact unitsOfInt_lt_iff.mpr i.toInt_lt

/-- An integer against a place between integers: the floor decides, and on a tie what is above it. -/
theorem compare_floor (m n : Int) :
    (compare m (n / unitsPerOne)).then (if unitsOfInt (n / unitsPerOne) < n then .lt else .eq) =
      compare (unitsOfInt m) n := by
  have floor_le : unitsOfInt (n / unitsPerOne) ≤ n := unitsOfInt_le_iff_le_floor.mpr (Int.le_refl _)
  rcases Int.lt_trichotomy m (n / unitsPerOne) with less | rfl | greater
  · have below : unitsOfInt m < unitsOfInt (n / unitsPerOne) := unitsOfInt_lt_iff.mpr less
    rw [Int.compare_eq_lt.mpr less, Int.compare_eq_lt.mpr (Int.lt_of_lt_of_le below floor_le)]
    rfl
  · rw [Std.ReflOrd.compare_self, Ordering.then]
    split
    case isTrue below => exact (Int.compare_eq_lt.mpr below).symm
    case isFalse tied => exact (Int.compare_eq_eq.mpr (by omega)).symm
  · have above : n < unitsOfInt m :=
      Int.not_le.mp (mt unitsOfInt_le_iff_le_floor.mp (Int.not_le.mpr greater))
    rw [Int.compare_eq_gt.mpr greater, Int.compare_eq_gt.mpr above]
    rfl

theorem orderOfInteger_eq (i : Int64) (y : Binary64) :
    orderOfInteger i y = compare (unitsOfInt i.toInt) y.units := by
  obtain ⟨least, greatest⟩ := unitsOfInt_range i
  have ends := unitsOfInt_lt_infinityUnits
  -- NaNs of either sign, numbers past either end of the range, numbers inside it
  fun_cases orderOfInteger i y
  case case1 nan negative =>
    have past := (units_of_isNaN nan).1 negative
    have above : y.units < unitsOfInt i.toInt := by omega
    exact (Int.compare_eq_gt.mpr above).symm
  case case2 nan positive =>
    have past := (units_of_isNaN nan).2 (Bool.eq_false_iff.mpr positive)
    have below : unitsOfInt i.toInt < y.units := by omega
    exact (Int.compare_eq_lt.mpr below).symm
  case case3 _ past => exact (Int.compare_eq_lt.mpr (Int.lt_of_lt_of_le greatest past)).symm
  case case4 _ _ past =>
    rw [unitsOfInt, Int.neg_mul] at past
    exact (Int.compare_eq_gt.mpr (Int.lt_of_lt_of_le past least)).symm
  case case5 _ notPast notBelow floor =>
    -- the floor is an integer of 64 bits, so the cast keeps it
    have cast : (Int64.ofIntClamp floor).toInt = floor := by
      apply Int64.toInt_ofIntClamp
      · exact unitsOfInt_le_iff_le_floor.mp (Int.not_lt.mp notBelow)
      · have below : floor < integersEnd := Int.not_le.mp (mt unitsOfInt_le_iff_le_floor.mpr notPast)
        exact Int.le_of_lt_add_one below
    rw [cast]
    exact compare_floor i.toInt y.units

end RowMerge.Binary64
