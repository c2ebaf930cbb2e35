import RowMerge.Proofs.ValueOrder
import Mathlib

/-!
# Numbers are ordered by their exact values

The format gives the bits of a number an exact value: a rational number, one of the two infinities,
or none for a NaN. Integers and numbers are compared as these values are, whatever their size, and
the NaNs stand outside the infinities on the side of their sign.

Between the places of the infinities the scale of `Binary64.units` is a scale of values, and a
strictly increasing one, so the order of the units is that of the values. A NaN stands past the
infinity of its sign.
-/
namespace RowMerge

namespace Binary64

/-- What the bits stand for in the binary64 format. The fraction is one of the interval from 0 to 1,
to which a normal number adds 1. Both zeros stand for 0, and a NaN for nothing. -/
def value? (x : Binary64) : Option (WithBotTop ℚ) :=
  let sign : ℚ := if x.isNegative then -1 else 1
  let fraction : ℚ := x.fraction / 2 ^ 52
  if x.exponentField = 2047 then
    if x.fraction = 0 then some (if x.isNegative then ⊥ else ⊤) else none
  else if x.exponentField = 0 then
    some ((sign * fraction * 2 ^ (-1022 : ℤ) : ℚ) : WithBotTop ℚ)
  else
    some ((sign * (1 + fraction) * 2 ^ ((x.exponentField : ℤ) - 1023) : ℚ) : WithBotTop ℚ)

/-! ## The scale of values -/

/-- The places on the scale of units from one infinity to the other. -/
def valuePlaces : Set Int := Set.Icc (-infinityUnits) infinityUnits

/-- The value at one of these places. -/
def valueAt (m : Int) : WithBotTop ℚ :=
  if m ≤ -infinityUnits then ⊥ else if infinityUnits ≤ m then ⊤ else (m / 2 ^ 1074 : ℚ)

theorem valueAt_strictMonoOn : StrictMonoOn valueAt valuePlaces := by
  rintro m ⟨hm, -⟩ n ⟨-, hn⟩ less
  -- the lower place is not that of ⊤ and the upper one not that of ⊥
  have notTop : ¬ (infinityUnits : Int) ≤ m := not_le.mpr (lt_of_lt_of_le less hn)
  have notBottom : ¬ n ≤ -(infinityUnits : Int) := not_le.mpr (lt_of_le_of_lt hm less)
  simp only [valueAt, if_neg notTop, if_neg notBottom]
  split_ifs
  · exact bot_lt_top
  · exact bot_lt_iff_ne_bot.mpr (WithBotTop.coe_ne_bot _)
  · exact lt_top_iff_ne_top.mpr (WithBotTop.coe_ne_top _)
  · apply WithBotTop.coe_lt_coe.mpr
    apply div_lt_div_of_pos_right _ (by positivity)
    exact_mod_cast less

theorem compare_valueAt {m n : Int} (hm : m ∈ valuePlaces) (hn : n ∈ valuePlaces) :
    compare (valueAt m) (valueAt n) = compare m n := by
  rw [← cmp_eq_compare, ← cmp_eq_compare]
  exact valueAt_strictMonoOn.cmp_map_eq hm hn

theorem valueAt_of_inside {m : Int} (above : -(infinityUnits : Int) < m) (below : m < infinityUnits) :
    valueAt m = ((m / 2 ^ 1074 : ℚ) : WithBotTop ℚ) := by
  rw [valueAt, if_neg (not_le.mpr above), if_neg (not_le.mpr below)]

/-! ## The values of the numbers -/

theorem cast_units (x : Binary64) :
    (x.units : ℚ) = (if x.isNegative then -1 else 1) * x.absUnits := by
  unfold units
  split <;> simp

/-- Fractions count from `2 ^ -52`, and the least normal numbers from `2 ^ -1022`. -/
theorem scaled_eq (a : ℚ) (k : ℤ) : a / 2 ^ 52 * 2 ^ k = a * 2 ^ (k + 1022) / 2 ^ 1074 := by
  have split : (2 : ℚ) ^ 1074 = 2 ^ 52 * 2 ^ (1022 : ℤ) := by
    rw [← zpow_natCast, ← zpow_natCast, ← zpow_add₀ (by norm_num)]
    norm_num
  rw [split, zpow_add₀ (by norm_num)]
  field_simp

theorem value?_of_finite {x : Binary64} (finite : x.exponentField ≠ 2047) :
    x.value? = some ((x.units / 2 ^ 1074 : ℚ) : WithBotTop ℚ) := by
  simp only [value?, if_neg finite, cast_units]
  generalize (if x.isNegative then -1 else 1 : ℚ) = sign
  split
  case isTrue least =>
    rw [absUnits_of_least least, mul_assoc, scaled_eq, neg_add_cancel, zpow_zero, mul_one,
      ← mul_div_assoc]
  case isFalse normal =>
    -- the leading bit is one more fraction count, and the exponent counts doublings from 1
    have leading : 1 + (x.fraction : ℚ) / 2 ^ 52 =
        ((fractionCount + x.fraction : Nat) : ℚ) / 2 ^ 52 := by
      have count : (fractionCount : ℚ) = 2 ^ 52 := by norm_num [fractionCount]
      rw [Nat.cast_add, count]
      field_simp
    have exponent : ((x.exponentField : ℤ) - 1023) + 1022 = ((x.exponentField - 1 : Nat) : ℤ) := by
      omega
    rw [absUnits_of_normal normal, mul_assoc, leading, scaled_eq, exponent, zpow_natCast,
      Nat.cast_mul, Nat.cast_pow, ← mul_div_assoc, Nat.cast_ofNat]

theorem value?_of_isNaN {x : Binary64} (nan : x.isNaN = true) : x.value? = none := by
  obtain ⟨past, payload⟩ := isNaN_iff.mp nan
  simp only [value?, past, if_true, if_neg payload]

theorem value?_of_not_isNaN {x : Binary64} (number : ¬ x.isNaN = true) :
    x.value? = some (valueAt x.units) ∧ x.units ∈ valuePlaces := by
  by_cases past : x.exponentField = 2047
  · -- an infinity, at the place of its sign
    have whole : x.fraction = 0 := by
      by_contra payload
      exact number (isNaN_iff.mpr ⟨past, payload⟩)
    have infinite : x.absUnits = infinityUnits := by
      rw [absUnits_of_past_finite past, whole, Nat.zero_mul, Nat.add_zero]
    have positive := infinityUnits_pos
    simp only [value?, past, whole, if_true, units, infinite, valueAt]
    split
    · rw [if_pos le_rfl]
      exact ⟨rfl, le_rfl, by omega⟩
    · rw [if_neg (by omega), if_pos le_rfl]
      exact ⟨rfl, by omega, le_rfl⟩
  · have bound := absUnits_lt_infinityUnits past
    have inside : -(infinityUnits : Int) < x.units ∧ x.units < infinityUnits := by
      have sizes := x.units_eq_or
      omega
    rw [value?_of_finite past, valueAt_of_inside inside.1 inside.2]
    exact ⟨rfl, inside.1.le, inside.2.le⟩

theorem cast_unitsPerOne : ((unitsPerOne : Nat) : ℚ) = 2 ^ 1074 := by
  rw [unitsPerOne_eq, Nat.cast_pow, Nat.cast_ofNat]

theorem valueAt_unitsOfInt (i : Int64) :
    valueAt (unitsOfInt i.toInt) = ((i.toInt : ℚ) : WithBotTop ℚ) ∧
      unitsOfInt i.toInt ∈ valuePlaces := by
  obtain ⟨least, greatest⟩ := unitsOfInt_range i
  have ends := unitsOfInt_lt_infinityUnits
  have above : -(infinityUnits : Int) < unitsOfInt i.toInt := by omega
  have below : unitsOfInt i.toInt < infinityUnits := by omega
  refine ⟨?_, above.le, below.le⟩
  rw [valueAt_of_inside above below, unitsOfInt, Int.cast_mul, Int.cast_natCast, cast_unitsPerOne,
    mul_div_cancel_right₀ _ (by positivity)]

theorem value?_eq_none_iff {x : Binary64} : x.value? = none ↔ x.isNaN = true := by
  constructor
  · intro none
    by_contra number
    simp [(value?_of_not_isNaN number).1] at none
  · exact value?_of_isNaN

theorem value?_eq_some {x : Binary64} {v : WithBotTop ℚ} (value : x.value? = some v) :
    valueAt x.units = v ∧ x.units ∈ valuePlaces := by
  have number : ¬ x.isNaN = true := by
    intro nan
    simp [value?_of_isNaN nan] at value
  obtain ⟨place, inside⟩ := value?_of_not_isNaN number
  exact ⟨Option.some.inj (place.symm.trans value), inside⟩

/-! ## NaNs -/

theorem compare_units_of_isNaN {x : Binary64} (nan : x.isNaN = true) {m : Int}
    (inside : m ∈ valuePlaces) :
    compare x.units m = if x.isNegative then .lt else .gt := by
  obtain ⟨below, above⟩ := units_of_isNaN nan
  obtain ⟨least, greatest⟩ := inside
  split
  case isTrue negative => exact compare_lt_iff_lt.mpr (lt_of_lt_of_le (below negative) least)
  case isFalse positive =>
    have positive := above (Bool.eq_false_iff.mpr positive)
    exact compare_gt_iff_gt.mpr (lt_of_le_of_lt greatest positive)

theorem order_eq_iff_of_isNaN {x : Binary64} (nan : x.isNaN = true) (y : Binary64) :
    x.order y = .eq ↔ x.bits = y.bits := by
  have different : ¬ x.numericEq y = true := by simp [numericEq, nan]
  rw [order_eq_eq_iff, or_iff_right different]
  exact ⟨congrArg bits, congrArg mk⟩

end Binary64

namespace Value

open Binary64

/-- An integer and a number, and two numbers, are ordered as their exact values are. A NaN is below
all of them or above all of them, by its sign, and tied with no NaN but those of the same bits. -/
theorem order_exact (i : Int64) (f g : Binary64) :
    (∀ v, f.value? = some v →
      (integer i).order (number f) = compare ((i.toInt : ℚ) : WithBotTop ℚ) v) ∧
    (∀ v w, f.value? = some v → g.value? = some w →
      (number f).order (number g) = compare v w) ∧
    (f.value? = none →
      (number f).order (integer i) = (if f.isNegative then .lt else .gt) ∧
      (∀ w, g.value? = some w →
        (number f).order (number g) = if f.isNegative then .lt else .gt) ∧
      (g.value? = none → ((number f).order (number g) = .eq ↔ f.bits = g.bits))) := by
  obtain ⟨integer, inside⟩ := valueAt_unitsOfInt i
  refine ⟨?_, ?_, ?_⟩
  · intro v value
    obtain ⟨rfl, inside'⟩ := value?_eq_some value
    rw [← integer, compare_valueAt inside inside']
    exact order_of_units rfl rfl
  · intro v w value value'
    obtain ⟨rfl, inside⟩ := value?_eq_some value
    obtain ⟨rfl, inside'⟩ := value?_eq_some value'
    rw [compare_valueAt inside inside']
    exact order_of_units rfl rfl
  · intro none
    have nan := value?_eq_none_iff.mp none
    refine ⟨?_, ?_, ?_⟩
    · rw [← compare_units_of_isNaN nan inside]
      exact order_of_units rfl rfl
    · intro w value
      rw [← compare_units_of_isNaN nan (value?_eq_some value).2]
      exact order_of_units rfl rfl
    · intro _
      simp only [Value.order]
      exact order_eq_iff_of_isNaN nan g

/-- An odd integer past `2 ^ 53` against the number it would be rounded to, and a NaN with a sign
against the infinity that is below every other number. -/
theorem order_exact_past_rounding :
    (integer 9007199254740993).order (number ⟨0x4340000000000000⟩) = .gt ∧
      (number ⟨0xFFF8000000000000⟩).order (number ⟨0xFFF0000000000000⟩) = .lt := by
  constructor
  · rw [(order_exact 9007199254740993 ⟨0x4340000000000000⟩ ⟨0⟩).1 (9007199254740992 : ℚ)
      (by decide +kernel)]
    decide +kernel
  · rw [((order_exact 0 ⟨0xFFF8000000000000⟩ ⟨0xFFF0000000000000⟩).2.2 (by decide +kernel)).2.1 ⊥
      (by decide +kernel)]
    rfl

end Value

end RowMerge
