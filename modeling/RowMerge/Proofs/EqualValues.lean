import RowMerge.Proofs.ValueOrder
import RowMerge.Proofs.Pairing

/-!
# Equal values and tied values

Values have an equality of their own beside the ties of their order, and neither is defined by the other.
Equal values are tied, and tied values are built alike. There are two things that the order ties and the
equality does not: a NaN with itself, and an integer with the number of the same value. Wherever neither
of them stands in two tied values, at the top or inside of arrays, the values are equal. Zeros are no
exception, for -0 and 0 are both equal and tied.
-/
namespace RowMerge

namespace Binary64

theorem numericEq_iff {x y : Binary64} :
    x.numericEq y = true ↔ x.order y = .eq ∧ x.isNaN = false := by
  rw [order_eq_eq_iff]
  constructor
  · intro equal
    have number : x.isNaN = false := by
      simp only [numericEq, Bool.and_eq_true, Bool.not_eq_true'] at equal
      exact equal.1.1
    exact ⟨.inl equal, number⟩
  · rintro ⟨equal | rfl, number⟩
    · exact equal
    · simp [numericEq, number]

end Binary64

theorem Timestamp.order_eq_eq_iff {s t : Timestamp} : s.order t = .eq ↔ s = t := by
  rw [order, Ordering.then_eq_eq, Int.compare_eq_eq, Nat.compare_eq_eq]
  constructor
  · rintro ⟨seconds, nanos⟩
    cases s
    cases t
    cases seconds
    cases nanos
    rfl
  · rintro rfl
    exact ⟨rfl, rfl⟩

namespace Value

/-! ## Positions -/

/-- The items of an array; no other value has any. -/
def items : Value → List Value
  | array items => items
  | _ => []

/-- What stands at a position inside a value: an item by its place in the array, an item of this item by
its place in turn, and so on. -/
def at? (v : Value) : List Nat → Option Value
  | [] => some v
  | place :: rest => v.items[place]?.bind fun item => at? item rest

/-- What holds of a value as soon as it holds of its items holds of every value. -/
@[elab_as_elim]
theorem items_induction {motive : Value → Prop}
    (step : ∀ v, (∀ item ∈ v.items, motive item) → motive v) (v : Value) : motive v := by
  refine Value.rec (motive_1 := motive) (motive_2 := fun items => ∀ item ∈ items, motive item)
    ?_ ?_ ?_ ?_ ?_ ?_ ?_ ?_ ?_ v
  case refine_6 => exact fun items ih => step (array items) ih
  case refine_8 => simp
  case refine_9 => exact fun item items first rest => List.forall_mem_cons.mpr ⟨first, rest⟩
  all_goals intros; exact step _ (by simp [items])

/-- No NaN stands anywhere in the value. -/
def NaNFree (v : Value) : Prop := ∀ position x, v.at? position = some (number x) → x.isNaN = false

/-- One of two values is an integer and the other a number. -/
def Mixed : Value → Value → Prop
  | integer _, number _ => True
  | number _, integer _ => True
  | _, _ => False

/-- At no position there is an integer in one of two values and a number in the other. -/
def Unmixed (a b : Value) : Prop :=
  ∀ position x y, a.at? position = some x → b.at? position = some y → ¬ Mixed x y

theorem nanFree_iff {v : Value} :
    v.NaNFree ↔ (∀ x, v = number x → x.isNaN = false) ∧ ∀ item ∈ v.items, item.NaNFree := by
  constructor
  · intro free
    refine ⟨fun x here => free [] x (congrArg some here), ?_⟩
    intro item member position x found
    obtain ⟨place, within⟩ := List.mem_iff_getElem?.mp member
    exact free (place :: position) x (by simp [at?, within, found])
  · rintro ⟨here, inside⟩ (_ | ⟨place, rest⟩) x found
    · exact here x (Option.some.inj found)
    · obtain ⟨item, within, found⟩ := Option.bind_eq_some_iff.mp found
      exact inside item (List.mem_of_getElem? within) rest x found

theorem unmixed_iff {a b : Value} :
    Unmixed a b ↔ ¬ Mixed a b ∧ ∀ (place : Nat) (x y : Value),
      a.items[place]? = some x → b.items[place]? = some y → Unmixed x y := by
  constructor
  · intro unmixed
    refine ⟨unmixed [] a b rfl rfl, ?_⟩
    intro place x y hx hy position u v hu hv
    exact unmixed (place :: position) u v (by simp [at?, hx, hu]) (by simp [at?, hy, hv])
  · rintro ⟨here, inside⟩ (_ | ⟨place, rest⟩) u v hu hv
    · cases hu
      cases hv
      exact here
    · obtain ⟨x, hx, hu⟩ := Option.bind_eq_some_iff.mp hu
      obtain ⟨y, hy, hv⟩ := Option.bind_eq_some_iff.mp hv
      exact inside place x y hx hy rest u v hu hv

/-! ## Arrays -/

theorem allEqual_iff {xs ys : List Value} :
    allEqual xs ys = true ↔ List.Forall₂ (fun x y => equals x y = true) xs ys := by
  induction xs generalizing ys with
  | nil => cases ys <;> simp [allEqual]
  | cons x xs ih => cases ys <;> simp [allEqual, ih]

theorem orderAll_eq_eq_iff {xs ys : List Value} :
    orderAll xs ys = .eq ↔ List.Forall₂ (fun x y => order x y = .eq) xs ys := by
  induction xs generalizing ys with
  | nil => cases ys <;> simp [orderAll]
  | cons x xs ih => cases ys <;> simp [orderAll, Ordering.then_eq_eq, ih]

/-! ## Tied values -/

theorem items_of_tied {a b : Value} (tied : a.order b = .eq) :
    List.Forall₂ (fun x y => order x y = .eq) a.items b.items := by
  cases sameRank_of_rank_eq (rank_eq_of_tied tied) with
  | array xs ys =>
    rw [order, orderAll_eq_eq_iff] at tied
    exact tied
  | number first second => cases a <;> cases b <;> simp_all [items, units?]
  | null | boolean | string | dateTime => exact .nil

/-- Tied values are built alike: they have the same positions, and what stands there is of one rank. -/
theorem rank_at?_of_tied {a b : Value} (tied : a.order b = .eq) (position : List Nat) :
    (a.at? position).map rank = (b.at? position).map rank := by
  induction position generalizing a b with
  | nil => exact congrArg some (rank_eq_of_tied tied)
  | cons place rest ih =>
    simp only [at?, Option.map_bind]
    exact bind_getElem?_of_forall₂ (items_of_tied tied) (fun x y => ih) place

/-! ## Equal values -/

theorem equals_of_rank_ne {a b : Value} (distinct : a.rank ≠ b.rank) : a.equals b = false := by
  cases a <;> cases b <;> first
    | exact absurd rfl distinct
    | rfl

/-- What makes tied items equal makes tied arrays equal. -/
theorem allEqual_iff_tied {xs ys : List Value}
    (each : ∀ x ∈ xs, ∀ y, x.equals y = true ↔ x.order y = .eq ∧ x.NaNFree ∧ Unmixed x y) :
    allEqual xs ys = true ↔ orderAll xs ys = .eq ∧ (∀ x ∈ xs, x.NaNFree) ∧
      ∀ (place : Nat) (x y : Value), xs[place]? = some x → ys[place]? = some y → Unmixed x y := by
  rw [allEqual_iff, orderAll_eq_eq_iff, forall₂_iff_getElem?, forall₂_iff_getElem?]
  constructor
  · rintro ⟨length, equal⟩
    have alike (place : Nat) (x y : Value) (hx : xs[place]? = some x) (hy : ys[place]? = some y) :
        x.order y = .eq ∧ x.NaNFree ∧ Unmixed x y :=
      (each x (List.mem_of_getElem? hx) y).mp (equal place x y hx hy)
    refine ⟨⟨length, fun place x y hx hy => (alike place x y hx hy).1⟩, ?_,
      fun place x y hx hy => (alike place x y hx hy).2.2⟩
    -- every item has one beside it
    intro x member
    obtain ⟨place, within, rfl⟩ := List.mem_iff_getElem.mp member
    have beside : ys[place]? = some ys[place] := List.getElem?_eq_getElem (length ▸ within)
    exact (alike place _ _ (List.getElem?_eq_getElem within) beside).2.1
  · rintro ⟨⟨length, tied⟩, free, unmixed⟩
    refine ⟨length, fun place x y hx hy => ?_⟩
    have member := List.mem_of_getElem? hx
    exact (each x member y).mpr ⟨tied place x y hx hy, free x member, unmixed place x y hx hy⟩

theorem equals_iff (a b : Value) :
    a.equals b = true ↔ a.order b = .eq ∧ a.NaNFree ∧ Unmixed a b := by
  induction a using items_induction generalizing b with
  | step a ih =>
    rw [nanFree_iff, unmixed_iff]
    by_cases level : a.rank = b.rank
    · cases sameRank_of_rank_eq level with
      | null => simp [equals, order, items, Mixed, rank]
      | boolean p q => simp [equals, order, items, Mixed]
      | string s t => simp [equals, order, items, Mixed]
      | dateTime s t => simp [equals, order, items, Mixed, Timestamp.order_eq_eq_iff]
      | number first second =>
        -- an integer and a number are mixed, and never equal
        cases a <;> cases b <;> simp only [units?, reduceCtorEq] at first second
        case integer.integer i j => simp [equals, order, items, Mixed, Int64.toInt_inj]
        case number.number x y => simp [equals, order, items, Mixed, Binary64.numericEq_iff]
        all_goals simp [equals, Mixed]
      | array xs ys =>
        rw [equals, order, @allEqual_iff_tied xs ys ih]
        simp [items, Mixed]
    · have apart : a.order b ≠ .eq := mt rank_eq_of_tied level
      simp [equals_of_rank_ne level, apart]

/-- Values are equal exactly if they are tied, no NaN stands in the first, and nowhere an integer stands in
one and a number in the other. Tied values have the same positions, and what stands there is of one
rank. -/
theorem equals_iff_tied (a b : Value) :
    ((a == b) = true ↔ a.order b = .eq ∧ a.NaNFree ∧ Unmixed a b) ∧
      (a.order b = .eq → ∀ position, (a.at? position).map rank = (b.at? position).map rank) :=
  ⟨equals_iff a b, rank_at?_of_tied⟩

/-- Arrays that hold the two zeros are equal and tied. An array with a NaN is tied with itself, an array with
an integer with the one that has the same number in its place, and neither is equal to the other. -/
theorem equals_iff_tied_of_nested :
    let zero : Value := array [number ⟨0⟩, array [string "a"]]
    let minusZero : Value := array [number ⟨0x8000000000000000⟩, array [string "a"]]
    let nan : Value := array [null, array [number ⟨0x7FF8000000000000⟩]]
    let whole : Value := array [integer 3, array []]
    let real : Value := array [number ⟨0x4008000000000000⟩, array []]
    zero.order minusZero = .eq ∧ (nan.order nan = .eq ∧ ¬ (nan == nan) = true) ∧
      (whole.order real = .eq ∧ ¬ (whole == real) = true) ∧
      (whole.at? [0]).map rank = (real.at? [0]).map rank := by
  intro zero minusZero nan whole real
  have zeros : (zero == minusZero) = true := by decide +kernel
  have tied : whole.order real = .eq := by decide +kernel
  refine ⟨((equals_iff_tied zero minusZero).1.mp zeros).1, ⟨by decide +kernel, ?_⟩, ⟨tied, ?_⟩,
    (equals_iff_tied whole real).2 tied [0]⟩
  · intro equal
    have free := ((equals_iff_tied nan nan).1.mp equal).2.1
    exact absurd (free [1, 0] _ rfl) (by decide +kernel)
  · intro equal
    have unmixed := ((equals_iff_tied whole real).1.mp equal).2.2
    exact unmixed [0] _ _ rfl rfl trivial

end Value

end RowMerge
