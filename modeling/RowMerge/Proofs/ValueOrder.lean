import RowMerge.Value.Order
import RowMerge.Proofs.NumberOrder

/-!
# The order of values is a total preorder

Ranks are compared first, so values of different ranks settle every chain by their ranks alone. What
is left are chains inside one rank: numbers, which have a place on one scale of integers whatever
their type, texts, truth values, timestamps, and arrays, for which the induction goes through the
items.
-/
namespace RowMerge.Value

/-! ## Chains of comparisons -/

/-- What the comparisons of `a` with `b` and of `b` with `c` say of `a` and `c` if the order is
transitive: no step down makes no step down, and one step up makes the whole a step up. -/
def Chained (ab bc ac : Ordering) : Prop :=
  ab ≠ .gt → bc ≠ .gt → ac ≠ .gt ∧ (ab = .lt ∨ bc = .lt → ac = .lt)

theorem chained_compare {α : Type} [Ord α] [Std.TransOrd α] (a b c : α) :
    Chained (compare a b) (compare b c) (compare a c) := by
  intro hab hbc
  have lower : (compare a b).isLE := Ordering.isLE_iff_ne_gt.mpr hab
  have upper : (compare b c).isLE := Ordering.isLE_iff_ne_gt.mpr hbc
  refine ⟨Ordering.isLE_iff_ne_gt.mp (Std.TransOrd.isLE_trans lower upper), ?_⟩
  rintro (strict | strict)
  · exact Std.TransCmp.lt_of_lt_of_isLE strict upper
  · exact Std.TransCmp.lt_of_isLE_of_lt lower strict

/-- Chains pass to comparisons that look at a second criterion where the first is tied. -/
theorem Chained.lex {ab bc ac ab' bc' ac' : Ordering} (first : Chained ab bc ac)
    (second : Chained ab' bc' ac') : Chained (ab.then ab') (bc.then bc') (ac.then ac') := by
  cases ab <;> cases bc <;> cases ac <;> simp_all [Chained]

/-! ## Ranks -/

/-- Two values that their ranks leave to be compared by content. -/
inductive SameRank : Value → Value → Prop
  | null : SameRank null null
  | boolean (p q : Bool) : SameRank (boolean p) (boolean q)
  | number {a b : Value} {m n : Int} (first : a.units? = some m) (second : b.units? = some n) :
      SameRank a b
  | string (s t : String) : SameRank (string s) (string t)
  | dateTime (s t : Timestamp) : SameRank (dateTime s) (dateTime t)
  | array (xs ys : List Value) : SameRank (array xs) (array ys)

theorem sameRank_of_rank_eq {a b : Value} (equal : a.rank = b.rank) : SameRank a b := by
  cases a <;> cases b <;> first
    | exact .null
    | exact .boolean _ _
    | exact .string _ _
    | exact .dateTime _ _
    | exact .array _ _
    | exact .number rfl rfl
    | simp [rank] at equal

theorem order_of_rank_ne {a b : Value} (distinct : a.rank ≠ b.rank) :
    a.order b = compare a.rank b.rank := by
  cases a <;> cases b <;> first
    | exact absurd rfl distinct
    | simp [order]

theorem rank_le_of_order {a b : Value} (upward : a.order b ≠ .gt) : a.rank ≤ b.rank := by
  by_cases equal : a.rank = b.rank
  · exact Nat.le_of_eq equal
  · rw [order_of_rank_ne equal] at upward
    exact Nat.compare_ne_gt.mp upward

theorem rank_eq_of_tied {a b : Value} (tied : a.order b = .eq) : a.rank = b.rank := by
  by_contra distinct
  rw [order_of_rank_ne distinct, Nat.compare_eq_eq] at tied
  exact distinct tied

theorem order_of_units {a b : Value} {m n : Int} (first : a.units? = some m)
    (second : b.units? = some n) : a.order b = compare m n := by
  cases a <;> cases b <;> simp only [units?, Option.some.injEq, reduceCtorEq] at first second
  all_goals subst first second
  case integer.integer i j =>
    simp only [order]
    exact (Binary64.compare_unitsOfInt i.toInt j.toInt).symm
  case integer.number i y =>
    simp only [order]
    exact Binary64.orderOfInteger_eq i y
  case number.integer x j =>
    simp only [order, Binary64.orderOfInteger_eq]
    exact Std.OrientedOrd.eq_swap.symm
  case number.number x y =>
    simp only [order]
    exact Binary64.order_eq x y

/-! ## Turning a comparison round -/

mutual

theorem order_swap (a b : Value) : b.order a = (a.order b).swap := by
  -- values of one rank are compared by content, others by rank alone
  by_cases equal : a.rank = b.rank
  · cases sameRank_of_rank_eq equal with
    | null => rfl
    | boolean p q => simpa only [order] using Std.OrientedOrd.eq_swap
    | number first second =>
      rw [order_of_units first second, order_of_units second first]
      exact Std.OrientedOrd.eq_swap
    | string s t => simpa only [order] using Std.OrientedOrd.eq_swap
    | dateTime s t =>
      simp only [order, Timestamp.order, Ordering.swap_then]
      rw [Std.OrientedOrd.eq_swap (a := t.seconds), Std.OrientedOrd.eq_swap (a := t.nanos)]
    | array xs ys => simpa only [order] using orderAll_swap xs ys
  · rw [order_of_rank_ne equal, order_of_rank_ne (Ne.symm equal)]
    exact Std.OrientedOrd.eq_swap

theorem orderAll_swap (xs ys : List Value) : orderAll ys xs = (orderAll xs ys).swap := by
  cases xs <;> cases ys
  case nil.nil => rfl
  case nil.cons => rfl
  case cons.nil => rfl
  case cons.cons x xs y ys =>
    simp only [orderAll, Ordering.swap_then, order_swap x y, orderAll_swap xs ys]

end

/-! ## Chains of values -/

mutual

theorem order_chained (a b c : Value) : Chained (a.order b) (b.order c) (a.order c) := by
  -- a chain inside one rank is a chain of contents
  by_cases level : a.rank = b.rank ∧ b.rank = c.rank
  · cases sameRank_of_rank_eq level.1 <;> cases sameRank_of_rank_eq level.2
    case null.null => simp [order, Chained]
    case boolean.boolean p q r => simpa only [order] using chained_compare p q r
    case number.number ha hb _ _ hb' hc =>
      cases hb.symm.trans hb'
      rw [order_of_units ha hb, order_of_units hb hc, order_of_units ha hc]
      exact chained_compare _ _ _
    case string.string s t u => simpa only [order] using chained_compare s t u
    case dateTime.dateTime s t u =>
      simpa only [order, Timestamp.order] using
        (chained_compare s.seconds t.seconds u.seconds).lex
          (chained_compare s.nanos t.nanos u.nanos)
    case array.array xs ys zs => simpa only [order] using orderAll_chained xs ys zs
    -- a value with a place on the scale of numbers is neither of the others
    all_goals simp_all [units?]
  · intro lower upper
    -- ranks never go down along the chain, and at one step they go up
    have := rank_le_of_order lower
    have := rank_le_of_order upper
    have rises : a.rank < c.rank := by omega
    have strict : a.order c = .lt := by
      rw [order_of_rank_ne (Nat.ne_of_lt rises)]
      exact Nat.compare_eq_lt.mpr rises
    simp [strict]

theorem orderAll_chained (xs ys zs : List Value) :
    Chained (orderAll xs ys) (orderAll ys zs) (orderAll xs zs) := by
  cases xs <;> cases ys <;> cases zs
  case cons.cons.cons x xs y ys z zs =>
    simpa only [orderAll] using (order_chained x y z).lex (orderAll_chained xs ys zs)
  all_goals simp [orderAll, Chained]

end

instance : Std.TransCmp order where
  eq_swap {a b} := order_swap b a
  isLE_trans {a b c} lower upper := by
    simp only [Ordering.isLE_iff_ne_gt] at lower upper ⊢
    exact (order_chained a b c lower upper).1

/-- The order of values is a total preorder: a value is tied with itself, turning a comparison round
turns its result round, and steps that do not go down add up to one that does not, and goes up if
one of them does. -/
theorem order_total_preorder (a b c : Value) :
    a.order a = .eq ∧ b.order a = (a.order b).swap ∧
      (a.order b ≠ .gt → b.order c ≠ .gt →
        a.order c ≠ .gt ∧ (a.order b = .lt ∨ b.order c = .lt → a.order c = .lt)) :=
  ⟨Std.ReflCmp.compare_self, order_swap a b, order_chained a b c⟩

/-- An odd integer past the last one that every binary64 number around it can tell apart, the next
such number, and a NaN, each inside an array. -/
theorem order_total_preorder_past_exact_numbers :
    (array [integer 9007199254740993]).order (array [number ⟨0x7FF8000000000000⟩]) = .lt :=
  ((order_total_preorder (array [integer 9007199254740993]) (array [number ⟨0x4340000000000001⟩])
    (array [number ⟨0x7FF8000000000000⟩])).2.2 (by decide +kernel) (by decide +kernel)).2
    (.inl (by decide +kernel))

end RowMerge.Value
