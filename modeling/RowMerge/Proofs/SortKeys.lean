import RowMerge.Proofs.ValueOrder
import RowMerge.RowOrder

/-!
# Orders by sort keys are total preorders

A sort key looks at NULL first and at the values after that. Each of the two steps is a total preorder
of its own, the one whatever the direction of the key is, and the other whatever the place of NULL is:
two values of which none or both are NULL are tied in the first step, and NULL is tied with itself in
the second. A key is the first step with the second for ties, and a row order is its first key with the
others for ties, so both are total preorders too. A key sees no more of a row than the value in its
column, which is NULL where the row ends before the column.
-/
namespace RowMerge

open Value (Chained chained_compare)

theorem Value.Chained.comm {ab bc ac : Ordering} (chained : Chained ab bc ac) : Chained bc ab ac :=
  fun first second => (chained second first).imp_right fun strict either => strict either.symm

namespace SortKey

variable (key : SortKey)

/-! ## The two steps of a comparison -/

/-- Two values are tied unless just one of them is NULL. -/
def orderNulls (a b : Value) : Ordering :=
  if key.nullsFirst then compare b.isNull a.isNull else compare a.isNull b.isNull

/-- The order of values in the direction of the key. -/
def orderDirected (a b : Value) : Ordering := if key.ascending then a.order b else b.order a

theorem orderNulls_swap (a b : Value) : key.orderNulls b a = (key.orderNulls a b).swap := by
  unfold orderNulls
  split <;> exact Std.OrientedOrd.eq_swap

theorem orderNulls_chained (a b c : Value) :
    Chained (key.orderNulls a b) (key.orderNulls b c) (key.orderNulls a c) := by
  unfold orderNulls
  split
  · exact (chained_compare c.isNull b.isNull a.isNull).comm
  · exact chained_compare a.isNull b.isNull c.isNull

theorem orderDirected_swap (a b : Value) :
    key.orderDirected b a = (key.orderDirected a b).swap := by
  unfold orderDirected
  split
  · exact a.order_swap b
  · exact b.order_swap a

theorem orderDirected_chained (a b c : Value) :
    Chained (key.orderDirected a b) (key.orderDirected b c) (key.orderDirected a c) := by
  unfold orderDirected
  split
  · exact Value.order_chained a b c
  · exact (Value.order_chained c b a).comm

theorem orderValues_eq (a b : Value) :
    key.orderValues a b = (key.orderNulls a b).then (key.orderDirected a b) := by
  unfold orderValues orderNulls orderDirected
  cases nulls : a.isNull <;> cases nulls' : b.isNull
  case true.true =>
    -- NULL is tied with itself in either direction
    cases a <;> cases b <;> simp_all [Value.isNull, Value.order]
  case false.false => simp [Value.order_swap a b]
  all_goals cases key.nullsFirst <;> rfl

/-! ## Rows -/

theorem order_swap (a b : Row) : key.order b a = (key.order a b).swap := by
  simp only [order, orderValues_eq, Ordering.swap_then]
  rw [orderNulls_swap, orderDirected_swap]

theorem order_chained (a b c : Row) :
    Chained (key.order a b) (key.order b c) (key.order a c) := by
  simp only [order, orderValues_eq]
  exact (key.orderNulls_chained _ _ _).lex (key.orderDirected_chained _ _ _)

end SortKey

namespace RowOrder

theorem orderByKeys_swap (keys : List SortKey) (a b : Row) :
    orderByKeys keys b a = (orderByKeys keys a b).swap := by
  induction keys with
  | nil => rfl
  | cons key rest ih => simp only [orderByKeys, Ordering.swap_then, key.order_swap a b, ih]

theorem orderByKeys_chained (keys : List SortKey) (a b c : Row) :
    Chained (orderByKeys keys a b) (orderByKeys keys b c) (orderByKeys keys a c) := by
  induction keys with
  | nil => simp [orderByKeys, Chained]
  | cons key rest ih => exact (key.order_chained a b c).lex ih

instance (o : RowOrder) : Std.TransCmp o.order where
  eq_swap {a b} := orderByKeys_swap o.keys b a
  isLE_trans {a b c} lower upper := by
    simp only [Ordering.isLE_iff_ne_gt] at lower upper ⊢
    exact (orderByKeys_chained o.keys a b c lower upper).1

end RowOrder

/-! ## Missing columns -/

/-- The row with a number of NULLs behind its values. -/
def Row.padded (row : Row) (count : Nat) : Row := ⟨row.values ++ List.replicate count .null⟩

@[simp] theorem Row.getOrNull_padded (row : Row) (count column : Nat) :
    (row.padded count).getOrNull column = row.getOrNull column := by
  simp only [getOrNull, get?, padded]
  by_cases within : column < row.values.length
  · rw [List.getElem?_append_left within]
  · -- the row has no value here, and behind its values stands NULL or nothing
    have outside : row.values.length ≤ column := Nat.le_of_not_lt within
    rw [List.getElem?_append_right outside, List.getElem?_eq_none outside, List.getElem?_replicate]
    split <;> rfl

namespace RowOrder

theorem order_padded (o : RowOrder) (a b : Row) (m n : Nat) :
    o.order (a.padded m) (b.padded n) = o.order a b := by
  unfold order
  induction o.keys with
  | nil => rfl
  | cons key rest ih =>
    simp only [orderByKeys, ih, SortKey.order, SortKey.valueOf, Row.getOrNull_padded]

/-- The order by any sort keys is a total preorder of rows of any lengths: a row is tied with itself,
turning a comparison round turns its result round, and steps that do not go down add up to one that does
not, and goes up if one of them does. NULLs behind the values of a row change nothing. -/
theorem keys_total_preorder (o : RowOrder) (a b c : Row) :
    o.order a a = .eq ∧ o.order b a = (o.order a b).swap ∧
      (o.order a b ≠ .gt → o.order b c ≠ .gt →
        o.order a c ≠ .gt ∧ (o.order a b = .lt ∨ o.order b c = .lt → o.order a c = .lt)) ∧
      ∀ m n, o.order (a.padded m) (b.padded n) = o.order a b :=
  ⟨Std.ReflCmp.compare_self, orderByKeys_swap o.keys a b, orderByKeys_chained o.keys a b c,
    o.order_padded a b⟩

/-- Descending by the second column with NULL first, then by the first column, and by the second one once
more. The first row lacks the second column, which stands for a NULL before the greatest value, and the
other two are told apart by the first column. -/
theorem keys_total_preorder_of_short_row :
    let o : RowOrder := ⟨[(SortKey.desc 1).withNullsFirst, .asc 0, .asc 1]⟩
    let short : Row := ⟨[.integer 9]⟩
    let middle : Row := ⟨[.integer 2, .integer 5]⟩
    let last : Row := ⟨[.integer 3, .number ⟨0x4014000000000000⟩, .boolean true]⟩
    o.order short middle = .lt ∧ o.order middle last = .lt ∧ o.order short last = .lt ∧
      o.order (short.padded 1) (last.padded 2) = .lt := by
  intro o short middle last
  have first : o.order short middle = .lt := by decide +kernel
  have second : o.order middle last = .lt := by decide +kernel
  obtain ⟨-, -, chained, -⟩ := keys_total_preorder o short middle last
  have rises : o.order short last = .lt := (chained (by simp [first]) (by simp [second])).2 (.inl first)
  obtain ⟨-, -, -, padded⟩ := keys_total_preorder o short last last
  exact ⟨first, second, rises, (padded 1 2).trans rises⟩

end RowOrder

end RowMerge
