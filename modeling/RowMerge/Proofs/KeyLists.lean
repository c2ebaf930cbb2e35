import RowMerge.Proofs.SortKeys

/-!
# Mirrored and repeated sort keys

Two laws on lists of sort keys. A key with both its direction and its place of NULL turned round compares
two rows the other way round, for each of the two steps of a comparison looks at one of the two alone; so
a list of such keys is the order turned round. And whether a key ties two rows is a matter of its column
alone, so a key whose column has come up earlier in the list is only asked about rows that it ties.
-/
namespace RowMerge

theorem Value.isNull_iff_rank {v : Value} : v.isNull = true ↔ v.rank = 0 := by
  cases v <;> simp [isNull, rank]

/-- Tied values are both NULL or both not. -/
theorem Value.isNull_eq_of_tied {a b : Value} (tied : a.order b = .eq) : a.isNull = b.isNull := by
  rw [Bool.eq_iff_iff, isNull_iff_rank, isNull_iff_rank, rank_eq_of_tied tied]

namespace SortKey

variable (key : SortKey)

/-! ## Turning a key round -/

def mirrored : SortKey :=
  { key with ascending := !key.ascending, nullsFirst := !key.nullsFirst }

theorem orderNulls_mirrored (a b : Value) : key.mirrored.orderNulls a b = key.orderNulls b a := by
  unfold orderNulls mirrored
  cases key.nullsFirst <;> simp

theorem orderDirected_mirrored (a b : Value) :
    key.mirrored.orderDirected a b = key.orderDirected b a := by
  unfold orderDirected mirrored
  cases key.ascending <;> simp

theorem order_mirrored (a b : Row) : key.mirrored.order a b = key.order b a := by
  have column : key.mirrored.valueOf = key.valueOf := rfl
  simp only [order, column, orderValues_eq, orderNulls_mirrored, orderDirected_mirrored]

/-! ## Ties of a key -/

theorem orderValues_eq_eq_iff (a b : Value) : key.orderValues a b = .eq ↔ a.order b = .eq := by
  have directed : key.orderDirected a b = .eq ↔ a.order b = .eq := by
    unfold orderDirected
    split
    · exact Iff.rfl
    · rw [Value.order_swap a b, Ordering.swap_eq_eq]
  rw [orderValues_eq, Ordering.then_eq_eq, directed]
  constructor
  · exact And.right
  · intro tied
    refine ⟨?_, tied⟩
    -- the first step has nothing to tell apart
    simp [orderNulls, Value.isNull_eq_of_tied tied]

/-- What one key ties, every key on the same column ties. -/
theorem tied_of_same_column {key other : SortKey} {a b : Row} (same : other.column = key.column)
    (tied : key.order a b = .eq) : other.order a b = .eq := by
  unfold order valueOf at tied ⊢
  rw [orderValues_eq_eq_iff] at tied ⊢
  rw [same]
  exact tied

end SortKey

namespace RowOrder

/-- The order with each of its keys turned round. -/
def mirrored (o : RowOrder) : RowOrder := ⟨o.keys.map SortKey.mirrored⟩

/-- To turn round the direction and the place of NULL in every key is to turn the order round. -/
theorem order_of_mirrored (o : RowOrder) (a b : Row) : o.mirrored.order a b = o.order b a := by
  unfold order mirrored
  induction o.keys with
  | nil => rfl
  | cons key rest ih => simp only [List.map_cons, orderByKeys, key.order_mirrored, ih]

/-- The direction alone does not do: NULL stays where it is. -/
example :
    let key : SortKey := .asc 0
    ({ key with ascending := false } : SortKey).order ⟨[.null]⟩ ⟨[.boolean true]⟩ =
      key.order ⟨[.null]⟩ ⟨[.boolean true]⟩ := by decide

/-! ## Repeated columns -/

theorem orderByKeys_append (front back : List SortKey) (a b : Row) :
    orderByKeys (front ++ back) a b = (orderByKeys front a b).then (orderByKeys back a b) := by
  induction front with
  | nil => rfl
  | cons key rest ih => simp only [List.cons_append, orderByKeys, ih, Ordering.then_assoc]

theorem orderByKeys_eq_eq_iff {keys : List SortKey} {a b : Row} :
    orderByKeys keys a b = .eq ↔ ∀ key ∈ keys, key.order a b = .eq := by
  induction keys with
  | nil => simp [orderByKeys]
  | cons key rest ih => simp [orderByKeys, Ordering.then_eq_eq, ih]

/-- What is behind a first criterion matters only where that one is tied. -/
theorem then_congr {first second other : Ordering} (same : first = .eq → second = other) :
    first.then second = first.then other := by
  cases first with
  | eq => exact same rfl
  | lt | gt => rfl

theorem orderByKeys_of_repeated {front : List SortKey} {key : SortKey}
    (repeated : ∃ earlier ∈ front, earlier.column = key.column) (back : List SortKey) (a b : Row) :
    orderByKeys (front ++ key :: back) a b = orderByKeys (front ++ back) a b := by
  obtain ⟨earlier, member, column⟩ := repeated
  rw [orderByKeys_append, orderByKeys_append]
  apply then_congr
  intro tied
  have here : earlier.order a b = .eq := orderByKeys_eq_eq_iff.mp tied earlier member
  rw [orderByKeys, SortKey.tied_of_same_column column.symm here, Ordering.eq_then]

/-- The keys that are the first on their column. -/
def firstOnColumn : List SortKey → List SortKey
  | [] => []
  | key :: rest => key :: (firstOnColumn rest).filter fun later => later.column != key.column

def withoutRepeats (o : RowOrder) : RowOrder := ⟨firstOnColumn o.keys⟩

theorem nodup_columns_firstOnColumn (keys : List SortKey) :
    ((firstOnColumn keys).map SortKey.column).Nodup := by
  induction keys with
  | nil => exact List.nodup_nil
  | cons key rest ih =>
    rw [firstOnColumn, List.map_cons, List.nodup_cons]
    constructor
    · simp
    · exact ih.sublist (List.filter_sublist.map SortKey.column)

/-- Keys that tie two rows can be left out. -/
theorem orderByKeys_filter {keys : List SortKey} {kept : SortKey → Bool} {a b : Row}
    (tied : ∀ key ∈ keys, kept key = false → key.order a b = .eq) :
    orderByKeys (keys.filter kept) a b = orderByKeys keys a b := by
  induction keys with
  | nil => rfl
  | cons key rest ih =>
    have later := ih fun other member => tied other (List.mem_cons_of_mem key member)
    cases keep : kept key with
    | true => rw [List.filter_cons_of_pos keep, orderByKeys, orderByKeys, later]
    | false =>
      have here := tied key List.mem_cons_self keep
      rw [List.filter_cons_of_neg (by simp [keep]), orderByKeys, here, Ordering.eq_then, later]

theorem orderByKeys_firstOnColumn (keys : List SortKey) (a b : Row) :
    orderByKeys (firstOnColumn keys) a b = orderByKeys keys a b := by
  induction keys with
  | nil => rfl
  | cons key rest ih =>
    rw [firstOnColumn, orderByKeys, orderByKeys]
    apply then_congr
    intro tied
    rw [← ih]
    apply orderByKeys_filter
    intro later _ dropped
    exact SortKey.tied_of_same_column (by simpa using dropped) tied

/-- A key on the column of an earlier one can be taken out, whatever the directions of the two are and
wherever they place NULL, and no comparison changes. With all such keys out every column comes up at most
once, and the order is still the same. -/
theorem order_without_repeats (o : RowOrder) :
    (∀ front key back, o.keys = front ++ key :: back →
      (∃ earlier ∈ front, earlier.column = key.column) →
      ∀ a b, (⟨front ++ back⟩ : RowOrder).order a b = o.order a b) ∧
    (o.withoutRepeats.keys.map SortKey.column).Nodup ∧
    ∀ a b, o.withoutRepeats.order a b = o.order a b := by
  refine ⟨?_, nodup_columns_firstOnColumn o.keys, orderByKeys_firstOnColumn o.keys⟩
  intro front key back split repeated a b
  unfold order
  rw [split]
  exact (orderByKeys_of_repeated repeated back a b).symm

/-- Descending by the first column, by the second, and once more by the first one, the other way round.
The two rows hold the same number as an integer and as a binary64 number, and the first row lacks the
second column. -/
theorem order_without_repeats_of_mixed_numbers :
    let again : SortKey := (SortKey.asc 0).withNullsLast
    let o : RowOrder := ⟨[.desc 0, .desc 1, again, .asc 2]⟩
    let short : Row := ⟨[.integer 5]⟩
    let long : Row := ⟨[.number ⟨0x4014000000000000⟩, .null, .boolean true]⟩
    o.withoutRepeats = ⟨[.desc 0, .desc 1, .asc 2]⟩ ∧ o.order short long = .lt ∧
      (⟨[.desc 0, .desc 1] ++ [.asc 2]⟩ : RowOrder).order short long = .lt := by
  intro again o short long
  have falls : o.order short long = .lt := by decide +kernel
  obtain ⟨removed, -, -⟩ := order_without_repeats o
  refine ⟨by decide, falls, ?_⟩
  have same := removed [.desc 0, .desc 1] again [.asc 2] rfl ⟨.desc 0, by simp, rfl⟩ short long
  rw [same]
  exact falls

end RowOrder

end RowMerge
