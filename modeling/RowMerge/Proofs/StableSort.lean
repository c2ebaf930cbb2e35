import RowMerge.Row

/-!
# The head of a stable sort

A stable sort begins with the first of the least items of a list and goes on with the stable sort of
the others. A merge that always emits the first of the least rows it can see is compared with the
sort of all of them through this one step.
-/
namespace RowMerge.StableSort

variable {α : Type} {le : α → α → Bool}

/-- A further item in front of a list goes into its sort before the first that is not below it. -/
private theorem mergeSort_cons_split (trans : ∀ a b c, le a b → le b c → le a c)
    (total : ∀ a b, le a b || le b a) (x : α) (items : List α) :
    ∃ front back, (x :: items).mergeSort le = front ++ x :: back ∧
      items.mergeSort le = front ++ back ∧ (∀ b ∈ front, le x b = false) ∧
      ∀ b ∈ back, le x b = true := by
  obtain ⟨front, back, whole, split, above⟩ := List.mergeSort_cons trans total x items
  have ordered := List.pairwise_mergeSort trans total (x :: items)
  rw [whole] at ordered
  refine ⟨front, back, whole, split, fun b member => by simpa using above b member, ?_⟩
  exact (List.pairwise_cons.mp (List.pairwise_append.mp ordered).2.1).1

/-- An item that is no greater than all others stays in front. -/
private theorem mergeSort_cons_of_least (trans : ∀ a b c, le a b → le b c → le a c)
    (total : ∀ a b, le a b || le b a) {a : α} {rest : List α} (least : ∀ b ∈ rest, le a b = true) :
    (a :: rest).mergeSort le = a :: rest.mergeSort le := by
  obtain ⟨front, back, whole, others, above, -⟩ := mergeSort_cons_split trans total a rest
  have empty : front = [] := by
    apply List.eq_nil_iff_forall_not_mem.mpr
    intro b member
    have present : b ∈ rest := List.mem_mergeSort.mp (others ▸ List.mem_append_left _ member)
    simpa [least b present] using above b member
  rw [whole, others, empty]
  rfl

/-- An item that is greater than the head of a sorted list leaves this head in front. -/
private theorem mergeSort_cons_of_greater (trans : ∀ a b c, le a b → le b c → le a c)
    (total : ∀ a b, le a b || le b a) {a x : α} {items others : List α} (greater : le x a = false)
    (sorted : items.mergeSort le = a :: others.mergeSort le) :
    (x :: items).mergeSort le = a :: (x :: others).mergeSort le := by
  obtain ⟨front, back, whole, split, above, behind⟩ := mergeSort_cons_split trans total x items
  obtain ⟨front', back', whole', split', above', behind'⟩ :=
    mergeSort_cons_split trans total x others
  rw [sorted, split'] at split
  cases front with
  | nil =>
    -- then `x` would come before `a` although it is greater
    have present : a ∈ back := by
      rw [List.nil_append] at split
      simp [← split]
    simp [behind a present] at greater
  | cons first front =>
    -- the items below `x` are a prefix of both lists, so the two prefixes are the same
    obtain ⟨rfl, same⟩ := List.cons.inj split
    rcases List.append_eq_append_iff.mp same with ⟨more, rfl, rfl⟩ | ⟨more, rfl, rfl⟩
    · cases more with
      | nil => simp [whole, whole']
      | cons b _ => simpa [behind' b (by simp)] using above b (by simp)
    · cases more with
      | nil => simp [whole, whole']
      | cons b _ => simpa [behind b (by simp)] using above' b (by simp)

/-- The first of the least items comes first, and the sort of the others follows. -/
theorem mergeSort_append_cons (trans : ∀ a b c, le a b → le b c → le a c)
    (total : ∀ a b, le a b || le b a) {a : α} {before after : List α}
    (greater : ∀ b ∈ before, le b a = false) (least : ∀ b ∈ after, le a b = true) :
    (before ++ a :: after).mergeSort le = a :: (before ++ after).mergeSort le := by
  induction before with
  | nil => exact mergeSort_cons_of_least trans total least
  | cons x rest ih =>
    exact mergeSort_cons_of_greater trans total (greater x List.mem_cons_self)
      (ih fun b member => greater b (List.mem_cons_of_mem _ member))

/-! ## Sorted lists one after the other -/

variable {cmp : α → α → Ordering} [Std.TransCmp cmp]

/-- Of two items one is no greater than the other. -/
theorem isLE_total (a b : α) : (cmp a b).isLE || (cmp b a).isLE := by
  have swapped : cmp b a = (cmp a b).swap := Std.OrientedCmp.eq_swap
  cases compared : cmp a b <;> simp [swapped, compared]

/-- The items of a sorted list are no less than its head. -/
private theorem isLE_head_of_mem {items : List α}
    (sorted : items.Pairwise fun a b => (cmp a b).isLE) {b : α} (member : b ∈ items) :
    ∃ head ∈ items.head?, (cmp head b).isLE := by
  cases items with
  | nil => cases member
  | cons head rest =>
    refine ⟨head, rfl, ?_⟩
    rcases List.mem_cons.mp member with rfl | later
    · exact Std.ReflCmp.isLE_rfl
    · exact (List.pairwise_cons.mp sorted).1 b later

/-- The sort of several sorted lists begins with the first of their least heads. -/
theorem mergeSort_flatten_append_cons {before after : List (List α)} {a : α} {rest : List α}
    (sorted : ∀ items ∈ before ++ (a :: rest) :: after, items.Pairwise fun a b => (cmp a b).isLE)
    (less : ∀ items ∈ before, ∀ b ∈ items.head?, cmp a b = .lt)
    (least : ∀ items ∈ after, ∀ b ∈ items.head?, (cmp a b).isLE) :
    (before ++ (a :: rest) :: after).flatten.mergeSort (fun a b => (cmp a b).isLE) =
      a :: (before ++ rest :: after).flatten.mergeSort fun a b => (cmp a b).isLE := by
  have trans : ∀ a b c, (cmp a b).isLE → (cmp b c).isLE → (cmp a c).isLE :=
    fun _ _ _ => Std.TransCmp.isLE_trans
  -- an item of another list is no less than the head of that list, which `a` leads
  have greater : ∀ b ∈ before.flatten, (cmp b a).isLE = false := by
    intro b member
    obtain ⟨items, present, member⟩ := List.mem_flatten.mp member
    obtain ⟨head, first, below⟩ := isLE_head_of_mem (sorted items (by simp [present])) member
    have above := Std.TransCmp.lt_of_lt_of_isLE (less items present head first) below
    simp [Std.OrientedCmp.gt_of_lt above]
  have no_less : ∀ b ∈ rest ++ after.flatten, (cmp a b).isLE = true := by
    intro b member
    rcases List.mem_append.mp member with own | other
    · exact (List.pairwise_cons.mp (sorted (a :: rest) (by simp))).1 b own
    · obtain ⟨items, present, member⟩ := List.mem_flatten.mp other
      obtain ⟨head, first, below⟩ := isLE_head_of_mem (sorted items (by simp [present])) member
      exact trans a head b (least items present head first) below
  have head := mergeSort_append_cons trans isLE_total greater no_less
  simpa using head

end RowMerge.StableSort
