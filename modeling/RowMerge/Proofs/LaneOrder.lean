import RowMerge.Proofs.SortedOutput
import RowMerge.Proofs.Trees
import Mathlib.Data.List.Perm.Basic

/-!
# The order of the lanes

The order in which sources are given to a merge decides between rows that are tied and nothing else. Two
merges of the same sources part ways at the first tie, and from there on their lanes are in different
states, so the two runs are not compared step by step. Each of them yields a sort of the same rows, and
two sorts of the same rows are tied place by place: the row at a place is no greater than a bound exactly
if more rows than stand before it are no greater than the bound, and how many they are does not depend on
the order of the rows.
-/
namespace RowMerge

/-! ## Sorted lists of the same items -/

section Sorted

variable {α : Type} {cmp : α → α → Ordering} [Std.TransCmp cmp]

/-- Where the head of a sorted list is greater than a bound, so are all items. -/
theorem countP_isLE_of_head {head bound : α} {rest : List α}
    (sorted : (head :: rest).Pairwise fun a b => (cmp a b).isLE)
    (greater : ¬ (cmp head bound).isLE) :
    (head :: rest).countP (fun item => (cmp item bound).isLE) = 0 := by
  apply List.countP_eq_zero.mpr
  intro item member
  rcases List.mem_cons.mp member with rfl | later
  · exact greater
  · intro below
    have above := (List.pairwise_cons.mp sorted).1 item later
    exact greater (Std.TransCmp.isLE_trans above below)

/-- The item at a place of a sorted list is no greater than a bound exactly if more items than there are
places before it are no greater. -/
theorem isLE_getElem_iff {items : List α} (sorted : items.Pairwise fun a b => (cmp a b).isLE)
    (bound : α) {place : Nat} (within : place < items.length) :
    (cmp items[place] bound).isLE ↔ place < items.countP fun item => (cmp item bound).isLE := by
  induction items generalizing place with
  | nil => simp at within
  | cons head rest ih =>
    by_cases below : (cmp head bound).isLE
    · -- the head counts for its own place
      have counted : (head :: rest).countP (fun item => (cmp item bound).isLE) =
          rest.countP (fun item => (cmp item bound).isLE) + 1 :=
        List.countP_cons_of_pos below
      rw [counted]
      cases place with
      | zero => simp [below]
      | succ place =>
        have later := ih (List.pairwise_cons.mp sorted).2 (Nat.lt_of_succ_lt_succ within)
        rw [List.getElem_cons_succ, later]
        omega
    · have none_below := countP_isLE_of_head sorted below
      have absent := List.countP_eq_zero.mp none_below _ (List.getElem_mem within)
      rw [none_below]
      constructor
      · intro small
        exact absurd small absent
      · intro early
        omega

/-- Two sorted lists of the same items are tied place by place. -/
theorem tied_of_perm_of_sorted {items others : List α} (same : items.Perm others)
    (sorted : items.Pairwise fun a b => (cmp a b).isLE)
    (sorted' : others.Pairwise fun a b => (cmp a b).isLE) :
    List.Forall₂ (fun a b => cmp a b = .eq) items others := by
  apply List.forall₂_iff_get.mpr
  refine ⟨same.length_eq, fun place within within' => ?_⟩
  rw [List.get_eq_getElem, List.get_eq_getElem]
  have forth : (cmp items[place] others[place]).isLE := by
    apply (isLE_getElem_iff sorted _ within).mpr
    rw [same.countP_eq]
    exact (isLE_getElem_iff sorted' _ within').mp Std.ReflCmp.isLE_rfl
  have back : (cmp others[place] items[place]).isLE := by
    apply (isLE_getElem_iff sorted' _ within').mpr
    rw [← same.countP_eq]
    exact (isLE_getElem_iff sorted _ within).mp Std.ReflCmp.isLE_rfl
  exact Std.OrientedCmp.isLE_antisymm forth back

end Sorted

namespace Merge

variable {σ : Type} [Cursor σ] {order : Row → Row → Ordering} [Std.TransCmp order]

/-- A merge yields its rows sorted, whatever the order of its lanes is, and none is lost. -/
theorem exists_yields_of_built {sources : List σ} {merge : Merge σ} {lists : List (List Row)}
    (built : Merge.Built order sources merge) (yields : List.Forall₂ Cursor.Yields sources lists)
    (sorted : ∀ rows ∈ lists, rows.Pairwise fun a b => (order a b).isLE) :
    ∃ rows, Cursor.Yields merge rows ∧ rows.Perm lists.flatten ∧
      rows.Pairwise fun a b => (order a b).isLE := by
  obtain ⟨rfl, -⟩ := built.eq_fresh
  have by_order : (Merge.fresh order sources).order = order := rfl
  have output := yields_of_holds by_order (indexed_lanesOf sources) (holds_lanesOf yields) sorted
  refine ⟨_, output, List.mergeSort_perm _ _, ?_⟩
  apply List.pairwise_mergeSort
  · exact fun _ _ _ => Std.TransCmp.isLE_trans
  · exact StableSort.isLE_total

/-- Take two merges by one total preorder of the same sources, each of which yields a sorted list, in two
orders of the lanes. They yield the same rows, and place by place the rows that they yield are tied. -/
theorem yields_of_permuted_sources {sources others : List σ} {merge other : Merge σ}
    {lists : List (List Row)} (same : sources.Perm others) (built : Merge.Built order sources merge)
    (built' : Merge.Built order others other) (yields : List.Forall₂ Cursor.Yields sources lists)
    (sorted : ∀ rows ∈ lists, rows.Pairwise fun a b => (order a b).isLE) :
    ∃ rows rows', Cursor.Yields merge rows ∧ Cursor.Yields other rows' ∧
      rows.length = rows'.length ∧ rows.Perm rows' ∧
      List.Forall₂ (fun row row' => order row row' = .eq) rows rows' := by
  obtain ⟨lists', yields', same_lists⟩ := List.perm_comp_forall₂ same.symm yields
  have sorted' : ∀ rows ∈ lists', rows.Pairwise fun a b => (order a b).isLE :=
    fun rows member => sorted rows (same_lists.mem_iff.mp member)
  obtain ⟨rows, output, whole, ordered⟩ := exists_yields_of_built built yields sorted
  obtain ⟨rows', output', whole', ordered'⟩ := exists_yields_of_built built' yields' sorted'
  have same_rows : rows.Perm rows' := whole.trans (same_lists.symm.flatten.trans whole'.symm)
  exact ⟨rows, rows', output, output', same_rows.length_eq, same_rows,
    tied_of_perm_of_sorted same_rows ordered ordered'⟩

/-- Rows with one column are tied, so the first row that comes out is that of the lane that stands first,
and it differs between the two merges. -/
theorem yields_of_permuted_sources_with_ties :
    let order := compareOn Row.arity
    let one : Row := ⟨[.integer 1]⟩
    let two : Row := ⟨[.integer 2]⟩
    let wide : Row := ⟨[.integer 0, .integer 0]⟩
    let a := Scan.ofRows .empty [one, wide]
    let b := Scan.ofRows .empty [two, two]
    let c := Scan.empty .empty
    let merge := fresh order [a, b, c]
    let other := fresh order [c, b, a]
    (Cursor.advance merge).state.current = some one ∧
      (Cursor.advance other).state.current = some two ∧
      ∃ rows rows', Cursor.Yields merge rows ∧ Cursor.Yields other rows' ∧
        rows.length = rows'.length ∧ rows.Perm rows' ∧
        List.Forall₂ (fun row row' => order row row' = .eq) rows rows' := by
  intro order one two wide a b c merge other
  have same : [a, b, c].Perm [c, b, a] := (List.reverse_perm [a, b, c]).symm
  have yields : List.Forall₂ Cursor.Yields [a, b, c] [[one, wide], [two, two], []] :=
    .cons (Scan.yields a rfl) (.cons (Scan.yields b rfl) (.cons (Scan.yields c rfl) .nil))
  have sorted : ∀ rows ∈ [[one, wide], [two, two], []], rows.Pairwise fun a b => (order a b).isLE := by
    decide
  have built : Merge.Built order [a, b, c] merge := ⟨{}, _, rfl, rfl⟩
  have built' : Merge.Built order [c, b, a] other := ⟨{}, _, rfl, rfl⟩
  exact ⟨rfl, rfl, yields_of_permuted_sources same built built' yields sorted⟩

end Merge

end RowMerge
