import RowMerge.Proofs.Steps

/-!
# Sums of row counts

The row count of a merge is a running total over its lanes that becomes unknown, for good, with the
first count that is unknown or that carries it past the limit. Where the lanes are split into groups
this total is the same as that of the totals of the groups.
-/
namespace RowMerge.Merge

/-! ## Running totals -/

theorem countLimit_pos : 0 < countLimit := by decide

theorem addCount_eq_some_iff {total sum : Nat} {count? : Option Nat} :
    addCount total count? = some sum ↔
      ∃ count, count? = some count ∧ total + count < countLimit ∧ total + count = sum := by
  cases count? with
  | none => simp [addCount]
  | some count => simp [addCount]

theorem lt_of_foldlM_addCount {total sum : Nat} {counts : List (Option Nat)}
    (below : total < countLimit)
    (known : counts.foldlM addCount total = some sum) : total ≤ sum ∧ sum < countLimit := by
  induction counts generalizing total with
  | nil =>
    cases known
    exact ⟨Nat.le_refl _, below⟩
  | cons count? rest ih =>
    rw [List.foldlM_cons] at known
    obtain ⟨next, added, known⟩ := Option.bind_eq_some_iff.mp known
    obtain ⟨count, -, fits, rfl⟩ := addCount_eq_some_iff.mp added
    obtain ⟨above, bounded⟩ := ih fits known
    exact ⟨by omega, bounded⟩

/-- A total may be added before or after the counts are. -/
theorem foldlM_addCount_add {total start : Nat} {counts : List (Option Nat)}
    (below : total + start < countLimit) :
    counts.foldlM addCount (total + start) = addCount total (counts.foldlM addCount start) := by
  induction counts generalizing start with
  | nil => exact (addCount_eq_some_iff.mpr ⟨start, rfl, below, rfl⟩).symm
  | cons count? rest ih =>
    simp only [List.foldlM_cons]
    cases count? with
    | none => rfl
    | some count =>
      -- both totals meet the same next count
      by_cases fits : total + (start + count) < countLimit
      · have added : addCount start (some count) = some (start + count) :=
          addCount_eq_some_iff.mpr ⟨count, rfl, by omega, rfl⟩
        have added' : addCount (total + start) (some count) = some (total + (start + count)) :=
          addCount_eq_some_iff.mpr ⟨count, rfl, by omega, by omega⟩
        rw [added, added']
        exact ih fits
      · have full : addCount (total + start) (some count) = none := by
          simp only [addCount, Option.bind_some]
          exact if_neg (by omega)
        rw [full]
        -- a total that is past the limit here stays past it
        refine (Option.eq_none_iff_forall_ne_some.mpr ?_).symm
        intro sum known
        obtain ⟨rest_sum, walked, bounded, -⟩ := addCount_eq_some_iff.mp known
        obtain ⟨next, added, later⟩ := Option.bind_eq_some_iff.mp walked
        obtain ⟨_, equal, within, rfl⟩ := addCount_eq_some_iff.mp added
        cases equal
        have above := (lt_of_foldlM_addCount within later).1
        omega

/-! ## Totals of lanes -/

variable {σ : Type} [Cursor σ]

theorem addCount_tally {total : Nat} (below : total < countLimit) (lanes : List (Lane σ)) :
    addCount total (tally 0 lanes) = tally total lanes := by
  have start : total + 0 < countLimit := below
  exact (foldlM_addCount_add start).symm

theorem tally_append (total : Nat) (front back : List (Lane σ)) :
    tally total (front ++ back) = (tally total front).bind fun sum => tally sum back := by
  rw [tally, List.map_append, List.foldlM_append]
  rfl

/-- Totals depend on the declared counts alone. -/
theorem tally_of_map_eq {lanes others : List (Lane σ)} (total : Nat)
    (same : others.map (fun lane => (Cursor.rowCount lane.source).answer) =
      lanes.map fun lane => (Cursor.rowCount lane.source).answer) :
    tally total others = tally total lanes := by
  rw [tally, same, tally]

end RowMerge.Merge
