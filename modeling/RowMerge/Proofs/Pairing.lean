import Mathlib.Data.List.Forall2

/-!
# Lists paired member by member

The lanes of a merge are followed beside something else that there is one of for each lane. Where the
lanes are split at one of them, so is the list beside them.
-/
namespace RowMerge

variable {α β γ δ : Type} {R : α → β → Prop}

theorem forall₂_append {front back : List α} {others : List β}
    (paired : List.Forall₂ R (front ++ back) others) :
    ∃ front' back', others = front' ++ back' ∧ List.Forall₂ R front front' ∧
      List.Forall₂ R back back' := by
  induction front generalizing others with
  | nil => exact ⟨[], others, rfl, .nil, paired⟩
  | cons first rest ih =>
    obtain ⟨first', others, here, behind, rfl⟩ := List.forall₂_cons_left_iff.mp paired
    obtain ⟨front', back', rfl, front, back⟩ := ih behind
    exact ⟨first' :: front', back', rfl, .cons here front, back⟩

theorem forall₂_append_cons {before after : List α} {a : α} {others : List β}
    (paired : List.Forall₂ R (before ++ a :: after) others) :
    ∃ before' b after', others = before' ++ b :: after' ∧
      List.Forall₂ R before before' ∧ R a b ∧ List.Forall₂ R after after' := by
  obtain ⟨before', _, rfl, front, paired⟩ := forall₂_append paired
  obtain ⟨b, after', here, back, rfl⟩ := List.forall₂_cons_left_iff.mp paired
  exact ⟨before', b, after', rfl, front, here, back⟩

theorem exists_of_mem_left {as : List α} {bs : List β} (paired : List.Forall₂ R as bs) {a : α}
    (member : a ∈ as) : ∃ b ∈ bs, R a b := by
  induction paired with
  | nil => cases member
  | @cons a' b as bs here _ ih =>
    rcases List.mem_cons.mp member with rfl | later
    · exact ⟨b, List.mem_cons_self, here⟩
    · obtain ⟨b', present, related⟩ := ih later
      exact ⟨b', List.mem_cons_of_mem _ present, related⟩

theorem exists_of_mem_right {as : List α} {bs : List β} (paired : List.Forall₂ R as bs) {b : β}
    (member : b ∈ bs) : ∃ a ∈ as, R a b :=
  exists_of_mem_left (R := flip R) paired.flip member

theorem forall₂_iff_getElem? {as : List α} {bs : List β} :
    List.Forall₂ R as bs ↔ as.length = bs.length ∧
      ∀ (place : Nat) (a : α) (b : β), as[place]? = some a → bs[place]? = some b → R a b := by
  rw [List.forall₂_iff_get]
  refine and_congr_right fun length => ?_
  constructor
  · intro related place a b ha hb
    obtain ⟨within, rfl⟩ := List.getElem?_eq_some_iff.mp ha
    obtain ⟨within', rfl⟩ := List.getElem?_eq_some_iff.mp hb
    exact related place within within'
  · intro related place within within'
    exact related place _ _ (List.getElem?_eq_getElem within) (List.getElem?_eq_getElem within')

theorem forall₂_comp {S : β → γ → Prop} {T : α → γ → Prop} {as : List α} {bs : List β}
    {cs : List γ} (first : List.Forall₂ R as bs) (second : List.Forall₂ S bs cs)
    (joined : ∀ a b c, R a b → S b c → T a c) : List.Forall₂ T as cs := by
  induction first generalizing cs with
  | nil =>
    cases second
    exact .nil
  | cons here _ ih =>
    cases second with
    | cons next behind => exact .cons (joined _ _ _ here next) (ih behind)

theorem forall₂_mapIdx {S : γ → δ → Prop} {as : List α} {bs : List β} {f : Nat → α → γ}
    {g : Nat → β → δ} (paired : List.Forall₂ R as bs)
    (made : ∀ place a b, R a b → S (f place a) (g place b)) :
    List.Forall₂ S (as.mapIdx f) (bs.mapIdx g) := by
  induction paired generalizing f g with
  | nil => simp
  | cons here _ ih =>
    rw [List.mapIdx_cons, List.mapIdx_cons]
    exact .cons (made 0 _ _ here) (ih fun place => made (place + 1))

theorem forall₂_mapIdx_left {S : γ → β → Prop} {as : List α} {bs : List β} {f : Nat → α → γ}
    (paired : List.Forall₂ R as bs) (made : ∀ place a b, R a b → S (f place a) b) :
    List.Forall₂ S (as.mapIdx f) bs := by
  have same : bs.mapIdx (fun _ b => b) = bs := by apply List.ext_getElem <;> simp
  rw [← same]
  exact forall₂_mapIdx paired made

theorem forall₂_modify {as : List α} {bs : List β} (paired : List.Forall₂ R as bs) {f : α → α}
    {g : β → β} (kept : ∀ a b, R a b → R (f a) (g b)) (place : Nat) :
    List.Forall₂ R (as.modify place f) (bs.modify place g) := by
  induction paired generalizing place with
  | nil => simp
  | cons here behind ih =>
    cases place with
    | zero => exact .cons (kept _ _ here) behind
    | succ place => exact .cons here (ih place)

theorem bind_getElem?_of_forall₂ {as : List α} {bs : List β} (paired : List.Forall₂ R as bs)
    {f : α → Option γ} {g : β → Option γ} (same : ∀ a b, R a b → f a = g b) (place : Nat) :
    as[place]?.bind f = bs[place]?.bind g := by
  induction paired generalizing place with
  | nil => rfl
  | cons here _ ih =>
    cases place with
    | zero => exact same _ _ here
    | succ place => exact ih place

theorem map_eq_map_of_forall₂ {f : α → γ} {g : β → γ} {as : List α} {bs : List β}
    (paired : List.Forall₂ (fun a b => f a = g b) as bs) : as.map f = bs.map g := by
  rw [← List.forall₂_eq_eq_eq, List.forall₂_map_left_iff, List.forall₂_map_right_iff]
  exact paired

/-- Where lists are put one after the other, a list beside the whole consists of lists beside each. -/
theorem forall₂_flatten {S : α → List β → Prop} {S' : α → List γ → Prop} {T : β → γ → Prop}
    {as : List α} {groups : List (List β)} {others : List γ} (paired : List.Forall₂ S as groups)
    (beside : List.Forall₂ T groups.flatten others)
    (replace : ∀ a group other, S a group → List.Forall₂ T group other → S' a other) :
    ∃ groups', others = groups'.flatten ∧ List.Forall₂ S' as groups' := by
  induction paired generalizing others with
  | nil =>
    cases beside
    exact ⟨[], rfl, .nil⟩
  | @cons a group as groups here _ ih =>
    obtain ⟨group', rest, rfl, first, beside⟩ := forall₂_append beside
    obtain ⟨groups', rfl, later⟩ := ih beside
    exact ⟨group' :: groups', rfl, .cons (replace a group group' here first) later⟩

/-- A list whose image is put together from images splits in the same way. -/
theorem exists_groups_of_map_eq {f : β → γ} {g : α → List γ} {as : List α} {bs : List β}
    (same : bs.map f = as.flatMap g) :
    ∃ groups, bs = groups.flatten ∧ List.Forall₂ (fun a group => group.map f = g a) as groups := by
  induction as generalizing bs with
  | nil =>
    obtain rfl := List.map_eq_nil_iff.mp same
    exact ⟨[], rfl, .nil⟩
  | cons a as ih =>
    obtain ⟨group, rest, rfl, here, behind⟩ := List.map_eq_append_iff.mp same
    obtain ⟨groups, rfl, later⟩ := ih behind
    exact ⟨group :: groups, rfl, .cons here later⟩

end RowMerge
