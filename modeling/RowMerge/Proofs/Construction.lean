import RowMerge.Proofs.Cleanup
import RowMerge.Proofs.Replay

/-!
# What merges are built from

A merge is built if the limits are sound, there is a source and no more of them than the limit, and, where
schemas are checked, all sources have the schema of the first. Otherwise it is refused for the first of
these conditions that fails, and for the lowest lane with another schema. A new merge has not called its
sources.

A merge shows the schema of its first lane alone. Where all merges of a tree were built with the check,
this is the schema of every leaf: the check compares what the lanes show, and what a lane shows is, level by
level, the schema of all leaves below it.
-/
namespace RowMerge

/-! ## Limits -/

namespace Config

structure Sound (config : Config) : Prop where
  lanes : 0 < config.maxLanes
  page : 0 < config.fetchSize

theorem defect?_eq_none_iff {config : Config} : config.defect? = none ↔ config.Sound := by
  have pos : ∀ limit : UInt64, 0 < limit ↔ limit ≠ 0 := fun _ => UInt64.pos_iff_ne_zero
  constructor
  · intro sound
    unfold defect? at sound
    split at sound
    · cases sound
    next lanes =>
      split at sound
      · cases sound
      next page => exact ⟨(pos _).mpr lanes, (pos _).mpr page⟩
  · rintro ⟨lanes, page⟩
    simp [defect?, (pos _).mp lanes, (pos _).mp page]

end Config

namespace Merge

/-! ## Schemas that differ -/

theorem mismatch?_eq_none_iff {expected : Schema} {lane : Nat} {schemas : List Schema} :
    mismatch? expected lane schemas = none ↔ ∀ schema ∈ schemas, schema = expected := by
  induction schemas generalizing lane with
  | nil => simp [mismatch?]
  | cons schema rest ih =>
    by_cases same : schema = expected
    · simp [mismatch?, same, ih]
    · simp [mismatch?, same]

/-- The mismatch that is found is that of the first schema that differs. -/
theorem mismatch?_eq_some_iff {expected : Schema} {lane : Nat} {schemas : List Schema} {fault : Fault} :
    mismatch? expected lane schemas = some fault ↔
      ∃ place other, schemas[place]? = some other ∧ other ≠ expected ∧
        (∀ earlier < place, schemas[earlier]? = some expected) ∧
        .schemaMismatch (lane + place) expected.display other.display = fault := by
  induction schemas generalizing lane with
  | nil => simp [mismatch?]
  | cons schema rest ih =>
    by_cases same : schema = expected
    · -- the first schema is the expected one, so the place is one further on
      subst same
      simp only [mismatch?, if_pos, ih]
      constructor
      · rintro ⟨place, other, found, differs, earlier, rfl⟩
        refine ⟨place + 1, other, found, differs, ?_, by rw [Nat.add_right_comm, Nat.add_assoc]⟩
        rintro (_ | before) less
        · rfl
        · exact earlier before (Nat.lt_of_succ_lt_succ less)
      · rintro ⟨_ | place, other, found, differs, earlier, rfl⟩
        · exact absurd (Option.some.inj found).symm differs
        · refine ⟨place, other, found, differs, ?_, by rw [Nat.add_right_comm, Nat.add_assoc]⟩
          exact fun before less => earlier (before + 1) (Nat.succ_lt_succ less)
    · simp only [mismatch?, if_neg same, Option.some.injEq]
      constructor
      · rintro rfl
        exact ⟨0, schema, rfl, same, nofun, rfl⟩
      · rintro ⟨_ | place, other, found, differs, earlier, rfl⟩
        · cases found
          rfl
        · -- a schema that differs later is not the first one that differs
          exact absurd (Option.some.inj (earlier 0 (Nat.succ_pos place))) same

/-! ## Accepted and refused -/

/-- What a configuration asks of the schemas of the sources. -/
structure Accepted (config : Config) (schemas : List Schema) : Prop where
  sound : config.Sound
  some_source : 1 ≤ schemas.length
  within : schemas.length ≤ config.maxLanes.toNat
  alike : config.checkSchema = false ∨ ∀ schema ∈ schemas, schemas.head? = some schema

/-- Why sources with these schemas are refused: each reason counts only if none of those before it
does. -/
inductive Refused (config : Config) (schemas : List Schema) : Fault → Prop
  | noLanes (none : config.maxLanes = 0) :
      Refused config schemas (.configuration "max_lanes must be > 0")
  | noPage (lanes : 0 < config.maxLanes) (none : config.fetchSize = 0) :
      Refused config schemas (.configuration "fetch_size must be > 0")
  | noSources (sound : config.Sound) (none : schemas = []) : Refused config schemas .noSources
  | tooMany (sound : config.Sound) (crowded : config.maxLanes.toNat < schemas.length) :
      Refused config schemas (.tooManySources schemas.length config.maxLanes.toNat)
  /-- Some schema differs from the first, and none before it does. -/
  | mismatch {lane : Nat} {first other : Schema} (sound : config.Sound)
      (within : schemas.length ≤ config.maxLanes.toNat) (checked : config.checkSchema = true)
      (head : schemas.head? = some first) (found : schemas[lane]? = some other)
      (differs : other ≠ first) (lowest : ∀ earlier < lane, schemas[earlier]? = some first) :
      Refused config schemas (.schemaMismatch lane first.display other.display)

variable {config : Config} {schemas : List Schema}

theorem accept_of_accepted (accepted : Accepted config schemas) : accept config schemas = .ok () := by
  obtain ⟨sound, some_source, within, alike⟩ := accepted
  obtain ⟨first, rest, rfl⟩ := List.exists_cons_of_length_pos some_source
  have undefective := Config.defect?_eq_none_iff.mpr sound
  have fits : ¬ config.maxLanes.toNat < (first :: rest).length := Nat.not_lt.mpr within
  rcases alike with unchecked | alike
  · simp only [accept, undefective, if_neg fits, unchecked, Bool.false_eq_true, if_false]
  · -- the first schema is not compared with itself
    have none : mismatch? first 1 rest = none := by
      refine mismatch?_eq_none_iff.mpr fun schema member => ?_
      exact (Option.some.inj (alike schema (List.mem_cons_of_mem first member))).symm
    simp only [accept, undefective, if_neg fits, none, ite_self]

theorem accept_of_refused {fault : Fault} (refused : Refused config schemas fault) :
    accept config schemas = .error fault := by
  cases refused with
  | noLanes none => simp [accept, Config.defect?, none]
  | noPage lanes none =>
    have some_lane : config.maxLanes ≠ 0 := UInt64.pos_iff_ne_zero.mp lanes
    simp [accept, Config.defect?, some_lane, none]
  | noSources sound none => simp [accept, Config.defect?_eq_none_iff.mpr sound, none]
  | tooMany sound crowded =>
    obtain ⟨first, rest, rfl⟩ := List.exists_cons_of_length_pos (Nat.zero_lt_of_lt crowded)
    simp only [accept, Config.defect?_eq_none_iff.mpr sound, if_pos crowded]
  | @mismatch lane first other sound within checked head found differs lowest =>
    obtain ⟨rest, rfl⟩ := List.head?_eq_some_iff.mp head
    have fits : ¬ config.maxLanes.toNat < (first :: rest).length := Nat.not_lt.mpr within
    -- the first lane has the schema of the first, so the lane is one of those behind it
    obtain ⟨place, rfl⟩ : ∃ place, lane = place + 1 := by
      refine Nat.exists_eq_succ_of_ne_zero ?_
      rintro rfl
      exact differs (Option.some.inj found).symm
    have mismatch : mismatch? first 1 rest =
        some (.schemaMismatch (place + 1) first.display other.display) := by
      refine mismatch?_eq_some_iff.mpr ⟨place, other, found, differs, ?_, by rw [Nat.add_comm]⟩
      exact fun earlier less => lowest (earlier + 1) (Nat.succ_lt_succ less)
    simp only [accept, Config.defect?_eq_none_iff.mpr sound, if_neg fits, checked, if_true, mismatch]

theorem accepted_or_refused (config : Config) (schemas : List Schema) :
    Accepted config schemas ∨ ∃ fault, Refused config schemas fault := by
  by_cases lanes : config.maxLanes = 0
  · exact .inr ⟨_, .noLanes lanes⟩
  have some_lane : 0 < config.maxLanes := UInt64.pos_iff_ne_zero.mpr lanes
  by_cases page : config.fetchSize = 0
  · exact .inr ⟨_, .noPage some_lane page⟩
  have sound : config.Sound := ⟨some_lane, UInt64.pos_iff_ne_zero.mpr page⟩
  rcases schemas with _ | ⟨first, rest⟩
  · exact .inr ⟨_, .noSources sound rfl⟩
  by_cases crowded : config.maxLanes.toNat < (first :: rest).length
  · exact .inr ⟨_, .tooMany sound crowded⟩
  have within : (first :: rest).length ≤ config.maxLanes.toNat := Nat.le_of_not_lt crowded
  have some_source : 1 ≤ (first :: rest).length := Nat.succ_pos rest.length
  cases checked : config.checkSchema with
  | false => exact .inl ⟨sound, some_source, within, .inl checked⟩
  | true =>
    cases found : mismatch? first 0 (first :: rest) with
    | none =>
      have alike := mismatch?_eq_none_iff.mp found
      refine .inl ⟨sound, some_source, within, .inr fun schema member => ?_⟩
      exact congrArg some (alike schema member).symm
    | some fault =>
      obtain ⟨lane, other, found, differs, lowest, -⟩ := mismatch?_eq_some_iff.mp found
      exact .inr ⟨_, .mismatch sound within checked rfl found differs lowest⟩

theorem accept_eq_ok_iff : accept config schemas = .ok () ↔ Accepted config schemas := by
  refine ⟨fun ok => ?_, accept_of_accepted⟩
  rcases accepted_or_refused config schemas with accepted | ⟨fault, refused⟩
  · exact accepted
  · cases ok.symm.trans (accept_of_refused refused)

theorem accept_eq_error_iff {fault : Fault} :
    accept config schemas = .error fault ↔ Refused config schemas fault := by
  refine ⟨fun failed => ?_, accept_of_refused⟩
  rcases accepted_or_refused config schemas with accepted | ⟨other, refused⟩
  · cases failed.symm.trans (accept_of_accepted accepted)
  · cases failed.symm.trans (accept_of_refused refused)
    exact refused

/-! ## New merges -/

variable {σ : Type} [Cursor σ] {order : Row → Row → Ordering} {sources : List σ}

/-- A merge over sources of which none has been called. -/
structure New (order : Row → Row → Ordering) (sources : List σ) (built : Outcome (Merge σ) Unit) :
    Prop where
  by_order : built.state.order = order
  /-- The sources are as they were, one in each lane. -/
  unmoved : built.state.lanes.map Lane.source = sources
  numbers : built.state.lanes.map Lane.index = List.range sources.length
  pending : ∀ lane ∈ built.state.lanes, lane.lookahead = .pending
  current : built.state.current = none
  currentLane : built.state.currentLane = none
  count : built.state.count = .uncomputed
  uncalled : Event.calls built.events = []
  schema : (sources.map Cursor.schema).head? = some (Cursor.schema built.state)

theorem build_eq_ok_iff {built : Outcome (Merge σ) Unit} : build config order sources = .ok built ↔
    Accepted config (sources.map Cursor.schema) ∧
      built = ⟨(), fresh order sources, [.note (.created sources.length)]⟩ := by
  rw [← accept_eq_ok_iff]
  unfold build
  cases accept config (sources.map Cursor.schema) with
  | error fault => simp [Except.map]
  | ok _ => simp [Except.map, Outcome.silent, Outcome.after, eq_comm]

theorem build_eq_error_iff {fault : Fault} : build config order sources = .error fault ↔
    Refused config (sources.map Cursor.schema) fault := by
  rw [← accept_eq_error_iff]
  unfold build
  cases accept config (sources.map Cursor.schema) <;> simp [Except.map]

theorem schema_fresh (order : Row → Row → Ordering) (some_source : sources ≠ []) :
    (sources.map Cursor.schema).head? = some (Cursor.schema (fresh order sources)) := by
  obtain ⟨first, rest, rfl⟩ := List.exists_cons_of_ne_nil some_source
  simp [Cursor.schema, schema, fresh, lanesOf, Lane.schema, Lane.ofSource]

theorem new_of_build {built : Outcome (Merge σ) Unit} (made : build config order sources = .ok built) :
    New order sources built := by
  obtain ⟨-, some_source⟩ := state_of_build made
  obtain ⟨-, rfl⟩ := build_eq_ok_iff.mp made
  refine ⟨rfl, map_source_lanesOf sources, ?_, fun lane => pending_of_mem_lanesOf, rfl, rfl, rfl, rfl,
    schema_fresh order some_source⟩
  apply List.ext_getElem <;> simp [fresh, lanesOf, Lane.ofSource]

end Merge

/-! ## One schema for all leaves -/

/-- Requests do not change the schema of the cursor. -/
def Cursor.KeepsSchema {σ : Type} [Cursor σ] (s : σ) : Prop :=
  ∀ requests, schema (run s requests).state = schema s

theorem Cursor.KeepsSchema.perform {σ : Type} [Cursor σ] {s : σ} (keeps : KeepsSchema s)
    (request : Request) : KeepsSchema (perform s request).state ∧
      schema (perform s request).state = schema s :=
  ⟨fun requests => (keeps (request :: requests)).trans (keeps [request]).symm, keeps [request]⟩

namespace MergeTree

variable {σ : Type}

/-- Every merge of the tree has a lane, and every leaf a property. -/
def Throughout (P : σ → Prop) : (depth : Nat) → MergeTree σ depth → Prop
  | 0 => P
  | depth + 1 => Sum.elim P fun merge =>
    merge.lanes ≠ [] ∧ ∀ lane ∈ merge.lanes, Throughout P depth lane.source

namespace Throughout

variable {P Q : σ → Prop} {depth : Nat} {tree : MergeTree σ depth}

theorem of_leaf {source : σ} (holds : P source) (depth : Nat) :
    Throughout P depth (leaf source depth) := by
  cases depth <;> exact holds

theorem leaves (throughout : Throughout P depth tree) : ∀ leaf ∈ leaves depth tree, P leaf := by
  induction depth with
  | zero => exact List.forall_mem_singleton.mpr throughout
  | succ depth ih =>
    rcases tree with source | merge
    · exact List.forall_mem_singleton.mpr throughout
    · intro leaf member
      obtain ⟨lane, place, below⟩ := List.mem_flatMap.mp member
      exact ih (throughout.2 lane place) leaf below

theorem imp (throughout : Throughout P depth tree)
    (stronger : ∀ leaf ∈ MergeTree.leaves depth tree, P leaf → Q leaf) : Throughout Q depth tree := by
  induction depth with
  | zero => exact stronger tree List.mem_cons_self throughout
  | succ depth ih =>
    rcases tree with source | merge
    · exact stronger source List.mem_cons_self throughout
    · refine ⟨throughout.1, fun lane place => ih (throughout.2 lane place) fun leaf below => ?_⟩
      exact stronger leaf (List.mem_flatMap.mpr ⟨lane, place, below⟩)

variable [Cursor σ]

/-- What every request to a leaf keeps, every request to the tree keeps. -/
theorem perform (kept : ∀ leaf request, P leaf → P (Cursor.perform leaf request).state)
    (throughout : Throughout P depth tree) (request : Request) :
    Throughout P depth (Cursor.perform tree request).state := by
  induction depth generalizing request with
  | zero => exact kept tree request throughout
  | succ depth ih =>
    rcases tree with source | merge
    · change Throughout P (depth + 1)
        (Cursor.perform (.inl source : σ ⊕ Merge (MergeTree σ depth)) request).state
      rw [Cursor.perform_inl]
      exact kept source request throughout
    · obtain ⟨some_lane, below⟩ := throughout
      obtain ⟨passed, -⟩ := Merge.passed_perform merge request
      change Throughout P (depth + 1) (Cursor.perform (ofMerge merge) request).state
      rw [(view_ofMerge depth).perform]
      refine ⟨?_, fun next place => ?_⟩
      · intro none
        exact some_lane (List.eq_nil_of_length_eq_zero (by simpa [none] using passed.length_eq))
      · -- a lane is over the tree it was over, or over what the request made of it
        obtain ⟨lane, member, passed⟩ := exists_of_mem_right passed place
        rcases passed.source with same | moved
        · rw [same]
          exact below lane member
        · rw [moved]
          exact ih (below lane member) request

theorem schema {schema : Schema} (throughout : Throughout (Cursor.schema · = schema) depth tree) :
    Cursor.schema tree = schema := by
  induction depth with
  | zero => exact throughout
  | succ depth ih =>
    rcases tree with source | merge
    · exact throughout
    · -- a merge shows the schema of its first lane
      obtain ⟨some_lane, below⟩ := throughout
      obtain ⟨first, rest, lanes⟩ := List.exists_cons_of_ne_nil some_lane
      change merge.schema = schema
      rw [Merge.schema, lanes]
      exact ih (below first (lanes ▸ List.mem_cons_self))

end Throughout

variable [Cursor σ]

/-- The trees all of whose merges were built with the check of schemas. A merge may be used before another
one is built over it, if the leaves keep their schemas. -/
inductive Checked : (depth : Nat) → MergeTree σ depth → Prop
  | leaf (source : σ) (depth : Nat) : Checked depth (leaf source depth)
  | merge {depth : Nat} {config : Config} {order : Row → Row → Ordering}
      {sources : List (MergeTree σ depth)} {built : Outcome (Merge (MergeTree σ depth)) Unit}
      (below : ∀ source ∈ sources, Checked depth source) (checks : config.checkSchema = true)
      (made : Merge.build config order sources = .ok built) : Checked (depth + 1) (ofMerge built.state)
  | run {depth : Nat} {tree : MergeTree σ depth} (checked : Checked depth tree)
      (keep : ∀ leaf ∈ leaves depth tree, Cursor.KeepsSchema leaf) (requests : List Request) :
      Checked depth (Cursor.run tree requests).state

theorem Checked.throughout {depth : Nat} {tree : MergeTree σ depth} (checked : Checked depth tree) :
    Throughout (Cursor.schema · = Cursor.schema tree) depth tree := by
  -- it is enough to find some schema that all leaves have, for the tree shows it
  suffices common : ∃ schema, Throughout (Cursor.schema · = schema) depth tree by
    obtain ⟨schema, throughout⟩ := common
    rwa [throughout.schema]
  induction checked with
  | leaf source depth =>
    refine ⟨Cursor.schema source, ?_⟩
    exact .of_leaf (P := (Cursor.schema · = Cursor.schema source)) rfl depth
  | @merge depth config order sources built _ checks made ih =>
    have new := Merge.new_of_build made
    -- the check compares the schemas that the lanes show
    have alike : ∀ source ∈ sources, Cursor.schema source = Cursor.schema built.state := by
      intro source member
      have same := (Merge.build_eq_ok_iff.mp made).1.alike.resolve_left (by simp [checks])
      have first := same _ (List.mem_map_of_mem member)
      exact Option.some.inj (first.symm.trans new.schema)
    refine ⟨Cursor.schema built.state, ?_, fun lane place => ?_⟩
    · intro none
      have some_source := (Merge.state_of_build made).2
      rw [← new.unmoved, none] at some_source
      exact some_source rfl
    · have member : lane.source ∈ sources := new.unmoved ▸ List.mem_map_of_mem place
      obtain ⟨schema, throughout⟩ := ih lane.source member
      rw [← alike lane.source member, throughout.schema]
      exact throughout
  | @run depth tree checked keep requests ih =>
    obtain ⟨schema, throughout⟩ := ih
    -- the leaves have the schema and keep it, and requests change neither
    let Keeps (leaf : σ) : Prop := Cursor.schema leaf = schema ∧ Cursor.KeepsSchema leaf
    have before : Throughout Keeps depth tree :=
      throughout.imp fun leaf member same => ⟨same, keep leaf member⟩
    have after : Throughout Keeps depth (Cursor.run tree requests).state := by
      refine Cursor.run_invariant (P := Throughout Keeps depth) ?_ before requests
      intro next request throughout
      refine throughout.perform ?_ request
      rintro leaf request ⟨same, keeps⟩
      obtain ⟨still, kept⟩ := keeps.perform request
      exact ⟨kept.trans same, still⟩
    exact ⟨schema, after.imp fun _ _ both => both.1⟩

end MergeTree

theorem Scan.keepsSchema (scan : Scan) : Cursor.KeepsSchema scan := by
  refine Cursor.run_invariant (P := fun next : Scan => next.schema = scan.schema) ?_ rfl
  intro next request same
  by_cases closing : request = .close
  · subst closing
    exact same
  · obtain ⟨position, moved⟩ := next.exists_position_of_perform closing
    rw [moved]
    exact same

namespace Merge

variable {σ : Type} [Cursor σ]

/-- A merge is built just where the limits are sound, the number of sources is within them, and no check of
schemas is due or all sources have the schema of the first. In all other cases the fault is that of the
first check that fails. A new merge has one lane for each source, in their order, from which nothing has
been pulled, and shows the schema of the first; no source has been called. So in a tree whose merges were
all built with the check of schemas, all leaves have the schema that the root shows. -/
theorem built_or_refused (config : Config) (order : Row → Row → Ordering) (sources : List σ) :
    ((∃ built, build config order sources = .ok built) ↔
      Accepted config (sources.map Cursor.schema)) ∧
    (∀ fault, build config order sources = .error fault ↔
      Refused config (sources.map Cursor.schema) fault) ∧
    (∀ built, build config order sources = .ok built → New order sources built) ∧
    ∀ (depth : Nat) (tree : MergeTree σ depth), MergeTree.Checked depth tree →
      ∀ leaf ∈ MergeTree.leaves depth tree, Cursor.schema leaf = Cursor.schema tree := by
  refine ⟨⟨?_, ?_⟩, fun _ => build_eq_error_iff, fun _ => new_of_build,
    fun _ _ checked => checked.throughout.leaves⟩
  · rintro ⟨built, made⟩
    exact (build_eq_ok_iff.mp made).1
  · intro accepted
    exact ⟨_, build_eq_ok_iff.mpr ⟨accepted, rfl⟩⟩

/-- The third of three sources is the first one with another schema. In the tree the inner merge has been
advanced before the root is built over it. -/
theorem built_or_refused_of_wide_source :
    let order := compareOn Row.arity
    let narrow : Schema := ⟨[⟨"v", .integer⟩]⟩
    let wide : Schema := ⟨[⟨"v", .integer⟩, ⟨"tag", .string⟩]⟩
    let scan (schema : Schema) : Scan := .ofRows schema [⟨[.integer 1]⟩]
    let inner : MergeTree Scan 1 := .ofMerge (fresh order [scan narrow, scan narrow])
    let used := (Cursor.run inner [.advance]).state
    let tree : MergeTree Scan 2 := .ofMerge (fresh order [used, .leaf (scan narrow) 1])
    build { maxLanes := 3 } order [scan narrow, scan narrow, scan wide] =
        .error (.schemaMismatch 2 narrow.display wide.display) ∧
      ∀ leaf ∈ MergeTree.leaves 2 tree, Cursor.schema leaf = narrow := by
  intro order narrow wide scan inner used tree
  obtain ⟨-, refused, -, uniform⟩ :=
    built_or_refused { maxLanes := 3 } order [scan narrow, scan narrow, scan wide]
  constructor
  · have sound : Config.Sound { maxLanes := 3 } := ⟨by decide, by decide⟩
    have lowest : ∀ earlier < 2, [narrow, narrow, wide][earlier]? = some narrow := by decide
    exact (refused _).mpr (.mismatch sound (Nat.le_refl 3) rfl rfl rfl (by decide) lowest)
  · let below : List (MergeTree Scan 0) := [scan narrow, scan narrow]
    let sources : List (MergeTree Scan 1) := [used, .leaf (scan narrow) 1]
    have made : build {} order below = .ok ⟨(), fresh order below, [.note (.created 2)]⟩ := rfl
    have made_root : build {} order sources = .ok ⟨(), fresh order sources, [.note (.created 2)]⟩ :=
      rfl
    have checked_inner : MergeTree.Checked 1 inner := .merge (fun source _ => .leaf source 0) rfl made
    have checked_used : MergeTree.Checked 1 used :=
      .run checked_inner (fun leaf _ => leaf.keepsSchema) [.advance]
    have checked : MergeTree.Checked 2 tree := by
      refine .merge ?_ rfl made_root
      exact List.forall_mem_cons.mpr
        ⟨checked_used, List.forall_mem_singleton.mpr (.leaf (scan narrow) 1)⟩
    exact uniform 2 tree checked

end Merge

end RowMerge
