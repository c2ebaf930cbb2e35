import RowMerge.Proofs.Construction
import RowMerge.Proofs.PassedFaults
import RowMerge.Proofs.ReadBack

/-!
# Configurations from texts

An object that gives some of the fields of a configuration, in any order and among fields of other names, is read
as the default configuration with these fields in place of its own: a name is looked up by leaving out all fields
of other names, and what is left has one order only. A text that is read as a configuration is accepted if the
limits are sound. So no merge is refused for a configuration that was accepted, and whatever configuration fault
a merge answers comes from a source.
-/
namespace RowMerge

namespace Config

def fieldNames : List String := ["check_schema", "max_lanes", "fetch_size"]

/-- The fields of a configuration that an object gives. -/
structure Settings where
  checkSchema : Option Bool
  maxLanes : Option UInt64
  fetchSize : Option UInt64

namespace Settings

/-- The default configuration with the given fields in place of its own. -/
def config (settings : Settings) : Config :=
  let standard : Config := {}
  { checkSchema := settings.checkSchema.getD standard.checkSchema
    maxLanes := settings.maxLanes.getD standard.maxLanes
    fetchSize := settings.fetchSize.getD standard.fetchSize }

/-- Each name with what is given for it. -/
def entries (settings : Settings) : List (String × Option Json) :=
  [("check_schema", settings.checkSchema.map .boolean),
    ("max_lanes", settings.maxLanes.map fun n => .ofInt n.toNat),
    ("fetch_size", settings.fetchSize.map fun n => .ofInt n.toNat)]

/-- The fields that are given. -/
def fields (settings : Settings) : List (String × Json) :=
  settings.entries.filterMap fun entry => entry.2.map (entry.1, ·)

/-- The object has the given fields and unknown ones, in any order. -/
structure GivenIn (settings : Settings) (fields unknown : List (String × Json)) : Prop where
  unknowns : ∀ field ∈ unknown, field.1 ∉ fieldNames
  shuffled : fields.Perm (settings.fields ++ unknown)

/-- All fields of a configuration. -/
def ofConfig (config : Config) : Settings :=
  ⟨some config.checkSchema, some config.maxLanes, some config.fetchSize⟩

variable {settings : Settings} {fields unknown : List (String × Json)} {text : String}

theorem filter_fields {entry : String × Option Json} (member : entry ∈ settings.entries) :
    settings.fields.filter (fun field => field.1 = entry.1) = (entry.2.map (entry.1, ·)).toList := by
  have distinct : (settings.entries.map Prod.fst).Nodup := show fieldNames.Nodup by decide
  have named : settings.fields.filter (fun field => field.1 = entry.1) =
      (settings.entries.filter (fun other => other.1 = entry.1)).filterMap
        fun other => other.2.map (other.1, ·) := by
    rw [fields, List.filter_filterMap, List.filterMap_filter]
    refine List.filterMap_congr fun other _ => ?_
    cases other.2 <;> simp [Option.filter]
  rw [named, Json.filter_of_nodup distinct member]
  rcases entry with ⟨name, _ | value⟩ <;> rfl

/-- Neither fields of other names nor the order of the fields change what is given for a name. -/
theorem GivenIn.field? (given : settings.GivenIn fields unknown) {entry : String × Option Json}
    (member : entry ∈ settings.entries) :
    Json.field? (fields.map fun field => (some field.1, field.2)) entry.1 = some entry.2 := by
  have known : entry.1 ∈ fieldNames := List.mem_map_of_mem (f := Prod.fst) member
  have others : unknown.filter (fun field => field.1 = entry.1) = [] := by
    refine List.filter_eq_nil_iff.mpr fun field place same => given.unknowns field place ?_
    rwa [of_decide_eq_true same]
  have same := given.shuffled.filter (fun field => field.1 = entry.1)
  rw [List.filter_append, filter_fields member, others, List.append_nil] at same
  -- a list of one field at most has no other order
  apply Json.field?_of_filter
  rcases entry with ⟨name, _ | value⟩
  · exact same.eq_nil
  · exact List.perm_singleton.mp same

theorem GivenIn.toFields? (given : settings.GivenIn fields unknown) (room : Nat) :
    (Json.ofFields fields).toFields? fieldNames (room + 1) = some (settings.entries.map Prod.snd) := by
  have keys : (fields.map fun field => (some field.1, field.2)).all
      (fun field : Option String × Json => field.1.isSome) = true := by simp
  rw [Json.ofFields, Json.toFields?, if_pos keys]
  exact mapM_map_of_forall (g := Prod.fst) fun entry member => given.field? member

/-- A field that is missing is its default, and one that is given is read. -/
theorem orDefault_map {α : Type} {read? : Json → Option α} {write : α → Json}
    (back : ∀ x, read? (write x) = some x) (default : α) (given : Option α) :
    Json.orDefault read? default (given.map write) = some (given.getD default) := by
  cases given with
  | none => rfl
  | some x => exact back x

theorem GivenIn.ofJson? (given : settings.GivenIn fields unknown) (room : Nat) :
    Document.ofJson? (room + 1) (Json.ofFields fields) = some settings.config := by
  have found := given.toFields? room
  simp only [fieldNames, entries, List.map_cons, List.map_nil] at found
  have checkSchema := orDefault_map (fun b => show (Json.boolean b).toBool? = some b from rfl) true
    settings.checkSchema
  simp only [Document.ofJson?, found, checkSchema, orDefault_map Json.toUInt64?_ofInt]
  rfl

/-- The object is read as the configuration, however it is spelled. -/
theorem GivenIn.read? (given : settings.GivenIn fields unknown)
    (spelled : (Json.ofFields fields).Spelling text) :
    Document.read? text = some settings.config := by
  rw [Document.read?, Json.read?_eq_some_iff.mpr spelled]
  exact given.ofJson? _

theorem read?_write (config : Config) : Document.read? (Document.write config) = some config := by
  have given : (ofConfig config).GivenIn (ofConfig config).fields [] := ⟨nofun, by rw [List.append_nil]⟩
  exact given.read? (Json.spelling_print (Document.toJson config))

end Settings

/-! ## Accepted and refused texts -/

/-- The limits decide whether the text is accepted as the configuration or refused as none. -/
structure Decides (text : String) (config : Config) : Prop where
  accepted : ofText text = .ok config ↔ config.Sound
  refused : ¬config.Sound → ∃ reason, ofText text = .error (.configuration reason)

variable {config : Config} {text : String}

theorem decides_of_read? (read : Document.read? text = some config) : Decides text config := by
  have tested : ofText text = config.validate.map fun _ => config := by rw [ofText, read]
  rw [validate] at tested
  cases found : config.defect? with
  | none =>
    have sound := defect?_eq_none_iff.mp found
    rw [found] at tested
    exact ⟨iff_of_true tested sound, fun unsound => absurd sound unsound⟩
  | some reason =>
    have unsound : ¬config.Sound := fun sound => by
      cases found.symm.trans (defect?_eq_none_iff.mpr sound)
    rw [found] at tested
    refine ⟨iff_of_false (fun ok => ?_) unsound, fun _ => ⟨reason, tested⟩⟩
    cases tested.symm.trans ok

theorem sound_of_ofText (ok : ofText text = .ok config) : config.Sound := by
  cases read : (Document.read? text : Option Config) with
  | none =>
    rw [ofText, read] at ok
    cases ok
  | some other =>
    -- it is the configuration that was read
    have decided := decides_of_read? read
    by_cases sound : other.Sound
    · cases (decided.accepted.mpr sound).symm.trans ok
      exact sound
    · obtain ⟨reason, refused⟩ := decided.refused sound
      cases refused.symm.trans ok

theorem validate_of_sound (sound : config.Sound) : config.validate = .ok () := by
  rw [validate, defect?_eq_none_iff.mpr sound]

/-! ## Merges of an accepted configuration -/

section Merges

variable {σ : Type} [Cursor σ] {order : Row → Row → Ordering} {sources : List σ}

theorem build_ne_configuration (sound : config.Sound) (reason : String) :
    Merge.build config order sources ≠ .error (.configuration reason) := by
  intro failed
  cases Merge.build_eq_error_iff.mp failed with
  | noLanes none => exact absurd none (UInt64.pos_iff_ne_zero.mp sound.lanes)
  | noPage _ none => exact absurd none (UInt64.pos_iff_ne_zero.mp sound.page)

/-- A merge has no configuration faults of its own. -/
theorem exists_source_of_canFail {built : Outcome (Merge σ) Unit}
    (made : Merge.build config order sources = .ok built) {reason : String}
    (fails : Cursor.CanFail built.state (.configuration reason)) :
    ∃ source ∈ sources, Cursor.CanFail source (.configuration reason) := by
  obtain ⟨lane, member, origin⟩ := Merge.canFail_lane fails
  have unmoved := (Merge.new_of_build made).unmoved
  refine ⟨lane.source, unmoved ▸ List.mem_map_of_mem member, origin.resolve_right ?_⟩
  exact Fault.noConfusion

end Merges

/-- A configuration that is written is accepted if its limits are sound, and so is the default configuration
with some fields replaced where a text gives these. What is accepted is valid, and no merge of it has a
configuration fault that is not from its sources. -/
theorem decided_by_limits :
    (∀ config : Config, Decides (Document.write config) config) ∧
    (∀ (settings : Settings) (fields unknown : List (String × Json)) (text : String),
      settings.GivenIn fields unknown → (Json.ofFields fields).Spelling text →
      Document.read? text = some settings.config ∧ Decides text settings.config) ∧
    (∀ (text : String) (config : Config), ofText text = .ok config →
      config.validate = .ok () ∧
      ∀ {σ : Type} [Cursor σ] (order : Row → Row → Ordering) (sources : List σ) (reason : String),
        Merge.build config order sources ≠ .error (.configuration reason) ∧
        ∀ built, Merge.build config order sources = .ok built →
          Cursor.CanFail built.state (.configuration reason) →
          ∃ source ∈ sources, Cursor.CanFail source (.configuration reason)) := by
  refine ⟨fun config => ?_, fun settings fields unknown text given spelled => ?_,
    fun text config ok => ?_⟩
  · exact decides_of_read? (Settings.read?_write config)
  · have read := given.read? spelled
    exact ⟨read, decides_of_read? read⟩
  · have sound := sound_of_ofText ok
    refine ⟨validate_of_sound sound, fun order sources reason => ?_⟩
    exact ⟨build_ne_configuration sound reason, fun built made => exists_source_of_canFail made⟩

/-- Two of the fields are given, behind one that is unknown. The source of the merge has a configuration fault. -/
theorem partial_text_decided :
    let text := " \x7b\"note\": [1, null], \"fetch_size\" : 7 ,\n\"check_schema\":false\x7d "
    let settings : Settings := ⟨some false, none, some 7⟩
    let unknown : List (String × Json) := [("note", .array [.ofInt 1, .null])]
    let fields : List (String × Json) :=
      [("note", .array [.ofInt 1, .null]), ("fetch_size", .ofInt 7), ("check_schema", .boolean false)]
    let config : Config := ⟨false, 1024, 7⟩
    let fault : Fault := .configuration "the page size is fixed"
    let source := Broken.onAdvance .empty fault
    let merge := Merge.fresh (fun _ _ => .eq) [source]
    settings.GivenIn fields unknown ∧ (Json.ofFields fields).Spelling text ∧ Decides text config ∧
      ofText text = .ok config ∧ config.validate = .ok () ∧
      Merge.build config merge.order [source] = .ok ⟨(), merge, [.note (.created 1)]⟩ ∧
      Cursor.CanFail merge fault ∧ ∃ member ∈ [source], Cursor.CanFail member fault := by
  intro text settings unknown fields config fault source merge
  have given : settings.GivenIn fields unknown := by
    refine ⟨?_, List.reverse_perm (settings.fields ++ unknown)⟩
    simp [unknown, fieldNames]
  have spelled : (Json.ofFields fields).Spelling text := Json.Token.spaced_of_lex (by decide +kernel)
  have decided := (decided_by_limits.2.1 settings fields unknown text given spelled).2
  have ok : ofText text = .ok config := decided.accepted.mpr ⟨by decide, by decide⟩
  have made : Merge.build config merge.order [source] = .ok ⟨(), merge, [.note (.created 1)]⟩ := rfl
  have fails : Cursor.CanFail merge fault := ⟨[.advance], _, List.mem_cons_self, rfl⟩
  obtain ⟨valid, built⟩ := decided_by_limits.2.2 text config ok
  exact ⟨given, spelled, decided, ok, valid, made, fails, (built _ _ _).2 _ made fails⟩

end Config

end RowMerge
