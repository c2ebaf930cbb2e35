import RowMerge.Records
import RowMerge.Proofs.DocumentSpelling

/-!
# Data is read back from its text

What data is written as is read as the same data. The text is read as the document that was written, so what is
left is to take the data from its document within the number of brackets that may be open. A record takes one
bracket for itself and finds each of its fields once. A value takes two for each level of arrays and at most one
more, by induction on the value. Integers, texts and names come back as they are; of numbers and timestamps it
is supposed that they do.
-/
namespace RowMerge

theorem mapM_map_of_forall {α β γ : Type} {f : β → Option γ} {g : α → β} {h : α → γ} {items : List α}
    (each : ∀ item ∈ items, f (g item) = some (h item)) :
    (items.map g).mapM f = some (items.map h) := by
  induction items with
  | nil => rfl
  | cons item rest ih =>
    obtain ⟨here, behind⟩ := List.forall_mem_cons.mp each
    simp [here, ih behind]

namespace Document

variable {α : Type} [Document α]

/-- With room for so many brackets, the data is taken from its own document. -/
def Restored (room : Nat) (x : α) : Prop := ofJson? room (toJson x) = some x

/-- What the data is written as is a text of its document, and is read as the data. -/
structure RoundTrip (x : α) : Prop where
  spelled : (toJson x).Spelling (write x)
  read_back : read? (write x) = some x

theorem Restored.roundTrip {x : α} (restored : Restored nestingLimit x) : RoundTrip x := by
  refine ⟨Json.spelling_print (toJson x), ?_⟩
  rw [read?, write, Json.read?_print]
  exact restored

end Document

namespace Json

open Document (Restored)

/-! ## Integers, lists and fields -/

theorem toInt?_ofInt (i : Int) : (Numeral.ofInt i).toInt? = some i := by
  by_cases negative : i < 0
  · have magnitude : i.natAbs ≠ 0 := by omega
    have signed : -(i.natAbs : Int) = i := by omega
    simp only [Numeral.toInt?, Numeral.ofInt, negative, decide_true, List.isEmpty_nil,
      Option.isNone_none, Bool.and_self, if_true, if_neg magnitude, signed]
  · have signed : (i.natAbs : Int) = i := by omega
    simp only [Numeral.toInt?, Numeral.ofInt, negative, decide_false, List.isEmpty_nil,
      Option.isNone_none, Bool.and_self, if_true, Bool.false_eq_true, if_false, signed]

theorem toUInt64?_ofInt (n : UInt64) : (ofInt n.toNat).toUInt64? = some n := by
  have within : 0 ≤ (n.toNat : Int) ∧ (n.toNat : Int) < UInt64.size :=
    ⟨Int.natCast_nonneg _, Int.ofNat_lt.mpr n.toNat_lt_size⟩
  rw [ofInt, toUInt64?, toInt?_ofInt, Option.bind_some, if_pos within, Int.toNat_natCast,
    UInt64.ofNat_toNat]

theorem toInt64?_ofInt (i : Int64) : (ofInt i.toInt).toInt64? = some i := by
  have within := And.intro i.minValue_le_toInt i.toInt_le
  rw [ofInt, toInt64?, toInt?_ofInt, Option.bind_some, if_pos within, Int64.ofInt_toInt]

theorem mapM_map_of_restored {α : Type} [Document α] {room : Nat} {items : List α}
    (restored : ∀ item ∈ items, Restored room item) :
    (items.map Document.toJson).mapM (Document.ofJson? room) = some items := by
  have read := mapM_map_of_forall (h := id) restored
  rwa [List.map_id] at read

theorem toList?_map {α : Type} [Document α] {room : Nat} {items : List α}
    (restored : ∀ item ∈ items, Restored room item) :
    (array (items.map Document.toJson)).toList? Document.ofJson? (room + 1) = some items :=
  mapM_map_of_restored restored

/-- A field is given if exactly one field has its name, and missing if none has. -/
theorem field?_of_filter {fields : List (String × Json)} {name : String} {value? : Option Json}
    (once : fields.filter (fun field => field.1 = name) = (value?.map (name, ·)).toList) :
    field? (fields.map fun field => (some field.1, field.2)) name = some value? := by
  have given : (fields.map fun field => (some field.1, field.2)).filter
        (fun field : Option String × Json => field.1 = some name) =
      (value?.map (some name, ·)).toList := by
    simp only [List.filter_map, Function.comp_def, Option.some.injEq, once]
    cases value? <;> rfl
  rw [field?, given]
  cases value? <;> rfl

/-- Where all names differ, one field has the name of a given field. -/
theorem filter_of_nodup {α : Type} {fields : List (String × α)} (distinct : (fields.map Prod.fst).Nodup)
    {field : String × α} (given : field ∈ fields) :
    fields.filter (fun other => other.1 = field.1) = [field] := by
  induction fields with
  | nil => cases given
  | cons first rest ih =>
    obtain ⟨new, distinct⟩ := List.nodup_cons.mp distinct
    rcases List.mem_cons.mp given with rfl | later
    · have others : rest.filter (fun other => other.1 = field.1) = [] := by
        refine List.filter_eq_nil_iff.mpr fun other member same => new ?_
        have among := List.mem_map_of_mem (f := Prod.fst) member
        rwa [of_decide_eq_true same] at among
      simp [others]
    · -- the first field would be a second one of this name
      have other : first.1 ≠ field.1 := by
        intro same
        have among := List.mem_map_of_mem (f := Prod.fst) later
        rw [← same] at among
        exact new among
      simp [other, ih distinct later]

theorem toFields?_ofFields {fields : List (String × Json)} {names : List String}
    (listed : fields.map Prod.fst = names) (distinct : names.Nodup) (room : Nat) :
    (ofFields fields).toFields? names (room + 1) =
      some (fields.map fun field => some field.2) := by
  subst listed
  have keys : (fields.map fun field => (some field.1, field.2)).all
      (fun field : Option String × Json => field.1.isSome) = true := by simp
  rw [ofFields, toFields?, if_pos keys]
  exact mapM_map_of_forall fun field given => field?_of_filter (filter_of_nodup distinct given)

/-- A record of one list is taken from the object with this list as its only field. -/
theorem record_of_list {α β : Type} [Document α] (record : List α → β) (name : String)
    {items : List α} {room : Nat} (restored : ∀ item ∈ items, Restored room item) :
    (match (ofFields [(name, array (items.map Document.toJson))]).toFields? [name] (room + 2) with
      | some [some list] => (list.toList? Document.ofJson? (room + 1)).map record
      | _ => none) = some (record items) := by
  rw [toFields?_ofFields]
  · exact congrArg (Option.map record) (toList?_map restored)
  · rfl
  · exact List.pairwise_singleton _ name

end Json

open Document (Restored RoundTrip)

theorem ValueType.ofName?_name (type : ValueType) : ofName? type.name = some type := by
  cases type <;> rfl

theorem ValueType.restored (type : ValueType) (room : Nat) : Restored room type :=
  ofName?_name type

/-- The number is read back from its numeral. -/
def Binary64.ReadsBack (x : Binary64) : Prop := ∀ n ∈ x.numeral?, n.toBinary64? = some x

/-- The timestamp is read back from its text. -/
def Timestamp.ReadsBack (t : Timestamp) : Prop := Rfc3339.read? (Rfc3339.write t) = some t

theorem Binary64.exists_numeral {x : Binary64} (finite : x.isFinite = true) :
    ∃ n, x.numeral? = some n := ⟨_, if_pos finite⟩

namespace Value

/-- Values with so many levels of arrays at most, whose numbers are finite and read back, as their
timestamps are. -/
inductive Faithful : Nat → Value → Prop
  | null {depth : Nat} : Faithful depth null
  | string {depth : Nat} {text : String} : Faithful depth (string text)
  | integer {depth : Nat} {i : Int64} : Faithful depth (integer i)
  | boolean {depth : Nat} {b : Bool} : Faithful depth (boolean b)
  | number {depth : Nat} {x : Binary64} (finite : x.isFinite = true) (back : x.ReadsBack) :
    Faithful depth (number x)
  | dateTime {depth : Nat} {t : Timestamp} (back : t.ReadsBack) : Faithful depth (dateTime t)
  | array {depth : Nat} {items : List Value} (faithful : ∀ item ∈ items, Faithful depth item) :
    Faithful (depth + 1) (array items)

theorem allToJson_eq (items : List Value) : allToJson items = items.map toJson := by
  induction items with
  | nil => rfl
  | cons item rest ih => rw [allToJson, ih, List.map_cons]

theorem restored_null (room : Nat) : Restored room null :=
  match room with
  | 0 | 1 | _ + 2 => rfl

theorem restored_array {items : List Value} {room : Nat}
    (restored : ∀ item ∈ items, Restored room item) : Restored (room + 2) (array items) := by
  have read := Json.mapM_map_of_restored restored
  change ofJson? (room + 2) (tagged .array (.array (allToJson items))) = _
  rw [allToJson_eq, tagged, Json.ofFields, List.map_cons, List.map_nil, ofJson?, if_pos rfl]
  exact congrArg (Option.map array) read

/-- Other values are taken from their content. -/
theorem restored_tagged {value : Value} {type : ValueType} {content : Json}
    (written : value.toJson = tagged type content) (held : ofContent? type content = some value)
    (room : Nat) : Restored (room + 1) value := by
  have named := ValueType.ofName?_name type
  change ofJson? (room + 1) value.toJson = _
  rw [written]
  -- null and arrays, which are read in other ways, are the content of no such value
  cases content with
  | null | array items => cases type <;> cases held
  | _ => cases room <;> simp [ofJson?, tagged, Json.ofFields, Json.toName?, named, held]

/-- Every level of arrays takes two brackets, and what is not an array one at most. -/
theorem restored_of_faithful {depth room : Nat} {value : Value} (faithful : Faithful depth value)
    (fits : 2 * depth ≤ room) : Restored (room + 1) value := by
  induction faithful generalizing room with
  | null => exact restored_null (room + 1)
  | string | boolean => exact restored_tagged rfl rfl room
  | @integer _ i =>
    have held : ofContent? .integer (.ofInt i.toInt) = some (integer i) := by
      rw [ofContent?, Json.toInt64?_ofInt]
      rfl
    exact restored_tagged rfl held room
  | @number _ x finite back =>
    obtain ⟨n, numeral⟩ := Binary64.exists_numeral finite
    have written : (number x).toJson = tagged .number (.number n) := by
      change tagged .number (x.numeral?.elim .null .number) = _
      rw [numeral]
      rfl
    have held : ofContent? .number (.number n) = some (number x) := by
      rw [ofContent?, Json.toBinary64?, back n numeral]
      rfl
    exact restored_tagged written held room
  | @dateTime _ t back =>
    have held : ofContent? .dateTime (.ofText (Rfc3339.write t)) = some (dateTime t) := by
      rw [ofContent?, Json.ofText, Json.toText?, Option.bind_some, back]
      rfl
    exact restored_tagged rfl held room
  | array _ ih =>
    -- the object and the array inside it take two of the brackets, and the items share the others
    obtain ⟨inside, rfl⟩ := Nat.exists_eq_add_of_le' (show 2 ≤ room by omega)
    apply restored_array
    exact fun item member => ih item member (by omega)

end Value

/-! ## Records -/

theorem Column.restored (column : Column) (room : Nat) : Restored (room + 1) column := by
  simp only [Restored, Document.toJson, Document.ofJson?]
  rw [Json.toFields?_ofFields]
  · change (ValueType.ofName? column.type.name).bind (some <| Column.mk column.name ·) = _
    rw [ValueType.ofName?_name]
    rfl
  · rfl
  · decide

theorem Schema.restored (schema : Schema) (room : Nat) : Restored (room + 3) schema :=
  Json.record_of_list Schema.mk "columns" fun column _ => column.restored room

theorem SortKey.restored (key : SortKey) (room : Nat) : Restored (room + 1) key := by
  simp only [Restored, Document.toJson, Document.ofJson?]
  rw [Json.toFields?_ofFields]
  · simp [Json.toUInt64?_ofInt, Json.toBool?]
  · rfl
  · decide

theorem RowOrder.restored (order : RowOrder) (room : Nat) : Restored (room + 3) order :=
  Json.record_of_list RowOrder.mk "items" fun key _ => key.restored room

theorem Row.restored_of_faithful {depth room : Nat} {row : Row}
    (faithful : ∀ value ∈ row.values, value.Faithful depth) (fits : 2 * depth ≤ room) :
    Restored (room + 3) row :=
  Json.record_of_list Row.mk "values" fun value member =>
    Value.restored_of_faithful (faithful value member) fits

/-- What is written is read back as it was. Of numbers and timestamps this is supposed, and there may be
sixty levels of arrays. -/
theorem written_read_back :
    (∀ value : Value, value.Faithful 60 → RoundTrip value) ∧
    (∀ row : Row, (∀ value ∈ row.values, value.Faithful 60) → RoundTrip row) ∧
    (∀ column : Column, RoundTrip column) ∧ (∀ schema : Schema, RoundTrip schema) ∧
    (∀ key : SortKey, RoundTrip key) ∧ (∀ order : RowOrder, RoundTrip order) ∧
    (∀ type : ValueType, RoundTrip type) := by
  refine ⟨fun value faithful => ?_, fun row faithful => ?_, fun column => ?_, fun schema => ?_,
    fun key => ?_, fun order => ?_, fun type => ?_⟩
  all_goals apply Restored.roundTrip
  · exact Value.restored_of_faithful faithful (show 2 * 60 ≤ 126 by decide)
  · exact Row.restored_of_faithful faithful (show 2 * 60 ≤ 124 by decide)
  · exact column.restored 126
  · exact schema.restored 124
  · exact key.restored 126
  · exact order.restored 124
  · exact type.restored 127

/-- A row of an array, which holds all kinds of values two levels deep, and of NULL. -/
theorem mixed_row_read_back :
    let inner : Value := .array [.number ⟨0x3FF8000000000000⟩, .null, .boolean true]
    let outer : Value := .array
      [inner, .integer Int64.minValue, .string "tab\t \"quoted\"",
        .dateTime ⟨-1, 1500000000, by decide⟩]
    outer.Faithful 60 ∧ RoundTrip outer ∧ RoundTrip (Row.mk [outer, .null]) := by
  intro inner outer
  have half : Binary64.ReadsBack ⟨0x3FF8000000000000⟩ := by
    unfold Binary64.ReadsBack
    decide +kernel
  have leap : Timestamp.ReadsBack ⟨-1, 1500000000, by decide⟩ := by
    unfold Timestamp.ReadsBack
    decide +kernel
  have inside : ∀ item ∈ [Value.number ⟨0x3FF8000000000000⟩, .null, .boolean true], item.Faithful 58 := by
    simp only [List.forall_mem_cons]
    exact ⟨.number (by decide +kernel) half, .null, .boolean, nofun⟩
  have faithful : outer.Faithful 60 := by
    refine .array (List.forall_mem_cons.mpr ⟨.array inside, ?_⟩)
    simp only [List.forall_mem_cons]
    exact ⟨.integer, .string, .dateTime leap, nofun⟩
  refine ⟨faithful, written_read_back.1 outer faithful, written_read_back.2.1 ⟨[outer, .null]⟩ ?_⟩
  exact List.forall_mem_cons.mpr ⟨faithful, List.forall_mem_singleton.mpr .null⟩

end RowMerge
