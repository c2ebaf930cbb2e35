import RowMerge.Json.Basic
import RowMerge.Proofs.TokenSpelling

/-!
# The texts of a document

A text of a document is a text of its tokens. Whatever is open around a value, the reader takes the tokens of
the value and stands behind it then, with the same arrays and objects open: this is by induction on the value,
one member after the other. In the other direction, what a reader holds always tells which tokens it has taken,
and every step adds one. So a text is read as a document exactly if it is one of the document's texts; in
particular a document is read back from what it is printed as.
-/
namespace RowMerge.Json

open Token (Separated Spaced)

/-- The ways to write a document. -/
def Spelling (document : Json) (text : String) : Prop := Spaced document.tokens text.toList

/-! ## Members -/

/-- The values directly inside an array or object. -/
def members : Json → List Json
  | array items => items
  | object fields => fields.map Prod.snd
  | _ => []

/-- What holds of a document as soon as it holds of its members holds of every document. -/
@[elab_as_elim]
theorem members_induction {motive : Json → Prop}
    (step : ∀ document, (∀ member ∈ document.members, motive member) → motive document)
    (document : Json) : motive document := by
  refine Json.rec (motive_1 := motive) (motive_2 := fun items => ∀ item ∈ items, motive item)
    (motive_3 := fun fields => ∀ value ∈ fields.map Prod.snd, motive value)
    (motive_4 := fun field => motive field.2) ?_ ?_ ?_ ?_ ?_ ?_ ?_ ?_ ?_ ?_ ?_ document
  case refine_5 => exact fun items ih => step (array items) ih
  case refine_6 => exact fun fields ih => step (object fields) ih
  case refine_7 => exact nofun
  case refine_8 => exact fun item items first rest => List.forall_mem_cons.mpr ⟨first, rest⟩
  case refine_9 => exact nofun
  case refine_10 => exact fun field fields first rest => List.forall_mem_cons.mpr ⟨first, rest⟩
  case refine_11 => exact fun key value holds => holds
  all_goals intros; exact step _ nofun

/-- The tokens of a field. -/
def fieldRun (field : Option String × Json) : List Token :=
  .string field.1 :: .colon :: field.2.tokens

theorem itemTokens_eq (items : List Json) : itemTokens items = items.map tokens := by
  induction items with
  | nil => rfl
  | cons item rest ih => rw [itemTokens, ih, List.map_cons]

theorem fieldTokens_eq (fields : List (Option String × Json)) :
    fieldTokens fields = fields.map fieldRun := by
  induction fields with
  | nil => rfl
  | cons field rest ih => rw [fieldTokens, ih, List.map_cons, fieldRun]

/-! ## Values do not follow each other -/

/-- Behind the run a mark may follow, or nothing. -/
def Closes (run : List Token) : Prop :=
  ∀ rest, Separated rest → (∀ next ∈ rest.head?, next.isMark = true) → Separated (run ++ rest)

theorem separated_commaSeparated {runs : List (List Token)} (closes : ∀ run ∈ runs, Closes run)
    {rest : List Token} (separated : Separated rest)
    (marked : ∀ next ∈ rest.head?, next.isMark = true) :
    Separated (commaSeparated runs ++ rest) := by
  induction runs with
  | nil => exact separated
  | cons run runs ih =>
    obtain ⟨here, behind⟩ := List.forall_mem_cons.mp closes
    cases runs with
    | nil =>
      rw [commaSeparated, List.intercalate_singleton]
      exact here rest separated marked
    | cons next runs =>
      rw [commaSeparated, List.intercalate_cons_cons, List.append_assoc, List.append_assoc]
      exact here _ ⟨.inl rfl, ih behind⟩ (by rintro _ ⟨⟩; rfl)

theorem closes_tokens (document : Json) : Closes document.tokens := by
  induction document using members_induction with
  | step document ih =>
    intro rest separated marked
    cases document with
    | array items =>
      rw [tokens, List.cons_append, List.append_assoc, itemTokens_eq]
      refine ⟨.inl rfl, separated_commaSeparated ?_ ⟨.inl rfl, separated⟩ (by rintro _ ⟨⟩; rfl)⟩
      exact List.forall_mem_map.mpr ih
    | object fields =>
      rw [tokens, List.cons_append, List.append_assoc, fieldTokens_eq]
      refine ⟨.inl rfl, separated_commaSeparated ?_ ⟨.inl rfl, separated⟩ (by rintro _ ⟨⟩; rfl)⟩
      refine List.forall_mem_map.mpr fun field member after separated marked => ?_
      have value := ih field.2 (List.mem_map_of_mem member) after separated marked
      exact ⟨.inr (by rintro _ ⟨⟩; rfl), .inl rfl, value⟩
    | _ => exact ⟨.inr marked, separated⟩

theorem separated_tokens (document : Json) : Separated document.tokens := by
  have closed := closes_tokens document [] trivial nofun
  rwa [List.append_nil] at closed

/-! ## Reading tokens -/

namespace Reader

/-- The reader takes the tokens one after the other. -/
def Takes (before : Reader) (run : List Token) (after : Reader) : Prop :=
  run.foldlM step before = some after

variable {r s t : Reader} {run more : List Token}

theorem Takes.cons {token : Token} (first : step r token = some s) (rest : Takes s run t) :
    Takes r (token :: run) t := by
  rw [Takes, List.foldlM_cons, first]
  exact rest

theorem Takes.append (first : Takes r run s) (rest : Takes s more t) : Takes r (run ++ more) t := by
  rw [Takes, List.foldlM_append, first]
  exact rest

/-- How the members of an array or object are read. The members read before are listed with the last one
first. -/
structure Enclosure (α : Type) where
  run : α → List Token
  ready : List α → Reader
  behind : α → List α → Reader
  mark : Token
  closed : List α → Reader
  comma : ∀ member before, step (behind member before) .comma = some (ready (member :: before))
  close : ∀ member before,
    step (behind member before) mark = some (closed (member :: before).reverse)

def insideArray (frames : List Frame) : Enclosure Json where
  run := tokens
  ready before := ⟨.array before :: frames, .value⟩
  behind item before := ⟨.array before :: frames, .afterValue item⟩
  mark := .closeArray
  closed members := ⟨frames, .afterValue (.array members)⟩
  comma _ _ := rfl
  close _ _ := rfl

def insideObject (frames : List Frame) : Enclosure (Option String × Json) where
  run := fieldRun
  ready before := ⟨frames, .key before⟩
  behind field before := ⟨.object before field.1 :: frames, .afterValue field.2⟩
  mark := .closeObject
  closed members := ⟨frames, .afterValue (.object members)⟩
  comma _ _ := rfl
  close _ _ := rfl

/-- If it takes each of the members, the reader takes the members that are left and the mark behind them. -/
theorem Enclosure.takes {α : Type} (enclosure : Enclosure α) {member : α} {members : List α}
    (reads : ∀ m ∈ member :: members, ∀ before,
      Takes (enclosure.ready before) (enclosure.run m) (enclosure.behind m before))
    (before : List α) :
    Takes (enclosure.ready before)
      (commaSeparated ((member :: members).map enclosure.run) ++ [enclosure.mark])
      (enclosure.closed (before.reverse ++ member :: members)) := by
  have here := reads member List.mem_cons_self before
  induction members generalizing member before with
  | nil =>
    simp only [commaSeparated, List.map_cons, List.map_nil, List.intercalate_singleton]
    rw [← List.reverse_cons]
    exact here.append (.cons (enclosure.close member before) rfl)
  | cons next rest ih =>
    have others := (List.forall_mem_cons.mp reads).2
    have later := ih others (member :: before) (others next List.mem_cons_self _)
    simp only [commaSeparated, List.map_cons, List.reverse_cons, List.append_assoc,
      List.intercalate_cons_cons] at later ⊢
    exact here.append (.cons (enclosure.comma member before) later)

/-- The first item is taken as any other. -/
theorem Takes.first_item {frames : List Frame} {item : Json} {rest : List Token}
    (takes : Takes ⟨.array [] :: frames, .value⟩ (item.tokens ++ rest) t) :
    Takes ⟨frames, .itemOrClose⟩ (item.tokens ++ rest) t := by
  cases item <;> exact takes

/-- The first field is taken as any other. -/
theorem Takes.first_field {frames : List Frame} {field : Option String × Json}
    {rest : List Token} (takes : Takes ⟨frames, .key []⟩ (fieldRun field ++ rest) t) :
    Takes ⟨frames, .keyOrClose⟩ (fieldRun field ++ rest) t := takes

theorem exists_commaSeparated_cons (run : List Token) (runs : List (List Token)) :
    ∃ rest, commaSeparated (run :: runs) = run ++ rest := by
  cases runs with
  | nil => exact ⟨[], by simp [commaSeparated]⟩
  | cons next runs =>
    rw [commaSeparated, List.intercalate_cons_cons, List.append_assoc]
    exact ⟨_, rfl⟩

/-- Whatever is open around a value, the reader takes its tokens and then stands behind the value. -/
theorem takes_tokens (document : Json) (frames : List Frame) :
    Takes ⟨frames, .value⟩ document.tokens ⟨frames, .afterValue document⟩ := by
  induction document using members_induction generalizing frames with
  | step document ih =>
    cases document with
    | array members =>
      rw [tokens, itemTokens_eq]
      cases members with
      | nil => exact .cons rfl (.cons rfl rfl)
      | cons item rest =>
        have read : Takes ⟨.array [] :: frames, .value⟩
            (commaSeparated (item.tokens :: rest.map tokens) ++ [Token.closeArray])
            ⟨frames, .afterValue (.array (item :: rest))⟩ :=
          (insideArray frames).takes (fun member place before => ih member place _) []
        -- before the first item the array may end as well
        obtain ⟨behind, parts⟩ := exists_commaSeparated_cons item.tokens (rest.map tokens)
        rw [parts, List.append_assoc] at read
        rw [List.map_cons, parts, List.append_assoc]
        exact .cons rfl read.first_item
    | object members =>
      rw [tokens, fieldTokens_eq]
      cases members with
      | nil => exact .cons rfl (.cons rfl rfl)
      | cons field rest =>
        have value := List.forall_mem_map.mp ih
        have read : Takes ⟨frames, .key []⟩
            (commaSeparated (fieldRun field :: rest.map fieldRun) ++ [Token.closeObject])
            ⟨frames, .afterValue (.object (field :: rest))⟩ := by
          refine (insideObject frames).takes (fun member place before => ?_) []
          -- the key and the colon come first
          exact .cons rfl (.cons rfl (value member place _))
        obtain ⟨behind, parts⟩ := exists_commaSeparated_cons (fieldRun field) (rest.map fieldRun)
        rw [parts, List.append_assoc] at read
        rw [List.map_cons, parts, List.append_assoc]
        exact .cons rfl read.first_field
    | _ => rfl

end Reader

/-! ## The tokens taken -/

/-- Members that are each followed by a comma. -/
def memberTokens (runs : List (List Token)) : List Token := runs.flatMap (· ++ [.comma])

theorem commaSeparated_concat (runs : List (List Token)) (last : List Token) :
    commaSeparated (runs ++ [last]) = memberTokens runs ++ last := by
  induction runs with
  | nil => simp [commaSeparated, memberTokens]
  | cons run runs ih =>
    rw [commaSeparated] at ih
    rw [List.cons_append, commaSeparated, List.intercalate_cons_of_ne_nil (by simp), ih]
    simp [memberTokens]

/-- The tokens of what is open around the value being read, up to that value. -/
def Frame.taken : Frame → List Token
  | .array items => .openArray :: memberTokens (items.reverse.map tokens)
  | .object fields key =>
    .openObject :: (memberTokens (fields.reverse.map fieldRun) ++ [.string key, .colon])

/-- The tokens taken since the last value was due. -/
def Expectation.taken : Expectation → List Token
  | .value => []
  | .itemOrClose => [.openArray]
  | .keyOrClose => [.openObject]
  | .key fields => .openObject :: memberTokens (fields.reverse.map fieldRun)
  | .colon fields name =>
    .openObject :: (memberTokens (fields.reverse.map fieldRun) ++ [.string name])
  | .afterValue document => document.tokens

namespace Reader

/-- All tokens taken so far. -/
def taken (reader : Reader) : List Token :=
  reader.frames.reverse.flatMap Frame.taken ++ reader.expectation.taken

theorem taken_beginValue {frames : List Frame} {token : Token}
    (moved : beginValue frames token = some s) :
    s.taken = frames.reverse.flatMap Frame.taken ++ [token] := by
  cases token
  all_goals cases moved
  all_goals simp [taken, Expectation.taken, tokens]

theorem taken_endValue {value : Json} {frames : List Frame} {token : Token}
    (moved : endValue value frames token = some s) :
    s.taken = frames.reverse.flatMap Frame.taken ++ value.tokens ++ [token] := by
  unfold endValue at moved
  split at moved
  case h_5 => cases moved
  all_goals
    cases moved
    simp [taken, Frame.taken, Expectation.taken, memberTokens, fieldRun, tokens, itemTokens_eq,
      fieldTokens_eq, commaSeparated_concat]

/-- Every step takes one token. -/
theorem taken_step {token : Token} (moved : step r token = some s) :
    s.taken = r.taken ++ [token] := by
  obtain ⟨frames, expectation⟩ := r
  cases expectation with
  | value => simpa [taken, Expectation.taken] using taken_beginValue moved
  | itemOrClose =>
    -- a bracket ends the array, and any other token begins its first item
    by_cases closes : token = .closeArray
    · subst closes
      cases moved
      simp [taken, Expectation.taken, tokens, itemTokens, commaSeparated]
    · have begun : beginValue (.array [] :: frames) token = some s := by
        cases token <;> first
          | exact moved
          | exact absurd rfl closes
      simpa [taken, Frame.taken, Expectation.taken, memberTokens] using taken_beginValue begun
  | afterValue value => simpa [taken, Expectation.taken] using taken_endValue moved
  | keyOrClose =>
    cases token
    all_goals cases moved
    all_goals simp [taken, Expectation.taken, memberTokens, tokens, fieldTokens, commaSeparated]
  | key fields =>
    cases token
    all_goals cases moved
    simp [taken, Expectation.taken]
  | colon fields key =>
    cases token
    all_goals cases moved
    simp [taken, Frame.taken, Expectation.taken]

theorem taken_of_takes (takes : Takes r run s) : s.taken = r.taken ++ run := by
  induction run generalizing r with
  | nil =>
    cases takes
    simp
  | cons token rest ih =>
    rw [Takes, List.foldlM_cons] at takes
    obtain ⟨next, moved, takes⟩ := Option.bind_eq_some_iff.mp takes
    rw [ih takes, taken_step moved, List.append_assoc]
    rfl

end Reader

/-! ## Reading texts -/

theorem ofTokens?_eq_some_iff {run : List Token} {document : Json} :
    ofTokens? run = some document ↔ run = document.tokens := by
  constructor
  · intro read
    obtain ⟨reader, takes, complete⟩ := Option.bind_eq_some_iff.mp read
    -- nothing was taken before the start, and at the end the document is all that was taken
    have taken := Reader.taken_of_takes takes
    unfold Reader.document? at complete
    split at complete
    next nothing_open behind =>
      cases complete
      rw [Reader.taken, nothing_open, behind] at taken
      exact taken.symm
    next => cases complete
  · rintro rfl
    exact Option.bind_eq_some_iff.mpr ⟨_, Reader.takes_tokens document [], rfl⟩

/-- A text is read as a document exactly if it is one of the document's texts. -/
theorem read?_eq_some_iff {text : String} {document : Json} :
    read? text = some document ↔ document.Spelling text := by
  constructor
  · intro read
    obtain ⟨run, lexed, read⟩ := Option.bind_eq_some_iff.mp read
    rw [ofTokens?_eq_some_iff.mp read] at lexed
    exact Token.spaced_of_lex lexed
  · intro spelled
    have lexed := Token.lex_of_spaced spelled document.separated_tokens
    exact Option.bind_eq_some_iff.mpr ⟨_, lexed, ofTokens?_eq_some_iff.mpr rfl⟩

theorem spelling_print (document : Json) : document.Spelling document.print := by
  rw [Spelling, print, String.toList_ofList]
  exact Token.spaced_text document.tokens

/-- A document is read back from what it is printed as. -/
theorem read?_print (document : Json) : read? document.print = some document :=
  read?_eq_some_iff.mpr document.spelling_print

end RowMerge.Json
