import RowMerge.Json.Token
import RowMerge.Proofs.NumeralSpelling

/-!
# The spellings of tokens

A character of a quoted text may stand as it is or as one of several escapes, numerals leave a choice in their
exponent, and all other tokens have one spelling. Tokens follow each other with any spaces before, between and
behind them.

The tokens of a text are found one by one from its front, and each is found from its own characters, numerals
excepted. A numeral is found if a space, a mark or nothing follows it, and that is so where no two tokens that
carry a value follow each other.
-/
namespace RowMerge.Json

namespace Quoted

/-! ## Quoted texts -/

/-- The ways to write code points between quotes. -/
inductive BodySpelling : List Nat → List Char → Prop
  | nil : BodySpelling [] []
  | plain {c : Char} {codes : List Nat} {text : List Char} (printable : 0x20 ≤ c.toNat)
      (no_quote : c ≠ '"') (no_escape : c ≠ '\\') (more : BodySpelling codes text) :
      BodySpelling (c.toNat :: codes) (c :: text)
  | escape {letter c : Char} {codes : List Nat} {text : List Char}
      (stands : escapedChar? letter = some c) (more : BodySpelling codes text) :
      BodySpelling (c.toNat :: codes) ('\\' :: letter :: text)
  | hex {a b c d : Char} {code : Nat} {codes : List Nat} {text : List Char}
      (digits : hexQuad? a b c d = some code) (more : BodySpelling codes text) :
      BodySpelling (code :: codes) ('\\' :: 'u' :: a :: b :: c :: d :: text)

/-- The ways to write a text. Code points that are no text have spellings as well. -/
inductive Spelling : Option String → List Char → Prop
  | intro {codes : List Nat} {text : List Char} (body : BodySpelling codes text) :
      Spelling ((joinSurrogates codes).map String.ofList) ('"' :: (text ++ ['"']))

theorem scanCodePoints_plain {c : Char} {rest : List Char} (printable : 0x20 ≤ c.toNat)
    (no_quote : c ≠ '"') (no_escape : c ≠ '\\') : scanCodePoints (c :: rest) =
      (scanCodePoints rest).map fun scanned => (c.toNat :: scanned.1, scanned.2) := by
  rw [scanCodePoints, if_neg (Nat.not_lt.mpr printable)]
  · exact no_quote
  all_goals intros; exact no_escape ‹c = '\\'›

theorem scanCodePoints_escape {letter c : Char} {rest : List Char}
    (stands : escapedChar? letter = some c) : scanCodePoints ('\\' :: letter :: rest) =
      (scanCodePoints rest).map fun scanned => (c.toNat :: scanned.1, scanned.2) := by
  rw [scanCodePoints, stands]
  -- the letter of the escapes with four digits stands for no character
  rintro a b c d after rfl
  cases stands

/-- The code points of a quoted text are read back from each of its spellings. -/
theorem scanCodePoints_of_spelling {codes : List Nat} {text : List Char}
    (spelled : BodySpelling codes text) (rest : List Char) :
    scanCodePoints (text ++ '"' :: rest) = some (codes, rest) := by
  induction spelled with
  | nil => rfl
  | plain printable no_quote no_escape _ ih =>
    rw [List.cons_append, scanCodePoints_plain printable no_quote no_escape, ih]
    rfl
  | escape stands _ ih =>
    rw [List.cons_append, List.cons_append, scanCodePoints_escape stands, ih]
    rfl
  | hex digits _ ih => simp [scanCodePoints, digits, ih]

/-- What is read up to a closing quote is one of the spellings of the code points. -/
theorem spelling_of_scanCodePoints {codes : List Nat} {text rest : List Char}
    (found : scanCodePoints text = some (codes, rest)) :
    ∃ spelled, BodySpelling codes spelled ∧ text = spelled ++ '"' :: rest := by
  -- a closing quote, four digits, an escape and a plain character are the cases that succeed
  fun_induction scanCodePoints text generalizing codes rest with
  | case1 => cases found
  | case2 after =>
    cases found
    exact ⟨[], .nil, rfl⟩
  | case3 => cases found
  | case4 a b c d after code digits ih =>
    obtain ⟨⟨codes', rest'⟩, scanned, equal⟩ := Option.map_eq_some_iff.mp found
    cases equal
    obtain ⟨spelled, body, rfl⟩ := ih scanned
    exact ⟨_, .hex digits body, rfl⟩
  | case5 => cases found
  | case6 letter after _ c stands ih =>
    obtain ⟨⟨codes', rest'⟩, scanned, equal⟩ := Option.map_eq_some_iff.mp found
    cases equal
    obtain ⟨spelled, body, rfl⟩ := ih scanned
    exact ⟨_, .escape stands body, rfl⟩
  | case7 => cases found
  | case8 => cases found
  | case9 c after no_quote _ no_escape no_end printable ih =>
    obtain ⟨⟨codes', rest'⟩, scanned, equal⟩ := Option.map_eq_some_iff.mp found
    cases equal
    obtain ⟨spelled, body, rfl⟩ := ih scanned
    refine ⟨_, .plain (Nat.not_lt.mp printable) no_quote ?_ body, rfl⟩
    rintro rfl
    -- a backslash does not stand at the end, so it would begin an escape
    cases spelled with
    | nil => exact no_escape _ _ rfl rfl
    | cons letter more => exact no_escape _ _ rfl rfl

theorem escapedChar?_of_escapeLetter? {c letter : Char} (stands : escapeLetter? c = some letter) :
    escapedChar? letter = some c := by
  unfold escapeLetter? at stands
  split at stands
  all_goals cases stands
  all_goals rfl

theorem hexValue?_digitChar : ∀ k : Fin 16, hexValue? k.val.digitChar = some k.val := by
  decide

theorem hexQuad?_of_control {code : Nat} (control : code < 0x20) :
    hexQuad? '0' '0' (code / 16).digitChar (code % 16).digitChar = some code := by
  have high := hexValue?_digitChar ⟨code / 16, by omega⟩
  have low := hexValue?_digitChar ⟨code % 16, by omega⟩
  have zero : hexValue? '0' = some 0 := rfl
  have value : code / 16 * 16 + code % 16 = code := by omega
  simp_all [hexQuad?]

theorem spelling_escapeChar (c : Char) {codes : List Nat} {text : List Char}
    (more : BodySpelling codes text) : BodySpelling (c.toNat :: codes) (escapeChar c ++ text) := by
  unfold escapeChar
  split
  next letter stands => exact .escape (escapedChar?_of_escapeLetter? stands) more
  next no_letter =>
    split
    next control => exact .hex (hexQuad?_of_control control) more
    next printable =>
      refine .plain (Nat.not_lt.mp printable) ?_ ?_ more
      all_goals rintro rfl; cases no_letter

/-- A quoted text is written in one of its spellings. -/
theorem spelling_write (content : Option String) : Spelling content (write content) := by
  cases content with
  | none =>
    have half : hexQuad? 'd' '8' '0' '0' = some 0xD800 := by decide
    have no_text : joinSurrogates [0xD800] = none := by decide
    have spelled := Spelling.intro (.hex half .nil)
    rw [no_text] at spelled
    exact spelled
  | some text =>
    have body : BodySpelling (text.toList.map Char.toNat) (text.toList.flatMap escapeChar) := by
      induction text.toList with
      | nil => exact .nil
      | cons c rest ih => exact spelling_escapeChar c ih
    have spelled := Spelling.intro body
    rwa [joinSurrogates_map_toNat, Option.map_some, String.ofList_toList] at spelled

end Quoted

namespace Token

/-! ## Tokens -/

/-- The ways to write a token. -/
def Spelling : Token → List Char → Prop
  | number n, text => n.Spelling text
  | string content, text => Quoted.Spelling content text
  | token, text => text = token.text

/-- Tokens one after the other, with any spaces before, between and behind them. -/
inductive Spaced : List Token → List Char → Prop
  | nil : Spaced [] []
  | space {c : Char} {tokens : List Token} {text : List Char} (space : isSpace c = true)
      (more : Spaced tokens text) : Spaced tokens (c :: text)
  | token {token : Token} {tokens : List Token} {first text : List Char}
      (spelled : token.Spelling first) (more : Spaced tokens text) :
      Spaced (token :: tokens) (first ++ text)

/-- The tokens that join and enclose values. -/
def isMark : Token → Bool
  | openArray | closeArray | openObject | closeObject | comma | colon => true
  | _ => false

/-- No two tokens that carry a value follow each other. -/
def Separated : List Token → Prop
  | [] => True
  | token :: rest =>
    (token.isMark = true ∨ ∀ next ∈ rest.head?, next.isMark = true) ∧ Separated rest

theorem spelling_text (token : Token) : token.Spelling token.text := by
  cases token with
  | number n => exact n.spelling_text
  | string content => exact Quoted.spelling_write content
  | _ => rfl

theorem spaced_text (tokens : List Token) : Spaced tokens (tokens.flatMap text) := by
  induction tokens with
  | nil => exact .nil
  | cons token rest ih => exact .token token.spelling_text ih

theorem scan_of_numeral {c : Char} {rest : List Char} (starts : c = '-' ∨ c.isDigit = true) :
    scan (c :: rest) =
      (Numeral.scan (c :: rest)).map fun scanned => (number scanned.1, scanned.2) := by
  -- no other token begins like a numeral
  have no_mark : punctuation? c = none := by
    unfold punctuation?
    split
    all_goals first
      | rfl
      | exact absurd starts (by decide)
  unfold scan
  split
  next other => cases other; exact absurd starts (by decide)
  next other => cases other; exact absurd starts (by decide)
  next other => cases other; exact absurd starts (by decide)
  next other => cases other; exact absurd starts (by decide)
  next same => cases same; rw [no_mark]
  next none => cases none

/-- A token is read back from each of its spellings. Marks may be followed by anything. -/
theorem scan_of_spelling {token : Token} {text rest : List Char} (spelled : token.Spelling text)
    (stops : token.isMark = true ∨ Numeral.Stops rest) :
    scan (text ++ rest) = some (token, rest) := by
  cases token with
  | number n =>
    obtain ⟨c, more, rfl, starts⟩ := Numeral.Spelling.starts spelled
    have scanned := Numeral.scan_of_spelling spelled (stops.resolve_left nofun)
    rw [List.cons_append] at scanned ⊢
    rw [scan_of_numeral starts, scanned]
    rfl
  | string content =>
    cases spelled with
    | @intro codes text body =>
      have scanned := Quoted.scanCodePoints_of_spelling body rest
      simp [scan, Quoted.scan, scanned]
  | boolean b => cases b <;> cases spelled <;> rfl
  | _ => cases spelled; rfl

/-- What is read as a token is one of its spellings. -/
theorem spelling_of_scan {token : Token} {text rest : List Char}
    (found : scan text = some (token, rest)) :
    ∃ spelled, token.Spelling spelled ∧ text = spelled ++ rest := by
  unfold scan at found
  split at found
  next after =>
    obtain ⟨⟨content, rest'⟩, scanned, equal⟩ := Option.map_eq_some_iff.mp found
    cases equal
    obtain ⟨⟨codes, rest''⟩, points, equal⟩ := Option.map_eq_some_iff.mp scanned
    cases equal
    obtain ⟨spelled, body, rfl⟩ := Quoted.spelling_of_scanCodePoints points
    exact ⟨_, .intro body, by simp⟩
  -- the three words have one spelling, as have the marks below
  next => cases found; exact ⟨_, rfl, rfl⟩
  next => cases found; exact ⟨_, rfl, rfl⟩
  next => cases found; exact ⟨_, rfl, rfl⟩
  next c after _ _ _ _ =>
    split at found
    next mark marked =>
      cases found
      unfold punctuation? at marked
      split at marked
      all_goals cases marked
      all_goals exact ⟨_, rfl, rfl⟩
    next =>
      obtain ⟨⟨n, rest'⟩, scanned, equal⟩ := Option.map_eq_some_iff.mp found
      cases equal
      exact Numeral.spelling_of_scan scanned
  next => cases found

/-! ## Sequences of tokens -/

theorem isSpace_eq_false_of_numeral {c : Char} (starts : c = '-' ∨ c.isDigit = true) :
    isSpace c = false := by
  cases space : isSpace c with
  | false => rfl
  | true =>
    simp only [isSpace, Bool.or_eq_true, beq_iff_eq] at space
    rcases space with ((rfl | rfl) | rfl) | rfl
    all_goals exact absurd starts (by decide)

/-- No token begins with a space. -/
theorem Spelling.begins {token : Token} {text : List Char} (spelled : token.Spelling text) :
    ∃ c rest, text = c :: rest ∧ isSpace c = false := by
  cases token with
  | number n =>
    obtain ⟨c, rest, rfl, starts⟩ := Numeral.Spelling.starts spelled
    exact ⟨c, rest, rfl, isSpace_eq_false_of_numeral starts⟩
  | string content =>
    cases spelled with
    | intro body => exact ⟨'"', _, rfl, rfl⟩
  | boolean b => cases b <;> exact ⟨_, _, spelled, rfl⟩
  | _ => exact ⟨_, _, spelled, rfl⟩

theorem stops_of_spaced {tokens : List Token} {text : List Char} (spaced : Spaced tokens text)
    (marked : ∀ next ∈ tokens.head?, next.isMark = true) : Numeral.Stops text := by
  cases spaced with
  | nil => exact nofun
  | @space c tokens text space _ =>
    rintro c ⟨⟩
    simp only [isSpace, Bool.or_eq_true, beq_iff_eq] at space
    rcases space with ((rfl | rfl) | rfl) | rfl
    all_goals decide
  | @token token tokens first text spelled _ =>
    have mark := marked token rfl
    -- the first character of a mark tells that no numeral goes on
    cases token with
    | null | boolean | number | string => cases mark
    | _ =>
      cases spelled
      rintro c ⟨⟩
      decide

theorem lex_of_scan {c : Char} {rest after : List Char} {token : Token}
    (no_space : isSpace c = false) (found : scan (c :: rest) = some (token, after)) :
    lex (c :: rest) = (lex after).map (token :: ·) := by
  rw [lex, no_space]
  simp only [Bool.false_eq_true, if_false]
  split
  next none => cases found.symm.trans none
  next token' after' found' =>
    cases found.symm.trans found'
    rfl

theorem lex_of_spaced {tokens : List Token} {text : List Char} (spaced : Spaced tokens text)
    (separated : Separated tokens) : lex text = some tokens := by
  induction spaced with
  | nil => simp [lex]
  | space space _ ih =>
    rw [lex, if_pos space]
    exact ih separated
  | @token token tokens first text spelled more ih =>
    obtain ⟨here, behind⟩ := separated
    -- behind a value stands a mark, so that a numeral stops there
    have scanned := scan_of_spelling spelled (here.imp_right (stops_of_spaced more))
    obtain ⟨c, rest, rfl, no_space⟩ := spelled.begins
    rw [List.cons_append] at scanned ⊢
    rw [lex_of_scan no_space scanned, ih behind]
    rfl

theorem spaced_of_lex {tokens : List Token} {text : List Char} (found : lex text = some tokens) :
    Spaced tokens text := by
  fun_induction lex text generalizing tokens with
  | case1 => cases found; exact .nil
  | case2 c rest space ih => exact .space space (ih found)
  | case3 => cases found
  | case4 c rest _ token after scanned ih =>
    obtain ⟨more, lexed, rfl⟩ := Option.map_eq_some_iff.mp found
    obtain ⟨spelled, here, parts⟩ := spelling_of_scan scanned
    rw [parts]
    exact .token here (ih lexed)

end Token

end RowMerge.Json
