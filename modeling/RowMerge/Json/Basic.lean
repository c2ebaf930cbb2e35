import RowMerge.Json.Token
/-!
# Documents

A document is a tree of nulls, booleans, numerals, texts, arrays and objects. It is written as the
list of its tokens without spaces. It is read by a machine that takes the tokens one by one and
keeps the arrays and objects that are open, so that the depth of a document is no limit to reading
it. Objects keep their fields in order, and fields of one name may recur.
-/
namespace RowMerge

/-- A tree of the document format. A text may be missing where the document spells half of a
surrogate pair, which is well formed but belongs to no text. -/
inductive Json where
  | null
  | boolean (b : Bool)
  | number (n : Numeral)
  | string (text : Option String)
  | array (items : List Json)
  | object (fields : List (Option String × Json))

namespace Json

/-! ## Writing -/

/-- Runs of tokens with a comma between two of them. -/
def commaSeparated (runs : List (List Token)) : List Token := [Token.comma].intercalate runs

mutual

def tokens : Json → List Token
  | null => [.null]
  | boolean b => [.boolean b]
  | number n => [.number n]
  | string text => [.string text]
  | array items => .openArray :: (commaSeparated (itemTokens items) ++ [.closeArray])
  | object fields => .openObject :: (commaSeparated (fieldTokens fields) ++ [.closeObject])

def itemTokens : List Json → List (List Token)
  | [] => []
  | item :: rest => tokens item :: itemTokens rest

def fieldTokens : List (Option String × Json) → List (List Token)
  | [] => []
  | (key, value) :: rest => (.string key :: .colon :: tokens value) :: fieldTokens rest

end

/-- The document without spaces. -/
def print (document : Json) : String := String.ofList (document.tokens.flatMap Token.text)

/-! ## Reading -/

/-- An array or object that is open around the value being read, with the members read before that
value, the last one first. -/
inductive Frame where
  | array (items : List Json)
  | object (fields : List (Option String × Json)) (key : Option String)

/-- What may come next. -/
inductive Expectation where
  | value
  | itemOrClose
  | keyOrClose
  | key (fields : List (Option String × Json))
  | colon (fields : List (Option String × Json)) (key : Option String)
  | afterValue (value : Json)

/-- What has been read of a document. -/
structure Reader where
  frames : List Frame
  expectation : Expectation

namespace Reader

def start : Reader := ⟨[], .value⟩

/-- The reader after the first token of a value. -/
def beginValue (frames : List Frame) : Token → Option Reader
  | .null => some ⟨frames, .afterValue .null⟩
  | .boolean b => some ⟨frames, .afterValue (.boolean b)⟩
  | .number n => some ⟨frames, .afterValue (.number n)⟩
  | .string text => some ⟨frames, .afterValue (.string text)⟩
  | .openArray => some ⟨frames, .itemOrClose⟩
  | .openObject => some ⟨frames, .keyOrClose⟩
  | _ => none

/-- The reader after a token that follows a complete value. -/
def endValue (value : Json) : List Frame → Token → Option Reader
  | .array items :: frames, .comma => some ⟨.array (value :: items) :: frames, .value⟩
  | .array items :: frames, .closeArray =>
    some ⟨frames, .afterValue (.array (value :: items).reverse)⟩
  | .object fields key :: frames, .comma => some ⟨frames, .key ((key, value) :: fields)⟩
  | .object fields key :: frames, .closeObject =>
    some ⟨frames, .afterValue (.object ((key, value) :: fields).reverse)⟩
  | _, _ => none

def step (reader : Reader) (token : Token) : Option Reader :=
  match reader.expectation, token with
  | .value, _ => beginValue reader.frames token
  | .itemOrClose, .closeArray => some ⟨reader.frames, .afterValue (.array [])⟩
  | .itemOrClose, _ => beginValue (.array [] :: reader.frames) token
  | .keyOrClose, .closeObject => some ⟨reader.frames, .afterValue (.object [])⟩
  | .keyOrClose, .string key => some ⟨reader.frames, .colon [] key⟩
  | .key fields, .string key => some ⟨reader.frames, .colon fields key⟩
  | .colon fields key, .colon => some ⟨.object fields key :: reader.frames, .value⟩
  | .afterValue value, _ => endValue value reader.frames token
  | _, _ => none

/-- The document, if one is complete and nothing is open. -/
def document? (reader : Reader) : Option Json :=
  match reader.frames, reader.expectation with
  | [], .afterValue value => some value
  | _, _ => none

end Reader

def ofTokens? (tokens : List Token) : Option Json :=
  (tokens.foldlM Reader.step Reader.start).bind Reader.document?

def read? (text : String) : Option Json := (Token.lex text.toList).bind ofTokens?

end Json

end RowMerge
