/-!
# Quoted texts

How a text stands in a document: between quotes, with the quote, the backslash and the control
characters escaped and nothing else. Reading goes in two steps. The first finds the closing quote
and turns every character and escape into a code point; the second joins the surrogate pairs that
escapes may spell. A code point that is half of a pair and stands alone belongs to no text.
-/
namespace RowMerge.Json.Quoted

/-! ## Writing -/

/-- The letter that stands for a character after a backslash. -/
def escapeLetter? : Char → Option Char
  | '"' => some '"'
  | '\\' => some '\\'
  | '\x08' => some 'b'
  | '\x0c' => some 'f'
  | '\n' => some 'n'
  | '\r' => some 'r'
  | '\t' => some 't'
  | _ => none

def escapeChar (c : Char) : List Char :=
  match escapeLetter? c with
  | some letter => ['\\', letter]
  | none =>
    if c.toNat < 0x20 then
      ['\\', 'u', '0', '0', (c.toNat / 16).digitChar, (c.toNat % 16).digitChar]
    else [c]

/-- The text between quotes. What is no text is written as half of a surrogate pair. -/
def write : Option String → List Char
  | some text => '"' :: (text.toList.flatMap escapeChar ++ ['"'])
  | none => "\"\\ud800\"".toList

/-! ## Reading -/

def escapedChar? : Char → Option Char
  | '"' => some '"'
  | '\\' => some '\\'
  | '/' => some '/'
  | 'b' => some '\x08'
  | 'f' => some '\x0c'
  | 'n' => some '\n'
  | 'r' => some '\r'
  | 't' => some '\t'
  | _ => none

/-- The value of a hexadecimal digit of either case. -/
def hexValue? (c : Char) : Option Nat :=
  if c.isDigit then some (c.toNat - '0'.toNat)
  else if 'a' ≤ c ∧ c ≤ 'f' then some (c.toNat - 'a'.toNat + 10)
  else if 'A' ≤ c ∧ c ≤ 'F' then some (c.toNat - 'A'.toNat + 10)
  else none

def hexQuad? (a b c d : Char) : Option Nat := do
  return (← hexValue? a) * 4096 + (← hexValue? b) * 256 + (← hexValue? c) * 16 + (← hexValue? d)

/-- The code points up to the closing quote, and what follows it. No control character may stand
unescaped. -/
def scanCodePoints : List Char → Option (List Nat × List Char)
  | [] => none
  | '"' :: rest => some ([], rest)
  | '\\' :: 'u' :: a :: b :: c :: d :: rest =>
    match hexQuad? a b c d with
    | none => none
    | some code => (scanCodePoints rest).map fun scanned => (code :: scanned.1, scanned.2)
  | '\\' :: letter :: rest =>
    match escapedChar? letter with
    | none => none
    | some c => (scanCodePoints rest).map fun scanned => (c.toNat :: scanned.1, scanned.2)
  | ['\\'] => none
  | c :: rest =>
    if c.toNat < 0x20 then none
    else (scanCodePoints rest).map fun scanned => (c.toNat :: scanned.1, scanned.2)

def isHighSurrogate (code : Nat) : Bool := 0xD800 ≤ code && code ≤ 0xDBFF

def isLowSurrogate (code : Nat) : Bool := 0xDC00 ≤ code && code ≤ 0xDFFF

/-- The text of a list of code points, surrogate pairs joined. -/
def joinSurrogates : List Nat → Option (List Char)
  | [] => some []
  | [code] => if isHighSurrogate code || isLowSurrogate code then none else some [Char.ofNat code]
  | first :: second :: rest =>
    if isHighSurrogate first && isLowSurrogate second then
      (joinSurrogates rest).map
        (Char.ofNat (0x10000 + (first - 0xD800) * 0x400 + (second - 0xDC00)) :: ·)
    else if isHighSurrogate first || isLowSurrogate first then none
    else (joinSurrogates (second :: rest)).map (Char.ofNat first :: ·)

/-- The text up to the closing quote, if it is one, and what follows the quote. -/
def scan (text : List Char) : Option (Option String × List Char) :=
  (scanCodePoints text).map fun scanned => ((joinSurrogates scanned.1).map String.ofList, scanned.2)

theorem isHighSurrogate_toNat (c : Char) : isHighSurrogate c.toNat = false := by
  have valid := c.valid
  simp only [UInt32.isValidChar, Nat.isValidChar] at valid
  simp only [isHighSurrogate, Char.toNat, Bool.and_eq_false_iff, decide_eq_false_iff_not]
  omega

theorem isLowSurrogate_toNat (c : Char) : isLowSurrogate c.toNat = false := by
  have valid := c.valid
  simp only [UInt32.isValidChar, Nat.isValidChar] at valid
  simp only [isLowSurrogate, Char.toNat, Bool.and_eq_false_iff, decide_eq_false_iff_not]
  omega

/-- The code points of a text belong to that text. -/
theorem joinSurrogates_map_toNat (text : List Char) :
    joinSurrogates (text.map Char.toNat) = some text := by
  induction text with
  | nil => rfl
  | cons c rest ih =>
    cases rest with
    | nil => simp [joinSurrogates, isHighSurrogate_toNat, isLowSurrogate_toNat]
    | cons d rest =>
      simp only [List.map_cons] at ih ⊢
      simp [joinSurrogates, isHighSurrogate_toNat, isLowSurrogate_toNat, ih]

theorem scanCodePoints_length_lt {text rest : List Char} {codes : List Nat}
    (found : scanCodePoints text = some (codes, rest)) : rest.length < text.length := by
  fun_induction scanCodePoints text generalizing codes rest with
  | case1 => simp at found
  | case2 after =>
    simp only [Option.some.injEq, Prod.mk.injEq] at found
    simp [← found.2]
  | case3 => simp at found
  | case4 a b c d after code _ ih =>
    obtain ⟨scanned, scan, equal⟩ := Option.map_eq_some_iff.mp found
    have shorter := ih scan
    simp only [Prod.mk.injEq] at equal
    simp only [← equal.2, List.length_cons]
    omega
  | case5 => simp at found
  | case6 letter after _ c _ ih =>
    obtain ⟨scanned, scan, equal⟩ := Option.map_eq_some_iff.mp found
    have shorter := ih scan
    simp only [Prod.mk.injEq] at equal
    simp only [← equal.2, List.length_cons]
    omega
  | case7 => simp at found
  | case8 => simp at found
  | case9 c after _ _ _ _ _ ih =>
    obtain ⟨scanned, scan, equal⟩ := Option.map_eq_some_iff.mp found
    have shorter := ih scan
    simp only [Prod.mk.injEq] at equal
    simp only [← equal.2, List.length_cons]
    omega

/-- At least the closing quote is taken. -/
theorem scan_length_lt {text rest : List Char} {content : Option String}
    (found : scan text = some (content, rest)) : rest.length < text.length := by
  obtain ⟨scanned, scan, equal⟩ := Option.map_eq_some_iff.mp found
  simp only [Prod.mk.injEq] at equal
  rw [← equal.2]
  exact scanCodePoints_length_lt scan

end RowMerge.Json.Quoted
