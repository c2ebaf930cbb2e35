import RowMerge.Json.Quoted
import RowMerge.Number.Numeral
/-!
# Tokens of documents

A document is a sequence of tokens with any number of spaces, tabs and line ends between them. Two
tokens that carry a value never follow each other directly, so each token is read as long as it can
be without looking at what comes after it.
-/
namespace RowMerge.Json

inductive Token where
  | openArray
  | closeArray
  | openObject
  | closeObject
  | comma
  | colon
  | null
  | boolean (b : Bool)
  | number (n : Numeral)
  | string (text : Option String)
  deriving DecidableEq

namespace Token

def text : Token → List Char
  | openArray => ['[']
  | closeArray => [']']
  | openObject => ['\x7b']
  | closeObject => ['\x7d']
  | comma => [',']
  | colon => [':']
  | null => ['n', 'u', 'l', 'l']
  | boolean true => ['t', 'r', 'u', 'e']
  | boolean false => ['f', 'a', 'l', 's', 'e']
  | number n => n.text
  | string text => Quoted.write text

def isSpace (c : Char) : Bool := c == ' ' || c == '\n' || c == '\t' || c == '\r'

def punctuation? : Char → Option Token
  | '[' => some openArray
  | ']' => some closeArray
  | '\x7b' => some openObject
  | '\x7d' => some closeObject
  | ',' => some comma
  | ':' => some colon
  | _ => none

/-- The token at the start of a text, and what follows it. -/
def scan : List Char → Option (Token × List Char)
  | '"' :: rest => (Quoted.scan rest).map fun scanned => (string scanned.1, scanned.2)
  | 'n' :: 'u' :: 'l' :: 'l' :: rest => some (null, rest)
  | 't' :: 'r' :: 'u' :: 'e' :: rest => some (boolean true, rest)
  | 'f' :: 'a' :: 'l' :: 's' :: 'e' :: rest => some (boolean false, rest)
  | c :: rest =>
    match punctuation? c with
    | some token => some (token, rest)
    | none => (Numeral.scan (c :: rest)).map fun scanned => (number scanned.1, scanned.2)
  | [] => none

theorem scan_length_lt {text rest : List Char} {token : Token}
    (found : scan text = some (token, rest)) : rest.length < text.length := by
  unfold scan at found
  split at found
  · obtain ⟨scanned, scan, equal⟩ := Option.map_eq_some_iff.mp found
    have shorter := Quoted.scan_length_lt scan
    simp only [Prod.mk.injEq] at equal
    simp only [← equal.2, List.length_cons]
    omega
  · simp only [Option.some.injEq, Prod.mk.injEq] at found
    simp only [← found.2, List.length_cons]
    omega
  · simp only [Option.some.injEq, Prod.mk.injEq] at found
    simp only [← found.2, List.length_cons]
    omega
  · simp only [Option.some.injEq, Prod.mk.injEq] at found
    simp only [← found.2, List.length_cons]
    omega
  · split at found
    · simp only [Option.some.injEq, Prod.mk.injEq] at found
      simp only [← found.2, List.length_cons]
      omega
    · obtain ⟨scanned, scan, equal⟩ := Option.map_eq_some_iff.mp found
      have shorter := Numeral.scan_length_lt scan
      simp only [Prod.mk.injEq] at equal
      rw [← equal.2]
      exact shorter
  · simp at found

def lex : List Char → Option (List Token)
  | [] => some []
  | c :: rest =>
    if isSpace c then lex rest
    else
      match _found : scan (c :: rest) with
      | none => none
      | some (token, after) => (lex after).map (token :: ·)
termination_by text => text.length
decreasing_by
  · simp
  · exact scan_length_lt _found

end Token

end RowMerge.Json
