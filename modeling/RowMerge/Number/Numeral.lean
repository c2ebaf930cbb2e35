import RowMerge.Number.Shortest
/-!
# Decimal numerals

A numeral is a written decimal number: a sign, a whole part without leading zeros, digits after
the point, and an exponent of ten. Numbers are written by laying out their shortest decimal as a
numeral, and read back from the numeral of a text. A numeral stands for an integer only if it has
neither a point nor an exponent; as a binary64 number it is read through the first nineteen or so
digits that fit into 64 bits, scaled by one power of ten.
-/
namespace RowMerge

/-- A written number. An empty `fraction` means that no point is written. -/
structure Numeral where
  negative : Bool
  whole : Nat
  fraction : List (Fin 10)
  exponent : Option Int
  deriving DecidableEq

namespace Numeral

/-! ## Writing -/

def ofInt (i : Int) : Numeral := ⟨decide (i < 0), i.natAbs, [], none⟩

def signText (negative : Bool) : List Char := if negative then ['-'] else []

def digitsText (digits : List (Fin 10)) : List Char := digits.map fun digit => digit.val.digitChar

def fractionText (fraction : List (Fin 10)) : List Char :=
  if fraction.isEmpty then [] else '.' :: digitsText fraction

/-- An exponent is always written with its sign. -/
def exponentText : Option Int → List Char
  | none => []
  | some e => 'e' :: (if e < 0 then '-' else '+') :: Nat.toDigits 10 e.natAbs

/-- The numeral as text, without padding; a plus sign stands in the exponent only. -/
def text (n : Numeral) : List Char :=
  signText n.negative ++ Nat.toDigits 10 n.whole ++ fractionText n.fraction ++
    exponentText n.exponent

/-- The last `count` decimal digits of a number, leading zeros included. -/
def lastDigits : Nat → Nat → List (Fin 10)
  | 0, _ => []
  | count + 1, n => lastDigits count (n / 10) ++ [Fin.ofNat 10 n]

/-- A decimal written out without an exponent; zeros are filled in up to the point. -/
def positional (negative : Bool) (d : Decimal) : Numeral :=
  if 0 ≤ d.exponent then ⟨negative, d.digits * powerOfTen d.exponent.toNat, [], none⟩
  else
    let places := (-d.exponent).toNat
    ⟨negative, d.digits / powerOfTen places, lastDigits places d.digits, none⟩

/-- A decimal with one digit before the point and an exponent of ten. -/
def scientific (negative : Bool) (d : Decimal) : Numeral :=
  let places := (Nat.toDigits 10 d.digits).length - 1
  ⟨negative, d.digits / powerOfTen places, lastDigits places d.digits, some (d.exponent + places)⟩

/-! ## Reading -/

/-- The longest run of digits at the start of a text, and what follows it. -/
def spanDigits (text : List Char) : List Char × List Char :=
  (text.takeWhile Char.isDigit, text.dropWhile Char.isDigit)

def digitOfChar (c : Char) : Fin 10 := Fin.ofNat 10 (c.toNat - '0'.toNat)

def scanSign : List Char → Bool × List Char
  | '-' :: rest => (true, rest)
  | text => (false, text)

/-- The whole part: at least one digit, and no zero before another digit. -/
def scanWhole (text : List Char) : Option (Nat × List Char) :=
  match spanDigits text with
  | ([], _) => none
  | ('0' :: _ :: _, _) => none
  | (digits, rest) => some (Nat.ofDigitChars 10 digits 0, rest)

/-- The digits after a point, if there is a point; then there is at least one. -/
def scanFraction : List Char → Option (List (Fin 10) × List Char)
  | '.' :: text =>
    match spanDigits text with
    | ([], _) => none
    | (digits, rest) => some (digits.map digitOfChar, rest)
  | text => some ([], text)

/-- The sign of an exponent: a plus sign may be written. -/
def scanExponentSign : List Char → Bool × List Char
  | '+' :: rest => (false, rest)
  | text => scanSign text

/-- The exponent after a letter `e` of either case, if there is one; it has at least one digit. -/
def scanExponent : List Char → Option (Option Int × List Char)
  | c :: text =>
    if c = 'e' ∨ c = 'E' then
      let signed := scanExponentSign text
      match spanDigits signed.2 with
      | ([], _) => none
      | (digits, rest) =>
        let size := Nat.ofDigitChars 10 digits 0
        some (some (if signed.1 then -(size : Int) else size), rest)
    else some (none, c :: text)
  | [] => some (none, [])

/-- The numeral at the start of a text, as long as it can be, and what follows it. -/
def scan (text : List Char) : Option (Numeral × List Char) :=
  let signed := scanSign text
  match scanWhole signed.2 with
  | none => none
  | some (whole, afterWhole) =>
    match scanFraction afterWhole with
    | none => none
    | some (fraction, afterFraction) =>
      match scanExponent afterFraction with
      | none => none
      | some (exponent, rest) => some (⟨signed.1, whole, fraction, exponent⟩, rest)

theorem spanDigits_snd_length_le (text : List Char) :
    (spanDigits text).2.length ≤ text.length :=
  (List.dropWhile_sublist Char.isDigit).length_le

theorem spanDigits_append (text : List Char) : (spanDigits text).1 ++ (spanDigits text).2 = text :=
  List.takeWhile_append_dropWhile

theorem scanSign_length_le (text : List Char) : (scanSign text).2.length ≤ text.length := by
  unfold scanSign
  split <;> simp

theorem scanExponentSign_length_le (text : List Char) :
    (scanExponentSign text).2.length ≤ text.length := by
  unfold scanExponentSign
  split
  · simp
  · exact scanSign_length_le _

theorem scanWhole_length_lt {text rest : List Char} {whole : Nat}
    (found : scanWhole text = some (whole, rest)) : rest.length < text.length := by
  unfold scanWhole at found
  split at found
  · simp at found
  · simp at found
  · next digits rest' nonempty _ spanned =>
    have parts := spanDigits_append text
    rw [spanned] at parts
    simp only [Option.some.injEq, Prod.mk.injEq] at found
    obtain ⟨_, rfl⟩ := found
    cases digits with
    | nil => exact (nonempty rfl).elim
    | cons digit more =>
      rw [← parts]
      simp only [List.length_append, List.length_cons]
      omega

theorem scanFraction_length_le {text rest : List Char} {fraction : List (Fin 10)}
    (found : scanFraction text = some (fraction, rest)) : rest.length ≤ text.length := by
  unfold scanFraction at found
  split at found
  · next after =>
    have shorter := spanDigits_snd_length_le after
    split at found
    · simp at found
    · next spanned =>
      simp only [Option.some.injEq, Prod.mk.injEq] at found
      obtain ⟨_, rfl⟩ := found
      rw [spanned] at shorter
      simp only [List.length_cons]
      simp only at shorter
      omega
  · simp only [Option.some.injEq, Prod.mk.injEq] at found
    obtain ⟨_, rfl⟩ := found
    exact Nat.le_refl _

theorem scanExponent_length_le {text rest : List Char} {exponent : Option Int}
    (found : scanExponent text = some (exponent, rest)) : rest.length ≤ text.length := by
  unfold scanExponent at found
  split at found
  · next c after =>
    split at found
    · have signShorter := scanExponentSign_length_le after
      have shorter := spanDigits_snd_length_le (scanExponentSign after).2
      simp only at found
      split at found
      · simp at found
      · next spanned =>
        simp only [Option.some.injEq, Prod.mk.injEq] at found
        obtain ⟨_, rfl⟩ := found
        rw [spanned] at shorter
        simp only [List.length_cons]
        simp only at shorter
        omega
    · simp only [Option.some.injEq, Prod.mk.injEq] at found
      obtain ⟨_, rfl⟩ := found
      exact Nat.le_refl _
  · simp only [Option.some.injEq, Prod.mk.injEq] at found
    obtain ⟨_, rfl⟩ := found
    exact Nat.le_refl _

/-- A numeral takes at least one character of the text. -/
theorem scan_length_lt {text rest : List Char} {n : Numeral}
    (found : scan text = some (n, rest)) : rest.length < text.length := by
  have signShorter := scanSign_length_le text
  unfold scan at found
  simp only at found
  split at found
  · simp at found
  next wholeFound =>
    have wholeShorter := scanWhole_length_lt wholeFound
    split at found
    · simp at found
    next fractionFound =>
      have fractionShorter := scanFraction_length_le fractionFound
      split at found
      · simp at found
      next exponentFound =>
        have exponentShorter := scanExponent_length_le exponentFound
        simp only [Option.some.injEq, Prod.mk.injEq] at found
        obtain ⟨_, rfl⟩ := found
        omega

/-! ## Values -/

/-- The integer that a numeral stands for: it has neither a point nor an exponent, and it is not
the zero with a minus sign. -/
def toInt? (n : Numeral) : Option Int :=
  if n.fraction.isEmpty && n.exponent.isNone then
    if n.negative then
      if n.whole = 0 then none else some (-(n.whole : Int))
    else some n.whole
  else none

/-- The digits of a whole part that fit into 64 bits, and the number of digits cut off. -/
def leadingDigits (n : Nat) : Nat × Nat :=
  if n < UInt64.size then (n, 0)
  else
    let leading := leadingDigits (n / 10)
    (leading.1, leading.2 + 1)
termination_by n
decreasing_by simp only [UInt64.size] at *; omega

/-- Appends digits for as long as the result fits into 64 bits, and counts them. -/
def appendDigits (start : Nat) : List (Fin 10) → Nat × Nat
  | [] => (start, 0)
  | digit :: rest =>
    if start * 10 + digit.val < UInt64.size then
      let appended := appendDigits (start * 10 + digit.val) rest
      (appended.1, appended.2 + 1)
    else (start, 0)

/-- The significand that is read, and the power of ten that scales it. -/
def leadingDecimal (n : Numeral) : Decimal :=
  let leading := leadingDigits n.whole
  let appended := appendDigits leading.1 n.fraction
  ⟨appended.1, (leading.2 : Int) - appended.2 + n.exponent.getD 0⟩

/-- The greatest power of ten, by its exponent, that is a binary64 number. -/
def greatestPower : Nat := 308

/-- Division by a power of ten, in steps of the greatest one; a quotient of zero stays. -/
def divPowerOfTen (x : Binary64) (power : Nat) : Binary64 :=
  if power ≤ greatestPower then x.absDiv (.ofNat (powerOfTen power))
  else if x.isZero then x
  else divPowerOfTen (x.absDiv (.ofNat (powerOfTen greatestPower))) (power - greatestPower)
termination_by power
decreasing_by simp only [greatestPower] at *; omega

/-- A decimal as a binary64 number: the significand and the power of ten are rounded, and so is
their product or quotient. A result past the greatest finite number is refused. -/
def scaled? (d : Decimal) : Option Binary64 :=
  let significand := Binary64.ofNat d.digits
  if d.exponent < 0 then some (divPowerOfTen significand (-d.exponent).toNat)
  else if significand.isZero then some significand
  else if d.exponent.toNat ≤ greatestPower then
    let product := significand.absMul (.ofNat (powerOfTen d.exponent.toNat))
    if product.isFinite then some product else none
  else none

/-- The binary64 number that a numeral is read as. -/
def toBinary64? (n : Numeral) : Option Binary64 :=
  (scaled? n.leadingDecimal).map fun x => x.withSign n.negative

end Numeral

end RowMerge
