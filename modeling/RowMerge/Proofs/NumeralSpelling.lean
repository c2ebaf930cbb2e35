import RowMerge.Number.Numeral

/-!
# The spellings of numerals

How a numeral may be written is said here apart from the reader. Sign, digits and point leave no choice. An
exponent may have a letter of either case, a plus sign or none, and zeros in front.

A numeral is read for as long as it goes on. So it is read back from each of its spellings wherever it is
followed by something that no numeral goes on with, and only from these.
-/
namespace RowMerge.Numeral

/-! ## Spellings -/

/-- Some digits and nothing else. -/
structure Digits (text : List Char) : Prop where
  some_digit : text ≠ []
  digit : ∀ c ∈ text, c.isDigit = true

/-- The ways to write the sign of an exponent. -/
inductive SignSpelling : Bool → List Char → Prop
  | bare : SignSpelling false []
  | plus : SignSpelling false ['+']
  | minus : SignSpelling true ['-']

/-- The exponent with a sign and the value of some digits. -/
def exponentOf (negative : Bool) (digits : List Char) : Int :=
  if negative then -(Nat.ofDigitChars 10 digits 0 : Int) else Nat.ofDigitChars 10 digits 0

/-- The ways to write an exponent. -/
inductive ExponentSpelling : Option Int → List Char → Prop
  | absent : ExponentSpelling none []
  | present {letter : Char} {negative : Bool} {sign digits : List Char}
      (marked : letter = 'e' ∨ letter = 'E') (signed : SignSpelling negative sign)
      (run : Digits digits) :
      ExponentSpelling (some (exponentOf negative digits)) (letter :: (sign ++ digits))

/-- The ways to write a numeral. Nothing but the exponent leaves a choice. -/
inductive Spelling (n : Numeral) : List Char → Prop
  | intro {exponent : List Char} (spelled : ExponentSpelling n.exponent exponent) :
      Spelling n (signText n.negative ++
        (Nat.toDigits 10 n.whole ++ (fractionText n.fraction ++ exponent)))

/-- No numeral goes on with the text. -/
def Stops (rest : List Char) : Prop :=
  ∀ c ∈ rest.head?, c.isDigit = false ∧ c ≠ '.' ∧ c ≠ 'e' ∧ c ≠ 'E'

/-! ## Digits -/

theorem exists_digitChar {c : Char} (digit : c.isDigit = true) : ∃ k < 10, c = k.digitChar := by
  simp only [Char.isDigit, Bool.and_eq_true, decide_eq_true_eq, ge_iff_le,
    UInt32.le_iff_toNat_le] at digit
  have low : 48 ≤ c.toNat := digit.1
  have high : c.toNat ≤ 57 := digit.2
  have small : c.toNat - 48 < 10 := by omega
  refine ⟨c.toNat - 48, small, Char.toNat_inj.mp ?_⟩
  rw [Nat.toNat_digitChar_of_lt_ten small]
  omega

theorem digitOfChar_digitChar : ∀ digit : Fin 10, digitOfChar digit.val.digitChar = digit := by
  decide

theorem Digits.exists_cons {text : List Char} (run : Digits text) :
    ∃ first more, text = first :: more ∧ first.isDigit = true := by
  obtain ⟨first, more, rfl⟩ := List.exists_cons_of_ne_nil run.some_digit
  exact ⟨first, more, rfl, run.digit first List.mem_cons_self⟩

theorem digits_toDigits (n : Nat) : Digits (Nat.toDigits 10 n) :=
  ⟨Nat.toDigits_ne_nil, fun _ => Nat.isDigit_of_mem_toDigits (by decide) (by decide)⟩

theorem digits_digitsText {fraction : List (Fin 10)} (some_digit : fraction ≠ []) :
    Digits (digitsText fraction) := by
  refine ⟨by simpa [digitsText] using some_digit, ?_⟩
  intro c member
  obtain ⟨digit, -, rfl⟩ := List.mem_map.mp member
  simp [Nat.isDigit_digitChar]

theorem map_digitOfChar_digitsText (fraction : List (Fin 10)) :
    (digitsText fraction).map digitOfChar = fraction := by
  simp [digitsText, Function.comp_def, digitOfChar_digitChar]

theorem digitsText_map_digitOfChar {digits : List Char} (run : ∀ c ∈ digits, c.isDigit = true) :
    digitsText (digits.map digitOfChar) = digits := by
  induction digits with
  | nil => rfl
  | cons c rest ih =>
    obtain ⟨first, behind⟩ := List.forall_mem_cons.mp run
    obtain ⟨k, small, rfl⟩ := exists_digitChar first
    have same := congrArg Fin.val (digitOfChar_digitChar ⟨k, small⟩)
    simp only [digitsText, List.map_cons, List.cons.injEq] at ih ⊢
    exact ⟨congrArg Nat.digitChar same, ih behind⟩

theorem spanDigits_of_run {digits rest : List Char} (run : ∀ c ∈ digits, c.isDigit = true)
    (stops : ∀ c ∈ rest.head?, c.isDigit = false) :
    spanDigits (digits ++ rest) = (digits, rest) := by
  have behind : rest.takeWhile Char.isDigit = [] ∧ rest.dropWhile Char.isDigit = rest := by
    cases rest with
    | nil => exact ⟨rfl, rfl⟩
    | cons c rest => simp [stops c rfl]
  simp [spanDigits, List.takeWhile_append_of_pos run, List.dropWhile_append_of_pos run, behind]

theorem digit_of_spanDigits {text digits rest : List Char}
    (spanned : spanDigits text = (digits, rest)) :
    text = digits ++ rest ∧ ∀ c ∈ digits, c.isDigit = true := by
  have parts := spanDigits_append text
  rw [spanned] at parts
  cases spanned
  exact ⟨parts.symm, fun c member => List.all_eq_true.mp List.all_takeWhile c member⟩

/-! ## Whole parts -/

/-- Digits behind a number that is not zero are digits of the number that they continue. -/
theorem toDigits_append_run {start : Nat} (positive : 0 < start) {digits : List Char}
    (run : ∀ c ∈ digits, c.isDigit = true) :
    Nat.toDigits 10 start ++ digits = Nat.toDigits 10 (Nat.ofDigitChars 10 digits start) := by
  induction digits generalizing start with
  | nil => simp
  | cons c rest ih =>
    obtain ⟨first, behind⟩ := List.forall_mem_cons.mp run
    obtain ⟨k, small, rfl⟩ := exists_digitChar first
    have next : Nat.toDigits 10 start ++ [k.digitChar] = Nat.toDigits 10 (10 * start + k) := by
      rw [← Nat.toDigits_of_lt_base small]
      exact Nat.toDigits_append_toDigits (by decide) positive small
    calc Nat.toDigits 10 start ++ k.digitChar :: rest
        = Nat.toDigits 10 (10 * start + k) ++ rest := by rw [← next, List.append_assoc]; rfl
      _ = Nat.toDigits 10 (Nat.ofDigitChars 10 rest (10 * start + k)) := ih (by omega) behind
      _ = _ := by rw [Nat.ofDigitChars_cons_digitChar_of_lt_ten small]

/-- A run of digits that does not start with a superfluous zero is what its value is written as. -/
theorem toDigits_of_run {first : Char} {rest : List Char}
    (run : ∀ c ∈ first :: rest, c.isDigit = true) (leading : first = '0' → rest = []) :
    Nat.toDigits 10 (Nat.ofDigitChars 10 (first :: rest) 0) = first :: rest := by
  obtain ⟨digit, behind⟩ := List.forall_mem_cons.mp run
  obtain ⟨k, small, rfl⟩ := exists_digitChar digit
  rw [Nat.ofDigitChars_cons_digitChar_of_lt_ten small, Nat.mul_zero, Nat.zero_add]
  rcases Nat.eq_zero_or_pos k with rfl | positive
  · rw [leading rfl]
    rfl
  · rw [← toDigits_append_run positive behind, Nat.toDigits_of_lt_base small]
    rfl

theorem eq_zero_of_leading_zero {n : Nat} (leading : (Nat.toDigits 10 n).head? = some '0') :
    n = 0 := by
  induction n using Nat.strongRecOn with
  | ind n ih =>
    rcases Nat.lt_or_ge n 10 with small | large
    · simpa [Nat.toDigits_of_lt_base small] using leading
    · -- the first digit is that of the number without its last digit
      have before : (Nat.toDigits 10 (n / 10)).head? = some '0' := by
        obtain ⟨first, more, digits, -⟩ := (digits_toDigits (n / 10)).exists_cons
        simpa [Nat.toDigits_of_base_le (by decide) large, digits] using leading
      have none_left := ih (n / 10) (by omega) before
      omega

theorem scanWhole_toDigits (n : Nat) {rest : List Char}
    (stops : ∀ c ∈ rest.head?, c.isDigit = false) :
    scanWhole (Nat.toDigits 10 n ++ rest) = some (n, rest) := by
  have spanned := spanDigits_of_run (digits_toDigits n).digit stops
  unfold scanWhole
  rw [spanned]
  split
  next none => exact absurd (congrArg Prod.fst none) Nat.toDigits_ne_nil
  next leading =>
    -- only zero starts with a zero, and it has no second digit
    have digits : Nat.toDigits 10 n = _ := congrArg Prod.fst leading
    obtain rfl := eq_zero_of_leading_zero (n := n) (by rw [digits]; rfl)
    simp at digits
  next digits rest _ _ found =>
    cases found
    rw [Nat.ofDigitChars_ten_toDigits]

theorem toDigits_of_scanWhole {text rest : List Char} {n : Nat}
    (found : scanWhole text = some (n, rest)) : text = Nat.toDigits 10 n ++ rest := by
  unfold scanWhole at found
  split at found
  · cases found
  · cases found
  next digits rest' some_digit no_zero spanned =>
    cases found
    obtain ⟨rfl, run⟩ := digit_of_spanDigits spanned
    cases digits with
    | nil => exact absurd rfl some_digit
    | cons first more =>
      rw [toDigits_of_run run]
      rintro rfl
      cases more with
      | nil => rfl
      | cons second more => exact absurd rfl (no_zero second more)

/-! ## Fractions and exponents -/

theorem scanFraction_fractionText (fraction : List (Fin 10)) {rest : List Char}
    (stops : ∀ c ∈ rest.head?, c.isDigit = false ∧ c ≠ '.') :
    scanFraction (fractionText fraction ++ rest) = some (fraction, rest) := by
  cases fraction with
  | nil =>
    cases rest with
    | nil => rfl
    | cons c rest =>
      unfold scanFraction
      split
      next pointed =>
        -- the point would have to belong to what stands behind
        cases pointed
        exact absurd rfl (stops '.' rfl).2
      next => rfl
  | cons digit more =>
    have run := digits_digitsText (List.cons_ne_nil digit more)
    have spanned := spanDigits_of_run run.digit fun c first => (stops c first).1
    change scanFraction ('.' :: (digitsText (digit :: more) ++ rest)) = _
    simp only [scanFraction, spanned]
    split
    next none => exact absurd (congrArg Prod.fst none) run.some_digit
    next found =>
      cases found
      rw [map_digitOfChar_digitsText]

theorem fractionText_of_scanFraction {text rest : List Char} {fraction : List (Fin 10)}
    (found : scanFraction text = some (fraction, rest)) : text = fractionText fraction ++ rest := by
  unfold scanFraction at found
  split at found
  next after =>
    split at found
    · cases found
    next digits rest' some_digit spanned =>
      cases found
      obtain ⟨rfl, run⟩ := digit_of_spanDigits spanned
      have nonempty : digits ≠ [] := fun none => some_digit none
      simp [fractionText, nonempty, digitsText_map_digitOfChar run]
  next =>
    cases found
    rfl

theorem scanSign_of_digit {c : Char} {rest : List Char} (digit : c.isDigit = true) :
    scanSign (c :: rest) = (false, c :: rest) := by
  unfold scanSign
  split
  next signed => cases signed; exact absurd digit (by decide)
  next => rfl

theorem scanExponentSign_of_spelling {negative : Bool} {sign digits : List Char}
    (signed : SignSpelling negative sign) (run : Digits digits) (rest : List Char) :
    scanExponentSign (sign ++ digits ++ rest) = (negative, digits ++ rest) := by
  cases signed with
  | plus => rfl
  | minus => rfl
  | bare =>
    obtain ⟨first, more, rfl, digit⟩ := run.exists_cons
    change scanExponentSign (first :: (more ++ rest)) = _
    unfold scanExponentSign
    split
    next plus => cases plus; exact absurd digit (by decide)
    next => exact scanSign_of_digit digit

theorem spelling_of_scanExponentSign {negative : Bool} {text rest : List Char}
    (found : scanExponentSign text = (negative, rest)) :
    ∃ sign, SignSpelling negative sign ∧ text = sign ++ rest := by
  unfold scanExponentSign scanSign at found
  split at found
  next =>
    cases found
    exact ⟨['+'], .plus, rfl⟩
  next =>
    split at found
    · cases found
      exact ⟨['-'], .minus, rfl⟩
    · cases found
      exact ⟨[], .bare, rfl⟩

theorem scanExponent_of_spelling {exponent : Option Int} {text rest : List Char}
    (spelled : ExponentSpelling exponent text) (stops : Stops rest) :
    scanExponent (text ++ rest) = some (exponent, rest) := by
  cases spelled with
  | absent =>
    cases rest with
    | nil => rfl
    | cons c rest =>
      obtain ⟨-, -, small, capital⟩ := stops c rfl
      simp [scanExponent, small, capital]
  | @present letter negative sign digits marked signed run =>
    have spanned := spanDigits_of_run run.digit fun c first => (stops c first).1
    change scanExponent (letter :: (sign ++ digits ++ rest)) = _
    simp only [scanExponent, if_pos marked, scanExponentSign_of_spelling signed run, spanned]
    split
    next none => exact absurd (congrArg Prod.fst none) run.some_digit
    next found =>
      cases found
      rfl

theorem spelling_of_scanExponent {exponent : Option Int} {text rest : List Char}
    (found : scanExponent text = some (exponent, rest)) :
    ∃ spelled, ExponentSpelling exponent spelled ∧ text = spelled ++ rest := by
  unfold scanExponent at found
  split at found
  next letter after =>
    split at found
    next marked =>
      generalize read : scanExponentSign after = sign at found
      obtain ⟨sign, signed, rfl⟩ := spelling_of_scanExponentSign read
      simp only at found
      split at found
      · cases found
      next digits rest' some_digit spanned =>
        obtain ⟨parts, digit⟩ := digit_of_spanDigits spanned
        cases found
        refine ⟨_, .present marked signed ⟨fun none => some_digit none, digit⟩, ?_⟩
        simp [parts]
    next =>
      cases found
      exact ⟨[], .absent, rfl⟩
  next =>
    cases found
    exact ⟨[], .absent, rfl⟩

/-! ## Numerals as a whole -/

theorem Stops.exponent {exponent : Option Int} {text rest : List Char}
    (spelled : ExponentSpelling exponent text) (stops : Stops rest) :
    ∀ c ∈ (text ++ rest).head?, c.isDigit = false ∧ c ≠ '.' := by
  intro c first
  cases spelled with
  | absent => exact ⟨(stops c first).1, (stops c first).2.1⟩
  | present marked signed run =>
    cases first
    rcases marked with rfl | rfl <;> exact ⟨rfl, by decide⟩

theorem Stops.fraction {rest : List Char} (fraction : List (Fin 10))
    (stops : ∀ c ∈ rest.head?, c.isDigit = false ∧ c ≠ '.') :
    ∀ c ∈ (fractionText fraction ++ rest).head?, c.isDigit = false := by
  intro c first
  cases fraction with
  | nil => exact (stops c first).1
  | cons digit more =>
    cases first
    rfl

theorem scanSign_signText (negative : Bool) (whole : Nat) (rest : List Char) :
    scanSign (signText negative ++ (Nat.toDigits 10 whole ++ rest)) =
      (negative, Nat.toDigits 10 whole ++ rest) := by
  cases negative with
  | true => rfl
  | false =>
    obtain ⟨first, more, digits, digit⟩ := (digits_toDigits whole).exists_cons
    rw [digits]
    exact scanSign_of_digit digit

/-- A numeral is read back from each of its spellings, if no numeral goes on with what stands behind it. -/
theorem scan_of_spelling {n : Numeral} {text rest : List Char} (spelled : n.Spelling text)
    (stops : Stops rest) : scan (text ++ rest) = some (n, rest) := by
  cases spelled with
  | @intro exponent spelled =>
    have behind_fraction := stops.exponent spelled
    have behind_whole := Stops.fraction n.fraction behind_fraction
    simp only [scan, List.append_assoc, scanSign_signText, scanWhole_toDigits n.whole behind_whole,
      scanFraction_fractionText n.fraction behind_fraction, scanExponent_of_spelling spelled stops]

/-- What is read as a numeral is one of its spellings. -/
theorem spelling_of_scan {n : Numeral} {text rest : List Char} (found : scan text = some (n, rest)) :
    ∃ spelled, n.Spelling spelled ∧ text = spelled ++ rest := by
  have signed : text = signText (scanSign text).1 ++ (scanSign text).2 := by
    unfold scanSign
    split <;> rfl
  unfold scan at found
  simp only at found
  split at found
  · cases found
  next whole =>
    split at found
    · cases found
    next fraction =>
      split at found
      · cases found
      next exponent =>
        cases found
        obtain ⟨spelled, written, rfl⟩ := spelling_of_scanExponent exponent
        rw [toDigits_of_scanWhole whole, fractionText_of_scanFraction fraction] at signed
        refine ⟨_, .intro written, ?_⟩
        simpa only [List.append_assoc] using signed

theorem spelling_exponentText (exponent : Option Int) :
    ExponentSpelling exponent (exponentText exponent) := by
  cases exponent with
  | none => exact .absent
  | some e =>
    by_cases negative : e < 0
    · have value : exponentOf true (Nat.toDigits 10 e.natAbs) = e := by
        simp only [exponentOf, if_true, Nat.ofDigitChars_ten_toDigits]
        omega
      have spelled := ExponentSpelling.present (.inl rfl) .minus (digits_toDigits e.natAbs)
      rw [value] at spelled
      simpa [exponentText, negative] using spelled
    · have value : exponentOf false (Nat.toDigits 10 e.natAbs) = e := by
        simp only [exponentOf, Bool.false_eq_true, if_false, Nat.ofDigitChars_ten_toDigits]
        omega
      have spelled := ExponentSpelling.present (.inl rfl) .plus (digits_toDigits e.natAbs)
      rw [value] at spelled
      simpa [exponentText, negative] using spelled

/-- A numeral is written in one of its spellings. -/
theorem spelling_text (n : Numeral) : n.Spelling n.text := by
  simp only [text, List.append_assoc]
  exact .intro (spelling_exponentText n.exponent)

/-- The first character tells that a numeral begins. -/
theorem Spelling.starts {n : Numeral} {text : List Char} (spelled : n.Spelling text) :
    ∃ c rest, text = c :: rest ∧ (c = '-' ∨ c.isDigit = true) := by
  cases spelled with
  | intro spelled =>
    cases n.negative with
    | true => exact ⟨'-', _, rfl, .inl rfl⟩
    | false =>
      obtain ⟨first, more, digits, digit⟩ := (digits_toDigits n.whole).exists_cons
      exact ⟨first, _, by rw [digits]; rfl, .inr digit⟩

end RowMerge.Numeral
