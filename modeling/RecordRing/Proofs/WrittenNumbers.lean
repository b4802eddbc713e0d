import Mathlib.Data.List.TakeWhile
import RecordRing.NumberText

set_option autoImplicit false

namespace RecordRing

/-- What is left of a text between blanks. -/
structure Trimmed (text core : List Char) : Prop where
  between : ∃ before after, text = before ++ (core ++ after) ∧
    (∀ blank ∈ before, isBlank blank = true) ∧ ∀ blank ∈ after, isBlank blank = true
  first : ∀ character ∈ core.head?, isBlank character = false
  last : ∀ character ∈ core.getLast?, isBlank character = false

theorem isBlank_head?_dropWhile (text : List Char) :
    ∀ character ∈ (text.dropWhile isBlank).head?, isBlank character = false := by
  intro character front
  have stops := List.head?_dropWhile_not isBlank text
  rw [Option.mem_def] at front
  rw [front] at stops
  exact stops

/-- Blanks are dropped up to what is no blank. -/
theorem dropWhile_blanks_append {before rest : List Char}
    (blanks : ∀ blank ∈ before, isBlank blank = true)
    (first : ∀ character ∈ rest.head?, isBlank character = false) :
    (before ++ rest).dropWhile isBlank = rest := by
  rw [List.dropWhile_append_of_pos blanks]
  cases rest with
  | nil => rfl
  | cons character rest =>
      exact List.dropWhile_cons_of_neg (by rw [first character rfl]; exact Bool.false_ne_true)

theorem trimmed_trimBlanks (text : List Char) : Trimmed text (trimBlanks text) := by
  have front := List.takeWhile_append_dropWhile (p := isBlank) (l := text)
  have starts := isBlank_head?_dropWhile text
  rw [trimBlanks]
  generalize text.dropWhile isBlank = rest at front starts
  have back := List.takeWhile_append_dropWhile (p := isBlank) (l := rest.reverse)
  have ends := isBlank_head?_dropWhile rest.reverse
  have whole : rest = (rest.reverse.dropWhile isBlank).reverse ++
      (rest.reverse.takeWhile isBlank).reverse := by
    rw [← List.reverse_append, back, List.reverse_reverse]
  refine ⟨⟨text.takeWhile isBlank, (rest.reverse.takeWhile isBlank).reverse, ?_, ?_, ?_⟩, ?_, ?_⟩
  · rw [← whole, front]
  · exact fun blank member => List.mem_takeWhile_imp member
  · exact fun blank member => List.mem_takeWhile_imp (List.mem_reverse.mp member)
  · intro character found
    refine starts character ?_
    rw [whole, List.head?_append, Option.mem_def.mp found]
    rfl
  · intro character found
    rw [List.getLast?_reverse] at found
    exact ends character found

/-- Nothing else is left of a text than what stands between its blanks. -/
theorem Trimmed.eq_trimBlanks {text core : List Char} (trimmed : Trimmed text core) :
    core = trimBlanks text := by
  obtain ⟨⟨before, after, rfl, blanks, others⟩, first, last⟩ := trimmed
  rw [trimBlanks]
  cases core with
  | nil =>
      have none : (before ++ after).dropWhile isBlank = [] := by
        rw [List.dropWhile_eq_nil_iff]
        intro blank member
        exact (List.mem_append.mp member).elim (blanks blank) (others blank)
      rw [List.nil_append, none]
      rfl
  | cons character rest =>
      have front : (before ++ (character :: rest ++ after)).dropWhile isBlank =
          character :: rest ++ after := dropWhile_blanks_append blanks first
      rw [front, List.reverse_append,
        dropWhile_blanks_append (fun blank member => others blank (List.mem_reverse.mp member)),
        List.reverse_reverse]
      rwa [List.head?_reverse]

namespace NumberText

theorem isDigit_iff (character : Char) :
    character.isDigit = true ↔ 48 ≤ character.toNat ∧ character.toNat ≤ 57 := by
  rw [Char.isDigit, Bool.and_eq_true, decide_eq_true_iff, decide_eq_true_iff]
  rfl

theorem digitIn?_ten (character : Char) :
    digitIn? 10 character = if character.isDigit then some (character.toNat - 48) else none := by
  have digit : ('0' ≤ character ∧ character ≤ '9') ↔ character.isDigit = true := by
    rw [isDigit_iff]
    rfl
  have small : 'a' ≤ character ∧ character ≤ 'f' → 97 ≤ character.toNat := fun bounds => bounds.1
  have large : 'A' ≤ character ∧ character ≤ 'F' → 65 ≤ character.toNat := fun bounds => bounds.1
  rw [digitIn?]
  by_cases decimal : character.isDigit = true
  · have bounds := (isDigit_iff character).mp decimal
    rw [if_pos (digit.mpr decimal), if_pos decimal]
    exact if_pos (by omega)
  · rw [if_neg (mt digit.mp decimal), if_neg decimal]
    refine if_neg ?_
    split
    · rename_i letter
      have bound := small letter
      omega
    · split
      · rename_i letter
        have bound := large letter
        omega
      · omega

/-- The digits that are read make the number larger, or leave it. -/
theorem le_ofDigitChars (row : List Char) (value : Nat) : value ≤ Nat.ofDigitChars 10 row value := by
  induction row generalizing value with
  | nil => exact Nat.le_refl _
  | cons digit rest ih =>
      rw [Nat.ofDigitChars_cons]
      exact Nat.le_trans (by omega) (ih _)

/-- A row is read exactly when it consists of digits that stand for a number within the limit, and it
is read as that number. -/
theorem digits_eq_ok_iff {limit value number : Nat} {overflow : Fault} {row : List Char}
    (within : value ≤ limit) :
    digits limit overflow value row = .ok number ↔
      (∀ digit ∈ row, digit.isDigit = true) ∧ Nat.ofDigitChars 10 row value = number ∧
        number ≤ limit := by
  induction row generalizing value with
  | nil =>
      rw [digits, Nat.ofDigitChars_nil, Except.ok.injEq]
      constructor
      · rintro rfl
        exact ⟨nofun, rfl, within⟩
      · exact fun ⟨_, same, _⟩ => same
  | cons digit rest ih =>
      rw [digits, digitIn?_ten, Nat.ofDigitChars_cons, List.forall_mem_cons]
      cases decimal : digit.isDigit with
      | false => simp
      | true =>
          have next : value * 10 + (digit.toNat - 48) = 10 * value + (digit.toNat - '0'.toNat) := by
            rw [Nat.mul_comm]
            rfl
          simp only [if_true, next, true_and]
          by_cases small : 10 * value + (digit.toNat - '0'.toNat) ≤ limit
          · rw [if_pos small, ih small]
          · rw [if_neg small]
            have grows := le_ofDigitChars rest (10 * value + (digit.toNat - '0'.toNat))
            simp only [reduceCtorEq, false_iff]
            rintro ⟨-, rfl, fits⟩
            omega

def IsRow (row : List Char) : Prop :=
  row ≠ [] ∧ ∀ digit ∈ row, digit.isDigit = true

/-- A whole number as it is written: digits, with a sign before them or without. -/
inductive Numeral : List Char → Int → Prop
  | plain {row : List Char} (digits : IsRow row) : Numeral row (Nat.ofDigitChars 10 row 0)
  | plus {row : List Char} (digits : IsRow row) : Numeral ('+' :: row) (Nat.ofDigitChars 10 row 0)
  | minus {row : List Char} (digits : IsRow row) :
      Numeral ('-' :: row) (-(Nat.ofDigitChars 10 row 0 : Int))

theorem map_eq_ok_iff {ε α β : Type} {result : Except ε α} {change : α → β} {value : β} :
    result.map change = .ok value ↔ ∃ found, result = .ok found ∧ change found = value := by
  cases result <;> simp [Except.map]

/-- A row that follows a sign, or stands alone. -/
theorem map_digits_eq_ok_iff {limit : Nat} {overflow : Fault} {row : List Char} {change : Nat → Int}
    {number : Int} (some : row ≠ []) :
    (digits limit overflow 0 row).map change = .ok number ↔
      IsRow row ∧ change (Nat.ofDigitChars 10 row 0) = number ∧ Nat.ofDigitChars 10 row 0 ≤ limit := by
  simp only [map_eq_ok_iff, digits_eq_ok_iff (Nat.zero_le limit), IsRow]
  constructor
  · rintro ⟨_, ⟨decimal, rfl, fits⟩, same⟩
    exact ⟨⟨some, decimal⟩, same, fits⟩
  · rintro ⟨⟨-, decimal⟩, same, fits⟩
    exact ⟨_, ⟨decimal, rfl, fits⟩, same⟩

theorem not_isRow_of_sign {sign : Char} (odd : sign.isDigit = false) (rest : List Char) :
    ¬ IsRow (sign :: rest) := by
  rintro ⟨-, digits⟩
  exact absurd (digits sign List.mem_cons_self) (odd ▸ Bool.false_ne_true)

theorem numeral_minus_iff {row : List Char} {number : Int} :
    Numeral ('-' :: row) number ↔ IsRow row ∧ -(Nat.ofDigitChars 10 row 0 : Int) = number := by
  constructor
  · intro numeral
    cases numeral with
    | plain digits => exact absurd digits (not_isRow_of_sign rfl row)
    | minus digits => exact ⟨digits, rfl⟩
  · rintro ⟨digits, rfl⟩
    exact .minus digits

theorem numeral_plus_iff {row : List Char} {number : Int} :
    Numeral ('+' :: row) number ↔ IsRow row ∧ (Nat.ofDigitChars 10 row 0 : Int) = number := by
  constructor
  · intro numeral
    cases numeral with
    | plain digits => exact absurd digits (not_isRow_of_sign rfl row)
    | plus digits => exact ⟨digits, rfl⟩
  · rintro ⟨digits, rfl⟩
    exact .plus digits

theorem numeral_plain_iff {row : List Char} {number : Int} (minus : row.head? ≠ some '-')
    (plus : row.head? ≠ some '+') :
    Numeral row number ↔ IsRow row ∧ (Nat.ofDigitChars 10 row 0 : Int) = number := by
  constructor
  · intro numeral
    cases numeral with
    | plain digits => exact ⟨digits, rfl⟩
    | plus digits => exact absurd rfl plus
    | minus digits => exact absurd rfl minus
  · rintro ⟨digits, rfl⟩
    exact .plain digits

theorem map_neg_eq (result : Except Fault Nat) :
    ((do return (← result : Int)) : Except Fault Int).map (fun value => -value) =
      result.map fun value : Nat => -(value : Int) := by
  cases result <;> rfl

/-- A text is read as a number exactly when it is written as that number, which is within the
bounds. -/
theorem signed_eq_ok_iff {magnitude : Nat} (positive : 0 < magnitude) {text : List Char} {number : Int} :
    signed magnitude text = .ok number ↔
      Numeral text number ∧ -(magnitude : Int) ≤ number ∧ number < magnitude := by
  unfold signed
  split
  case h_1 =>
    rw [numeral_plain_iff (by decide) (by decide)]
    simp [IsRow]
  case h_2 =>
    rw [numeral_plus_iff]
    simp [IsRow]
  case h_3 =>
    rw [numeral_minus_iff]
    simp [IsRow]
  case h_4 row alone =>
    rw [map_neg_eq, numeral_minus_iff, map_digits_eq_ok_iff fun none => alone (none ▸ rfl), and_assoc]
    refine and_congr_right fun _ => and_congr_right fun same => ?_
    omega
  case h_5 row alone =>
    rw [numeral_plus_iff, map_digits_eq_ok_iff fun none => alone (none ▸ rfl), and_assoc]
    refine and_congr_right fun _ => and_congr_right fun same => ?_
    rw [Int.ofNat_eq_natCast] at same
    omega
  case h_6 none plus minus minused plused =>
    have first (sign : Char) (signed : ∀ row, text = sign :: row → False) :
        text.head? ≠ some sign := by
      intro front
      obtain ⟨row, rfl⟩ := List.head?_eq_some_iff.mp front
      exact signed row rfl
    rw [numeral_plain_iff (first '-' minused) (first '+' plused), map_digits_eq_ok_iff none, and_assoc]
    refine and_congr_right fun _ => and_congr_right fun same => ?_
    rw [Int.ofNat_eq_natCast] at same
    omega

end NumberText

end RecordRing
