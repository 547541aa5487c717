import Courier.Proofs.Toml.Quoting
import Courier.Toml.Statement

namespace Courier.Toml

variable {char : Char} {digits rest tail text : List Char}

/-- A text that stands for a value, at the end of a line. -/
structure Written (text : List Char) (value : Value) : Prop where
  start : ∀ rest, skipBlanks (text ++ '\n' :: rest) = text ++ '\n' :: rest
  read : ∀ rest, value? depthLimit (text ++ '\n' :: rest) = some (value, '\n' :: rest)

/-- A character of a class is none that the class leaves out. -/
theorem ne_of_class {isClass : Char → Bool} {other : Char} (member : isClass char)
    (outside : isClass other = false) : char ≠ other :=
  ne_of_apply_ne isClass (by simp [member, outside])

theorem append_ne_cons {isClass : Char → Bool} {other : Char} (filled : text ≠ [])
    (all : ∀ char ∈ text, isClass char) (outside : isClass other = false) (rest tail : List Char) :
    text ++ rest ≠ other :: tail := by
  obtain ⟨first, others, rfl⟩ := List.exists_cons_of_ne_nil filled
  have member := all first List.mem_cons_self
  exact fun same => ne_of_class member outside (List.cons.inj same).1

theorem skipBlanks_of_ne (space : ∀ tail, text ≠ ' ' :: tail) (tab : ∀ tail, text ≠ '\t' :: tail) :
    skipBlanks text = text := by
  cases text with
  | nil => rfl
  | cons first text =>
    have visible : ¬isBlank first := by
      simp only [isBlank, Bool.or_eq_true, beq_iff_eq]
      rintro (rfl | rfl)
      · exact space text rfl
      · exact tab text rfl
    exact List.dropWhile_cons_of_neg visible

theorem value?_of_ne (depth : Nat) (list : ∀ tail, text ≠ '[' :: tail)
    (table : ∀ tail, text ≠ '\x7b' :: tail) : value? depth text = scalarValue? text := by
  rw [value?]
  · exact fun _ tail _ => list tail
  · exact fun _ tail _ => table tail

theorem quote_ne_cons {other : Char} (double : other ≠ '"') (single : other ≠ '\'')
    (chars rest tail : List Char) : quote chars ++ rest ≠ other :: tail := by
  unfold quote quoteAs
  intro same
  cases style : styleOf chars <;> simp only [style] at same
  case basic | basicLines => exact double (List.cons.inj same).1.symm
  case literal | literalLines => exact single (List.cons.inj same).1.symm

theorem written_quote (text : String) : Written (quote text.toList) (.text text) where
  start rest := skipBlanks_of_ne (quote_ne_cons (by decide) (by decide) _ _)
    (quote_ne_cons (by decide) (by decide) _ _)
  read rest := by
    have read : text? (quote text.toList ++ '\n' :: rest) = some (.text text, '\n' :: rest) := by
      simp [text?, quoted?_quote]
    rw [value?_of_ne _ (quote_ne_cons (by decide) (by decide) _ _)
      (quote_ne_cons (by decide) (by decide) _ _), scalarValue?, read]
    rfl

theorem written_flag (flag : Bool) :
    Written (if flag then "true" else "false").toList (.flag flag) := by
  cases flag <;> exact ⟨fun _ => rfl, fun _ => rfl⟩

section Digits

variable (all : ∀ char ∈ digits, char.isDigit)
include all

theorem grouped_digits (rest : List Char) :
    grouped Char.isDigit (digits ++ '\n' :: rest) = (digits, '\n' :: rest) := by
  induction digits with
  | nil => simp [grouped]
  | cons first digits ih =>
    obtain ⟨digit, others⟩ := List.forall_mem_cons.mp all
    rw [List.cons_append, grouped]
    · simp [digit, ih others]
    · rintro _ _ rfl
      exact absurd digit (by decide)

theorem digits?_digits (filled : digits ≠ []) (rest : List Char) :
    digits? Char.isDigit (digits ++ '\n' :: rest) = some (digits, '\n' :: rest) := by
  cases digits with
  | nil => exact absurd rfl filled
  | cons first digits =>
    obtain ⟨digit, others⟩ := List.forall_mem_cons.mp all
    simp [digits?, digit, grouped_digits others]

theorem valueOf_digits (start : Nat) :
    digits.foldl (fun value char => value * 10 + (Digit.hex? char).getD 0) start =
      Nat.ofDigitChars 10 digits start := by
  induction digits generalizing start with
  | nil => simp
  | cons first digits ih =>
    obtain ⟨digit, others⟩ := List.forall_mem_cons.mp all
    rw [List.foldl_cons, ih others, Nat.ofDigitChars_cons, Digit.hex?, if_pos digit]
    simp [Nat.mul_comm]

/-- A fixed number of digits is not followed by a mark: the next digit or the end of the line is. -/
theorem given?_of_fixed? {count low high value : Nat} (mark : Char)
    (found : fixed? count low high (digits ++ '\n' :: rest) = some (value, tail))
    (notDigit : mark.isDigit = false) (notEnd : mark ≠ '\n') : given? mark tail = none := by
  unfold fixed? at found
  dsimp only at found
  split at found
  next fits =>
    cases found
    have taken := List.all_eq_true.mp fits.2.1
    have within : count ≤ digits.length := by
      refine Nat.le_of_not_lt fun past => absurd (taken '\n' ?_) (by decide)
      obtain ⟨more, rfl⟩ := Nat.exists_eq_add_of_lt past
      rw [Nat.add_assoc, List.take_length_add_append]
      simp
    rw [List.drop_append_of_le_length within]
    cases left : digits.drop count with
    | nil => simp [given?, Ne.symm notEnd]
    | cons head left' =>
      have digit := all head (List.mem_of_mem_drop (left ▸ List.mem_cons_self))
      simp [given?, ne_of_class digit notDigit]
  next => cases found

end Digits

theorem zero_of_head_toDigits {number : Nat}
    (leads : (Nat.toDigits 10 number).head? = some '0') : number = 0 := by
  induction number using Nat.strongRecOn with
  | ind number ih =>
    by_cases small : number < 10
    · simpa [Nat.toDigits_of_lt_base small] using leads
    · obtain ⟨first, others, led⟩ :=
        List.exists_cons_of_ne_nil (l := Nat.toDigits 10 (number / 10)) Nat.toDigits_ne_nil
      rw [Nat.toDigits_of_base_le (by decide) (by omega), led] at leads
      have := ih (number / 10) (by omega) (by rw [led]; exact leads)
      omega

/-- What the readers of numbers see of one that was written in decimal, with the line ending behind
it. -/
structure Decimal (number : Nat) (text : List Char) : Prop where
  all : ∀ char ∈ text, char.isDigit
  filled : text ≠ []
  lead : text.head? = some '0' → text = ['0']
  value : valueOf 10 text = number

theorem decimal_toString (number : Nat) : Decimal number (toString number).toList := by
  rw [Nat.toString_eq_ofList_toDigits, String.toList_ofList]
  have all : ∀ char ∈ Nat.toDigits 10 number, char.isDigit := fun char member =>
    Nat.isDigit_of_mem_toDigits (by decide) (by decide) member
  refine ⟨all, Nat.toDigits_ne_nil, fun leads => ?_, ?_⟩
  · rw [zero_of_head_toDigits leads]
    rfl
  · exact (valueOf_digits all 0).trans Nat.ofDigitChars_ten_toDigits

section Decimal

variable {number : Nat} (decimal : Decimal number text)
include decimal

theorem Decimal.ne_cons {other : Char} (outside : other.isDigit = false) (rest tail : List Char) :
    text ++ rest ≠ other :: tail :=
  append_ne_cons decimal.filled decimal.all outside rest tail

theorem Decimal.sign_eq (rest : List Char) :
    sign (text ++ '\n' :: rest) = (false, text ++ '\n' :: rest) := by
  rw [sign]
  · exact decimal.ne_cons (by decide) _
  · exact decimal.ne_cons (by decide) _

/-- A zero in front is all there is. -/
theorem Decimal.eq_zero (same : text ++ '\n' :: rest = '0' :: tail) :
    text = ['0'] ∧ tail = '\n' :: rest := by
  obtain ⟨first, others, rfl⟩ := List.exists_cons_of_ne_nil decimal.filled
  obtain ⟨rfl, rfl⟩ := List.cons.inj same
  cases decimal.lead rfl
  exact ⟨rfl, rfl⟩

theorem Decimal.whole?_eq (rest : List Char) :
    whole? (text ++ '\n' :: rest) = some (text, '\n' :: rest) := by
  by_cases leads : text.head? = some '0'
  · rw [decimal.lead leads]
    rfl
  · rw [whole?]
    · exact digits?_digits decimal.all decimal.filled rest
    · intro tail same
      exact leads (by rw [(decimal.eq_zero same).1]; rfl)

theorem Decimal.text?_eq (rest : List Char) : text? (text ++ '\n' :: rest) = none := by
  rw [text?, quoted?, line?]
  · rfl
  · exact decimal.ne_cons (by decide) _
  · exact decimal.ne_cons (by decide) _
  · exact fun _ => decimal.ne_cons (by decide) _ _
  · exact fun _ => decimal.ne_cons (by decide) _ _

theorem Decimal.flag?_eq (rest : List Char) : flag? (text ++ '\n' :: rest) = none := by
  rw [flag?]
  · exact fun _ => decimal.ne_cons (by decide) _ _
  · exact fun _ => decimal.ne_cons (by decide) _ _

theorem Decimal.moment?_eq (rest : List Char) : moment? (text ++ '\n' :: rest) = none := by
  -- Behind the digits of a year or an hour a moment has a mark, where a number goes on or ends.
  have date : date? (text ++ '\n' :: rest) = none := by
    rw [date?]
    cases year : fixed? 4 0 9999 (text ++ '\n' :: rest) with
    | none => rfl
    | some found =>
      have stop := given?_of_fixed? decimal.all '-' year (by decide) (by decide)
      simp [stop]
  have time : time? (text ++ '\n' :: rest) = none := by
    rw [time?]
    cases hour : fixed? 2 0 23 (text ++ '\n' :: rest) with
    | none => rfl
    | some found =>
      have stop := given?_of_fixed? decimal.all ':' hour (by decide) (by decide)
      simp [stop]
  simp [moment?, dateTime?, date, time]

theorem Decimal.real?_eq (rest : List Char) : real? (text ++ '\n' :: rest) = none := by
  have finite : finiteReal? (text ++ '\n' :: rest) = none := by
    simp [finiteReal?, decimal.sign_eq, decimal.whole?_eq, fraction?, exponent?]
  have special : special? (text ++ '\n' :: rest) = none := by
    rw [special?, decimal.sign_eq]
    split
    next same => exact absurd same (decimal.ne_cons (by decide) _ _)
    next same => exact absurd same (decimal.ne_cons (by decide) _ _)
    next => rfl
  simp [real?, finite, special]

theorem Decimal.integer?_eq (fits : number ≤ largest) (rest : List Char) :
    integer? (text ++ '\n' :: rest) = some (.integer number, '\n' :: rest) := by
  have decimalOnly (letter : Char) (other : letter ≠ '\n') (tail : List Char) :
      text ++ '\n' :: rest ≠ '0' :: letter :: tail := fun same =>
    other (List.cons.inj (decimal.eq_zero same).2).1
  rw [integer?]
  · simp [decimalInteger?, decimal.sign_eq, decimal.whole?_eq, decimal.value, fits]
  · exact decimalOnly 'x' (by decide)
  · exact decimalOnly 'o' (by decide)
  · exact decimalOnly 'b' (by decide)

theorem Decimal.scalarValue?_eq (fits : number ≤ largest) (rest : List Char) :
    scalarValue? (text ++ '\n' :: rest) = some (.integer number, '\n' :: rest) := by
  rw [scalarValue?, decimal.text?_eq, decimal.flag?_eq, decimal.moment?_eq, decimal.real?_eq,
    decimal.integer?_eq fits]
  rfl

end Decimal

theorem written_number {number : Nat} (fits : number ≤ largest) :
    Written (toString number).toList (.integer number) where
  start rest := skipBlanks_of_ne ((decimal_toString number).ne_cons (by decide) _)
    ((decimal_toString number).ne_cons (by decide) _)
  read rest := by
    have decimal := decimal_toString number
    rw [value?_of_ne _ (decimal.ne_cons (by decide) _) (decimal.ne_cons (by decide) _),
      decimal.scalarValue?_eq fits]

end Courier.Toml
