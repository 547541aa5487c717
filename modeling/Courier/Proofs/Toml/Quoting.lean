import Courier.Toml.Quoted
import Courier.Toml.Quoting

namespace Courier.Toml

variable {char mark : Char} {chars text rest : List Char}

/-- Put a character in front of what was read. -/
def behind (char : Char) (found : List Char × List Char) : List Char × List Char :=
  (char :: found.1, found.2)

theorem isPrintable_of_not_isControl (control : isControl char = false) (newline : char ≠ '\n') :
    isPrintable char := by
  simp only [isControl, isPrintable] at *
  grind

theorem ne_return_of_not_isControl (control : isControl char = false) : char ≠ '\r' := by
  rintro rfl
  exact absurd control (by decide)

theorem toNat_of_isControl (control : isControl char) : char.toNat < 128 := by
  simp only [isControl, Bool.or_eq_true, Bool.and_eq_true, beq_iff_eq, decide_eq_true_eq] at control
  obtain ⟨⟨low, -⟩, -⟩ | rfl := control
  · exact Nat.lt_trans (show char.toNat < ' '.toNat from low) (by decide)
  · decide

theorem hex?_hexDigit : ∀ digit < 16, Digit.hex? (hexDigit digit) = some digit := by
  decide

/-- The escape behind a backslash stands for the character and does not continue the line. -/
structure Escapes (escape : List Char) (char : Char) : Prop where
  read : ∀ rest, escape? (escape ++ rest) = some (char, rest)
  onLine : ∀ rest, continuation? (escape ++ rest) = none

theorem escapes_code (small : char.toNat < 256) :
    Escapes ['u', '0', '0', hexDigit (char.toNat / 16), hexDigit (char.toNat % 16)] char where
  read rest := by
    have high := hex?_hexDigit (char.toNat / 16) (by omega)
    have low := hex?_hexDigit (char.toNat % 16) (by omega)
    have zero : Digit.hex? '0' = some 0 := by decide
    have value : char.toNat / 16 * 16 + char.toNat % 16 = char.toNat := by omega
    have valid : char.toNat.isValidChar := char.valid
    simp [escape?, scalar?, hexNumber?, zero, high, low, value, valid]
  onLine rest := rfl

theorem escapes_mark : Escapes ['"'] '"' :=
  ⟨fun _ => rfl, fun _ => rfl⟩

theorem escapes_of_escapeOf? {lines : Bool} {escaped : List Char}
    (found : escapeOf? char lines = some escaped) :
    ∃ escape, escaped = '\\' :: escape ∧ Escapes escape char := by
  unfold escapeOf? at found
  split at found
  case h_3 =>
    split at found <;> cases found
    exact ⟨_, rfl, fun _ => rfl, fun _ => rfl⟩
  case h_7 =>
    split at found <;> cases found
    rename_i control
    exact ⟨_, rfl, escapes_code (Nat.lt_trans (toNat_of_isControl control) (by decide))⟩
  all_goals
    cases found
    exact ⟨_, rfl, fun _ => rfl, fun _ => rfl⟩

theorem of_escapeOf?_eq_none {lines : Bool} (found : escapeOf? char lines = none) :
    isControl char = false ∧ char ≠ '\\' ∧ (char = '\n' → lines) := by
  unfold escapeOf? at found
  split at found <;> grind [isControl]

theorem isBasic_of_escapeOf?_eq_none {lines : Bool} (found : escapeOf? char lines = none)
    (unmarked : char ≠ '"') (newline : char ≠ '\n') : isBasic char := by
  obtain ⟨control, backslash, -⟩ := of_escapeOf?_eq_none found
  simp [isBasic, isPrintable_of_not_isControl control newline, unmarked, backslash]

theorem escapeFrom_cons {lines : Bool} {free run : Nat} (unmarked : char ≠ '"') :
    escapeFrom lines free run (char :: chars) =
      (escapeOf? char lines).getD [char] ++ escapeFrom lines free 0 chars := by
  rw [escapeFrom]
  · cases escapeOf? char lines <;> rfl
  · exact unmarked

theorem escapeFrom_mark {lines : Bool} {free run : Nat} :
    escapeFrom lines free run ('"' :: chars) =
      if run < free then '"' :: escapeFrom lines free (run + 1) chars
      else '\\' :: '"' :: escapeFrom lines free 0 chars := by
  rw [escapeFrom]

/-- What the first written character can be: the start of an escape, or the first character of the
text where it stands for itself. -/
theorem head_escapeFrom {lines : Bool} {free run : Nat} (head : Char)
    (leads : (escapeFrom lines free run chars).head? = some head) :
    head = '\\' ∨ chars.head? = some head ∧ (head = '"' → run < free) ∧
      (head ≠ '"' → escapeOf? head lines = none) := by
  cases chars with
  | nil => simp [escapeFrom] at leads
  | cons first chars =>
    by_cases marked : first = '"'
    · subst marked
      rw [escapeFrom_mark] at leads
      split at leads <;> cases leads
      · exact .inr ⟨rfl, fun _ => ‹_›, fun unmarked => absurd rfl unmarked⟩
      · exact .inl rfl
    rw [escapeFrom_cons marked] at leads
    cases escaped : escapeOf? first lines with
    | some written =>
      obtain ⟨escape, rfl, -⟩ := escapes_of_escapeOf? escaped
      simp only [escaped] at leads
      cases leads
      exact .inl rfl
    | none =>
      simp only [escaped] at leads
      cases leads
      exact .inr ⟨rfl, fun same => absurd same marked, fun _ => escaped⟩

theorem basic?_mark : basic? ('"' :: rest) = some ([], rest) := by
  rw [basic?]

theorem basic?_escape {escape : List Char} (escapes : Escapes escape char) (rest : List Char) :
    basic? ('\\' :: (escape ++ rest)) = (basic? rest).map (behind char) := by
  rw [basic?]
  split
  next none => simp [escapes.read] at none
  next found =>
    obtain ⟨rfl, rfl⟩ : char = _ ∧ rest = _ := by simpa [escapes.read] using found
    rfl

theorem basic?_cons (plain : isBasic char) (rest : List Char) :
    basic? (char :: rest) = (basic? rest).map (behind char) := by
  rw [basic?]
  · simp only [plain, if_true]
    rfl
  all_goals
    rintro rfl
    exact absurd plain (by decide)

theorem basic?_escapeFrom (run : Nat) :
    basic? (escapeFrom false 0 run chars ++ '"' :: rest) = some (chars, rest) := by
  induction chars generalizing run with
  | nil => exact basic?_mark
  | cons char chars ih =>
    by_cases marked : char = '"'
    · subst marked
      rw [escapeFrom_mark, if_neg (Nat.not_lt_zero run)]
      exact (basic?_escape escapes_mark _).trans (congrArg _ (ih 0))
    rw [escapeFrom_cons marked]
    cases escaped : escapeOf? char false with
    | some written =>
      obtain ⟨escape, rfl, escapes⟩ := escapes_of_escapeOf? escaped
      simpa [ih, behind] using basic?_escape escapes (escapeFrom false 0 0 chars ++ '"' :: rest)
    | none =>
      have newline : char ≠ '\n' := fun same => by
        simpa using (of_escapeOf?_eq_none escaped).2.2 same
      have plain := isBasic_of_escapeOf?_eq_none escaped marked newline
      simp [basic?_cons plain, ih, behind]

theorem literal?_append (plain : ∀ char ∈ chars, isLiteral char) :
    literal? (chars ++ '\'' :: rest) = some (chars, rest) := by
  induction chars with
  | nil => rfl
  | cons char chars ih =>
    obtain ⟨first, others⟩ := List.forall_mem_cons.mp plain
    rw [List.cons_append, literal?]
    · simp [first, ih others]
    · rintro rfl
      exact absurd first (by decide)

/-- A reader of a text between tripled marks. -/
structure ReadsTripled (mark : Char) (read? : List Char → Option (List Char × List Char)) :
    Prop where
  close : ∀ rest, read? (mark :: mark :: mark :: rest) = some (closing mark rest)
  step : ∀ rest, ¬[mark, mark] <+: rest → read? (mark :: rest) = (read? rest).map (behind mark)

theorem closing_of_ne (ends : rest.head? ≠ some mark) : closing mark rest = ([], rest) := by
  match rest with
  | [] => rfl
  | [single] => simp_all [closing]
  | first :: second :: rest => simp_all [closing]

theorem closing_mark (ends : rest.head? ≠ some mark) :
    closing mark (mark :: rest) = ([mark], rest) := by
  match rest with
  | [] => simp [closing]
  | first :: rest => simp_all [closing]

theorem closing_mark_mark : closing mark (mark :: mark :: rest) = ([mark, mark], rest) := by
  simp [closing]

section Tripled

variable {read? : List Char → Option (List Char × List Char)}

theorem ReadsTripled.nil (reads : ReadsTripled mark read?) (ends : rest.head? ≠ some mark) :
    read? (mark :: mark :: mark :: rest) = some ([], rest) := by
  rw [reads.close, closing_of_ne ends]

/-- A mark in front of at most one other stands for itself, also right in front of the three that
close the text. -/
theorem ReadsTripled.stays (reads : ReadsTripled mark read?) (ends : rest.head? ≠ some mark)
    (few : ¬[mark, mark] <+: text)
    (found : read? (text ++ mark :: mark :: mark :: rest) = some (chars, rest)) :
    read? (mark :: text ++ mark :: mark :: mark :: rest) = some (mark :: chars, rest) := by
  -- With nothing but marks left, the reader takes the first three for the closing ones.
  match text with
  | [] =>
    obtain rfl : chars = [] := by simpa [reads.nil ends] using found.symm
    exact (reads.close _).trans (congrArg some (closing_mark ends))
  | [single] =>
    by_cases same : single = mark
    · subst same
      obtain rfl : chars = [single] := by
        simpa [reads.close, closing_mark ends] using found.symm
      exact (reads.close _).trans (congrArg some closing_mark_mark)
    · rw [List.cons_append, reads.step, found]
      · rfl
      · simp [Ne.symm same]
  | first :: second :: text =>
    rw [List.cons_append, reads.step, found]
    · rfl
    · simpa using few

end Tripled

theorem readsTripled_basicLines? : ReadsTripled '"' basicLines? where
  close rest := by rw [basicLines?]
  step rest few := by
    rw [basicLines?]
    · rfl
    · rintro tail rfl
      exact few ⟨tail, rfl⟩

theorem readsTripled_literalLines? : ReadsTripled '\'' literalLines? where
  close rest := by rw [literalLines?]
  step rest few := by
    rw [literalLines?]
    · rfl
    · rintro tail rfl
      exact few ⟨tail, rfl⟩

theorem basicLines?_escape {escape : List Char} (escapes : Escapes escape char)
    (rest : List Char) :
    basicLines? ('\\' :: (escape ++ rest)) = (basicLines? rest).map (behind char) := by
  rw [basicLines?]
  split
  next found => simp [escapes.onLine] at found
  split
  next none => simp [escapes.read] at none
  next found =>
    obtain ⟨rfl, rfl⟩ : char = _ ∧ rest = _ := by simpa [escapes.read] using found
    rfl

theorem basicLines?_newline (rest : List Char) :
    basicLines? ('\n' :: rest) = (basicLines? rest).map (behind '\n') := by
  rw [basicLines?]
  rfl

theorem basicLines?_cons (plain : isBasic char) (rest : List Char) :
    basicLines? (char :: rest) = (basicLines? rest).map (behind char) := by
  rw [basicLines?]
  · simp only [plain, if_true]
    rfl
  all_goals
    intros
    subst_vars
    exact absurd plain (by decide)

/-- Behind a mark that stands for itself, not both of the next two do. -/
theorem not_marks_prefix_escapeFrom (lines : Bool) (run : Nat) (chars : List Char) :
    ¬['"', '"'] <+: escapeFrom lines 2 (run + 1) chars := by
  rintro ⟨tail, twice⟩
  obtain backslash | ⟨leads, few, -⟩ :=
    head_escapeFrom '"' (congrArg List.head? twice).symm
  · exact absurd backslash (by decide)
  obtain ⟨chars, rfl⟩ := List.head?_eq_some_iff.mp leads
  rw [escapeFrom_mark, if_pos (few rfl)] at twice
  obtain backslash | ⟨-, fewer, -⟩ :=
    head_escapeFrom '"' (congrArg List.head? (List.cons.inj twice).2).symm
  · exact absurd backslash (by decide)
  · exact absurd (fewer rfl) (by omega)

theorem basicLines?_escapeFrom (ends : rest.head? ≠ some '"') (run : Nat) :
    basicLines? (escapeFrom true 2 run chars ++ '"' :: '"' :: '"' :: rest) =
      some (chars, rest) := by
  induction chars generalizing run with
  | nil => exact readsTripled_basicLines?.nil ends
  | cons char chars ih =>
    by_cases marked : char = '"'
    · subst marked
      rw [escapeFrom_mark]
      split
      · exact readsTripled_basicLines?.stays ends (not_marks_prefix_escapeFrom true run chars)
          (ih (run + 1))
      · exact (basicLines?_escape escapes_mark _).trans (congrArg _ (ih 0))
    rw [escapeFrom_cons marked]
    cases escaped : escapeOf? char true with
    | some written =>
      obtain ⟨escape, rfl, escapes⟩ := escapes_of_escapeOf? escaped
      simpa [ih, behind] using
        basicLines?_escape escapes (escapeFrom true 2 0 chars ++ '"' :: '"' :: '"' :: rest)
    | none =>
      by_cases newline : char = '\n'
      · subst newline
        simp [basicLines?_newline, ih, behind]
      · have plain := isBasic_of_escapeOf?_eq_none escaped marked newline
        simp [basicLines?_cons plain, ih, behind]

/-- At most `limit` marks stand in a row; `run` of them stand in front. -/
def RunsWithin (mark : Char) (limit : Nat) : Nat → List Char → Prop
  | _, [] => True
  | run, char :: chars =>
    if char = mark then run < limit ∧ RunsWithin mark limit (run + 1) chars
    else RunsWithin mark limit 0 chars

theorem runsWithin_of_longestRun_le {limit : Nat} (within : longestRun mark chars ≤ limit) :
    RunsWithin mark limit 0 chars := by
  -- The induction is over a count that has begun: the current run and the longest so far.
  suffices begun : ∀ count : Nat × Nat,
      (chars.foldl (fun count char =>
        if char = mark then (count.1 + 1, max count.2 (count.1 + 1)) else (0, count.2)) count).2 ≤
          limit → count.2 ≤ limit ∧ RunsWithin mark limit count.1 chars from
    (begun (0, 0) within).2
  clear within
  induction chars with
  | nil => exact fun _ within => ⟨within, trivial⟩
  | cons char chars ih =>
    intro count within
    rw [List.foldl_cons] at within
    obtain ⟨longest, others⟩ := ih _ within
    rw [RunsWithin]
    split
    next same =>
      rw [if_pos same] at longest others
      exact ⟨by omega, by omega, others⟩
    next other =>
      rw [if_neg other] at longest others
      exact ⟨longest, others⟩

theorem not_mem_of_runsWithin_zero {run : Nat} (within : RunsWithin mark 0 run chars) :
    mark ∉ chars := by
  induction chars generalizing run with
  | nil => exact List.not_mem_nil
  | cons char chars ih =>
    rw [RunsWithin] at within
    split at within
    · omega
    · rename_i other
      simp [Ne.symm other, ih within]

theorem not_marks_prefix_of_runsWithin {run : Nat} (within : RunsWithin mark 2 (run + 1) chars) :
    ¬[mark, mark] <+: chars := by
  rintro ⟨tail, rfl⟩
  simp only [List.cons_append, RunsWithin, if_true] at within
  omega

theorem literalLines?_newline (rest : List Char) :
    literalLines? ('\n' :: rest) = (literalLines? rest).map (behind '\n') := by
  rw [literalLines?]
  rfl

theorem literalLines?_cons (plain : isLiteral char) (rest : List Char) :
    literalLines? (char :: rest) = (literalLines? rest).map (behind char) := by
  rw [literalLines?]
  · simp only [plain, if_true]
    rfl
  all_goals
    intros
    subst_vars
    exact absurd plain (by decide)

theorem literalLines?_append (ends : rest.head? ≠ some '\'') {run : Nat}
    (within : RunsWithin '\'' 2 run chars) (clean : ∀ char ∈ chars, isControl char = false) :
    literalLines? (chars ++ '\'' :: '\'' :: '\'' :: rest) = some (chars, rest) := by
  induction chars generalizing run with
  | nil => exact readsTripled_literalLines?.nil ends
  | cons char chars ih =>
    obtain ⟨control, others⟩ := List.forall_mem_cons.mp clean
    rw [RunsWithin] at within
    split at within
    · subst char
      exact readsTripled_literalLines?.stays ends (not_marks_prefix_of_runsWithin within.2)
        (ih within.2 others)
    · rename_i unmarked
      have found := ih within others
      by_cases newline : char = '\n'
      · subst newline
        simp [literalLines?_newline, found, behind]
      · have plain : isLiteral char := by
          simp [isLiteral, isPrintable_of_not_isControl control newline, unmarked]
        simp [literalLines?_cons plain, found, behind]

theorem of_styleOf_eq_literal (style : styleOf chars = .literal) :
    (∀ char ∈ chars, isControl char = false) ∧ '\'' ∉ chars ∧ '\n' ∉ chars := by
  have fits : (!chars.any isControl && longestRun '\'' chars == 0 && !chars.contains '\n') := by
    simp only [styleOf] at style
    grind
  simp only [Bool.and_eq_true, Bool.not_eq_true', beq_iff_eq, List.any_eq_false] at fits
  obtain ⟨⟨clean, none⟩, newline⟩ := fits
  have unmarked := not_mem_of_runsWithin_zero (runsWithin_of_longestRun_le (Nat.le_of_eq none))
  exact ⟨by simpa using clean, unmarked, by simpa using newline⟩

theorem of_styleOf_eq_literalLines (style : styleOf chars = .literalLines) :
    (∀ char ∈ chars, isControl char = false) ∧ RunsWithin '\'' 2 0 chars := by
  have fits : !chars.any isControl && longestRun '\'' chars ≤ 2 := by
    simp only [styleOf] at style
    grind
  simp only [Bool.and_eq_true, Bool.not_eq_true', decide_eq_true_eq, List.any_eq_false] at fits
  exact ⟨by simpa using fits.1, runsWithin_of_longestRun_le fits.2⟩

theorem quoted?_basic (few : ¬['"', '"'] <+: text) : quoted? ('"' :: text) = basic? text := by
  rw [quoted?]
  · rfl
  · rintro tail same
    cases same
    exact few ⟨tail, rfl⟩
  · rintro tail same
    cases same

theorem quoted?_literal (few : ¬['\'', '\''] <+: text) :
    quoted? ('\'' :: text) = literal? text := by
  rw [quoted?]
  · rfl
  · rintro tail same
    cases same
  · rintro tail same
    cases same
    exact few ⟨tail, rfl⟩

theorem not_marks_prefix_of_head (unmarked : text.head? ≠ some mark) (ends : mark ≠ '\n') :
    ¬[mark, mark] <+: text ++ mark :: '\n' :: rest := by
  cases text with
  | nil => simp [ends]
  | cons first text => simp_all [eq_comm]

/-- The newline that is written in front of a text with newlines is the one that is skipped. -/
theorem skipNewline_opening (starts : '\n' ∉ chars → newline? text = none) :
    skipNewline ((if chars.contains '\n' then ['\n'] else []) ++ text) = text := by
  split
  · rfl
  · rename_i line
    rw [List.nil_append, skipNewline, starts (by simpa using line)]
    rfl

theorem newline?_append_of_head {tail : List Char}
    (starts : ∀ head, text.head? = some head → head ≠ '\n' ∧ head ≠ '\r')
    (first : char ≠ '\n') (second : char ≠ '\r') : newline? (text ++ char :: tail) = none := by
  cases text with
  | nil => simp [newline?, first, second]
  | cons head text =>
    have := starts head rfl
    simp [newline?, this.1, this.2]

/-- A quoted text at the end of a line is read as the characters that it was made of. -/
theorem quoted?_quote (chars rest : List Char) :
    quoted? (quote chars ++ '\n' :: rest) = some (chars, '\n' :: rest) := by
  have ends (mark : Char) (other : mark ≠ '\n') : ('\n' :: rest).head? ≠ some mark := by
    simpa using Ne.symm other
  cases style : styleOf chars <;> simp only [quote, quoteAs, style, List.append_assoc]
  case basic =>
    have unmarked : (escapeFrom false 0 0 chars).head? ≠ some '"' := fun marked => by
      simpa using head_escapeFrom '"' marked
    exact (quoted?_basic (not_marks_prefix_of_head unmarked (by decide))).trans
      (basic?_escapeFrom 0)
  case literal =>
    obtain ⟨clean, unmarked, line⟩ := of_styleOf_eq_literal style
    have plain : ∀ char ∈ chars, isLiteral char := fun char member => by
      have newline : char ≠ '\n' := fun same => line (same ▸ member)
      have other : char ≠ '\'' := fun same => unmarked (same ▸ member)
      simp [isLiteral, isPrintable_of_not_isControl (clean char member) newline, other]
    have head : chars.head? ≠ some '\'' := fun marked => unmarked (List.mem_of_head? marked)
    exact (quoted?_literal (not_marks_prefix_of_head head (by decide))).trans
      (literal?_append plain)
  case basicLines =>
    refine Eq.trans (congrArg basicLines? (skipNewline_opening fun line => ?_))
      (basicLines?_escapeFrom (ends '"' (by decide)) 0)
    refine newline?_append_of_head (fun head leads => ?_) (by decide) (by decide)
    obtain rfl | ⟨first, -, unescaped⟩ := head_escapeFrom head leads
    · decide
    by_cases marked : head = '"'
    · subst marked
      decide
    · have control := (of_escapeOf?_eq_none (unescaped marked)).1
      exact ⟨fun same => line (same ▸ List.mem_of_head? first),
        ne_return_of_not_isControl control⟩
  case literalLines =>
    obtain ⟨clean, within⟩ := of_styleOf_eq_literalLines style
    refine Eq.trans (congrArg literalLines? (skipNewline_opening fun line => ?_))
      (literalLines?_append (ends '\'' (by decide)) within clean)
    refine newline?_append_of_head (fun head leads => ?_) (by decide) (by decide)
    have member := List.mem_of_head? leads
    exact ⟨fun same => line (same ▸ member), ne_return_of_not_isControl (clean head member)⟩

end Courier.Toml
