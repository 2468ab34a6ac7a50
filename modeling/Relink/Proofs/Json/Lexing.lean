import Mathlib.Data.List.TakeWhile
import Relink.Proofs.Json.Scan

/-!
# Lexemes behind tokens

Whatever is scanned without a fault is spelled by a lexeme.  So a text all tokens of which could
be read holds lexemes in a row with nothing but blanks around them, one for each token.
-/

namespace Relink

namespace Json

/-! ## Outcomes -/

section Outcomes

variable {α β ε : Type}

theorem exists_ok_of_map {outcome : Except ε α} {change : α → β} {value : β}
    (mapped : outcome.map change = .ok value) :
    ∃ source, outcome = .ok source ∧ change source = value := by
  cases outcome with
  | error fault => cases mapped
  | ok source => exact ⟨source, rfl, Except.ok.inj mapped⟩

theorem exists_ok_of_isOk {outcome : Except ε α} (isOk : outcome.isOk = true) :
    ∃ value, outcome = .ok value := by
  cases outcome with
  | error fault => cases isOk
  | ok value => exact ⟨value, rfl⟩

theorem isOk_map (outcome : Except ε α) (change : α → β) :
    (outcome.map change).isOk = outcome.isOk := by
  cases outcome <;> rfl

theorem toOption_map (outcome : Except ε α) (change : α → β) :
    (outcome.map change).toOption = outcome.toOption.map change := by
  cases outcome <;> rfl

theorem toOption_bind (outcome : Except ε α) (next : α → Except ε β) :
    (outcome.bind next).toOption = outcome.toOption.bind fun value => (next value).toOption := by
  cases outcome <;> rfl

end Outcomes

/-! ## Strings -/

theorem isHexDigit_of_hexDigit? {digit : Char} {value : Nat}
    (read : hexDigit? digit = some value) : isHexDigit digit = true := by
  unfold hexDigit? at read
  split_ifs at read with decimal small capital
  · simp [isHexDigit, Char.isDigit, Char.le_def] at decimal ⊢
    exact Or.inl (Or.inl decimal)
  · simp [isHexDigit, small]
  · simp [isHexDigit, capital]

theorem isHexDigit_of_mapM {digits : Text} {values : List Nat}
    (read : digits.mapM hexDigit? = some values) : ∀ digit ∈ digits, isHexDigit digit := by
  induction digits generalizing values with
  | nil => simp
  | cons digit digits ih =>
      simp only [List.mapM_cons, Option.bind_eq_bind, Option.bind_eq_some_iff] at read
      obtain ⟨value, first, more, later, -⟩ := read
      exact List.forall_mem_cons.2 ⟨isHexDigit_of_hexDigit? first, ih later⟩

theorem byteLength_eq_length {digits : Text} (hex : ∀ digit ∈ digits, isHexDigit digit) :
    Text.byteLength digits = digits.length := by
  have narrow {digit : Char} (isHex : isHexDigit digit = true) : digit.utf8Size = 1 := by
    rw [Char.utf8Size_eq_one_iff, UInt32.le_iff_toNat_le]
    simp [isHexDigit, Char.isDigit, Char.le_def, UInt32.le_iff_toNat_le] at isHex ⊢
    omega
  have counted (total : Nat) :
      digits.foldl (fun total char => total + char.utf8Size) total = total + digits.length := by
    induction digits generalizing total with
    | nil => rfl
    | cons digit digits ih =>
        obtain ⟨first, later⟩ := List.forall_mem_cons.1 hex
        rw [List.foldl_cons, ih later, narrow first, List.length_cons]
        omega
  simpa [Text.byteLength] using counted 0

/-- What is read as a code unit is written with four digits. -/
theorem four_of_hexQuad {text : Text} {unit : Nat} (read : hexQuad text = .ok unit) :
    (text.take 4).length = 4 ∧ ∀ digit ∈ text.take 4, isHexDigit digit := by
  unfold hexQuad at read
  split_ifs at read with short
  split at read
  · rename_i values areValues
    have hex := isHexDigit_of_mapM areValues
    rw [byteLength_eq_length hex] at short
    have atMost := List.length_take_le 4 text
    exact ⟨by omega, hex⟩
  · cases read

theorem mem_escapeLetters {letter : Char} (known : (unescape? letter).isSome = true) :
    letter ∈ escapeLetters := by
  unfold unescape? at known
  split at known <;> simp_all [escapeLetters]

theorem exists_pieces {text rest : Text} (passed : skipString text = .ok rest) :
    ∃ pieces : List Piece, text = pieces.flatMap Piece.text ++ '"' :: rest := by
  fun_induction skipString text with
  | case1 => cases passed
  | case2 behind =>
      obtain rfl := Except.ok.inj passed
      exact ⟨[], rfl⟩
  | case3 => cases passed
  | case4 => cases passed
  | case5 behind unit read ih =>
      obtain ⟨pieces, parts⟩ := ih passed
      obtain ⟨four, hex⟩ := four_of_hexQuad read
      refine ⟨.unit (behind.take 4) four hex :: pieces, ?_⟩
      simp [Piece.text, ← parts]
  | case6 letter behind _ known ih =>
      obtain ⟨pieces, parts⟩ := ih passed
      exact ⟨.escape letter (mem_escapeLetters known) :: pieces, by simp [Piece.text, parts]⟩
  | case7 => cases passed
  | case8 => cases passed
  | case9 char behind notQuote notLast notUnit notEscape printable ih =>
      obtain ⟨pieces, parts⟩ := ih passed
      have plain : char ≠ '\\' := by
        intro escape
        cases behind with
        | nil => exact notLast escape rfl
        | cons letter more => exact notEscape letter more escape rfl
      refine ⟨.plain char ⟨Nat.le_of_not_lt printable, notQuote, plain⟩ :: pieces, ?_⟩
      rw [parts]
      rfl

/-- A string whose value was read can be passed as well. -/
theorem isOk_skipString {text : Text} (kept : (keepString text).isOk = true) :
    (skipString text).isOk = true := by
  fun_induction keepString text with
  | case2 rest => simp [skipString, Except.isOk, Except.toBool]
  | case9 rest unit read _ _ more behind trailing readMore _ ih =>
      rw [isOk_map] at kept
      have pair : rest.drop 10 = more.drop 4 := by
        rw [show 10 = 4 + 2 + 4 from rfl, ← List.drop_drop, ← List.drop_drop, behind]
        rfl
      rw [pair] at ih kept
      simpa [skipString, read, behind, readMore] using ih kept
  | case13 rest unit read _ _ ih =>
      rw [isOk_map] at kept
      simpa [skipString, read] using ih kept
  | case14 char rest notUnit plain known ih =>
      rw [isOk_map] at kept
      simpa [skipString, known] using ih kept
  | case17 char rest notQuote notLast notUnit notEscape printable ih =>
      rw [isOk_map] at kept
      rw [skipString] <;> try assumption
      simpa [printable] using ih kept
  | _ => cases kept

/-! ## Numbers -/

theorem exists_digits {ended : Trouble} {text digits rest : Text}
    (scanned : scanDigits ended text = .ok (digits, rest)) :
    ∃ written : Digits, written.text = digits ∧ text = written.text ++ rest := by
  have cut : (text.span Char.isDigit).1 ++ (text.span Char.isDigit).2 = text := by
    rw [List.span_eq_takeWhile_dropWhile, List.takeWhile_append_dropWhile]
  have isDigit : ∀ char ∈ (text.span Char.isDigit).1, char.isDigit = true := by
    rw [List.span_eq_takeWhile_dropWhile]
    exact fun char => List.mem_takeWhile_imp
  unfold scanDigits at scanned
  split at scanned
  · cases scanned
  · cases scanned
  · rename_i notEmpty notStopped
    rw [Except.ok.inj scanned] at cut isDigit notEmpty notStopped
    have nonempty : digits ≠ [] := by
      rintro rfl
      cases rest with
      | nil => exact notEmpty rfl
      | cons char rest => exact notStopped char rest rfl
    exact ⟨⟨digits, nonempty, isDigit⟩, rfl, cut.symm⟩

theorem exists_exponent {ended : Trouble} {text rest : Text} {power : Int}
    (scanned : scanExponent ended text = .ok (power, rest)) :
    ∃ exponent : Option Exponent, text = exponent.elim [] Exponent.text ++ rest := by
  have present (capital : Bool) (sign : Sign) {more : Text} {change : Text × Text → Int × Text}
      (keeps : ∀ digits behind, (change (digits, behind)).2 = behind)
      (scanned : (scanDigits ended more).map change = .ok (power, rest)) :
      ∃ exponent : Option Exponent, (if capital then 'E' else 'e') :: (sign.text ++ more) =
        exponent.elim [] Exponent.text ++ rest := by
    obtain ⟨⟨digits, behind⟩, read, changed⟩ := exists_ok_of_map scanned
    obtain ⟨written, -, rfl⟩ := exists_digits read
    obtain rfl : behind = rest := by rw [← keeps digits behind, changed]
    exact ⟨some ⟨capital, sign, written⟩, by simp [Exponent.text]⟩
  unfold scanExponent at scanned
  split at scanned
  · split at scanned
    · exact present false .plus (fun _ _ => rfl) scanned
    · exact present false .minus (fun _ _ => rfl) scanned
    · exact present false .unsigned (fun _ _ => rfl) scanned
  · split at scanned
    · exact present true .plus (fun _ _ => rfl) scanned
    · exact present true .minus (fun _ _ => rfl) scanned
    · exact present true .unsigned (fun _ _ => rfl) scanned
  · obtain ⟨-, rfl⟩ := Prod.mk.inj (Except.ok.inj scanned)
    exact ⟨none, rfl⟩

/-- The digits before the point of a number, of which the first is no zero unless it is the only
one. -/
theorem exists_whole {ended : Trouble} {text digits rest : Text}
    (scanned : scanWhole ended text = .ok (digits, rest)) :
    ∃ written : Digits, (written.text.head? = some '0' → written.text = ['0']) ∧
      text = written.text ++ rest := by
  unfold scanWhole at scanned
  split at scanned
  · rename_i next behind
    split_ifs at scanned
    obtain ⟨rfl, rfl⟩ := Prod.mk.inj (Except.ok.inj scanned)
    exact ⟨⟨['0'], by simp, by simp⟩, fun _ => rfl, rfl⟩
  · rename_i alone
    obtain ⟨written, -, rfl⟩ := exists_digits scanned
    refine ⟨written, fun padded => ?_, rfl⟩
    obtain ⟨first, more, parts, -⟩ := written.exists_cons
    obtain rfl : first = '0' := by simpa [parts] using padded
    cases more with
    | nil => exact parts
    | cons next more => exact absurd (by simp [parts]) (alone next (more ++ rest))

theorem exists_unsigned {ended : Trouble} {text rest : Text} {magnitude : Magnitude}
    (scanned : scanUnsigned ended text = .ok (magnitude, rest)) :
    ∃ numeral : Numeral, text = numeral.unsignedText ++ rest := by
  unfold scanUnsigned at scanned
  split at scanned
  · cases scanned
  · rename_i digits behind begun
    obtain ⟨whole, unpadded, parts⟩ := exists_whole begun
    split at scanned
    · cases scanned
    · rename_i fractionDigits later readFraction
      obtain ⟨fraction, -, rfl⟩ := exists_digits readFraction
      obtain ⟨⟨power, left⟩, readPower, changed⟩ := exists_ok_of_map scanned
      obtain ⟨-, rfl⟩ := Prod.mk.inj changed
      obtain ⟨exponent, rfl⟩ := exists_exponent readPower
      refine ⟨⟨false, whole, unpadded, some fraction, exponent⟩, ?_⟩
      simp [parts, Numeral.unsignedText, Numeral.fractionText, Numeral.exponentText]
  · rename_i digits behind _ begun
    obtain ⟨whole, unpadded, parts⟩ := exists_whole begun
    obtain ⟨⟨power, left⟩, readPower, changed⟩ := exists_ok_of_map scanned
    obtain ⟨-, rfl⟩ := Prod.mk.inj changed
    obtain ⟨exponent, rfl⟩ := exists_exponent readPower
    refine ⟨⟨false, whole, unpadded, none, exponent⟩, ?_⟩
    simp [parts, Numeral.unsignedText, Numeral.fractionText, Numeral.exponentText]

theorem exists_numeral {ended : Trouble} {text rest : Text} {magnitude : Magnitude}
    (scanned : scanNumber ended text = .ok (magnitude, rest)) :
    ∃ numeral : Numeral, text = numeral.text ++ rest := by
  unfold scanNumber at scanned
  split at scanned
  · obtain ⟨numeral, rfl⟩ := exists_unsigned scanned
    exact ⟨{ numeral with negative := true }, rfl⟩
  · obtain ⟨numeral, rfl⟩ := exists_unsigned scanned
    exact ⟨{ numeral with negative := false }, rfl⟩

/-! ## The trouble of a number that ends early -/

section

variable (ended other : Trouble) (text : Text)

theorem toOption_scanDigits :
    (scanDigits ended text).toOption = (scanDigits other text).toOption := by
  unfold scanDigits
  split <;> rfl

theorem toOption_scanExponent :
    (scanExponent ended text).toOption = (scanExponent other text).toOption := by
  have digits (more : Text) := toOption_scanDigits ended other more
  unfold scanExponent
  split
  · split <;> simp only [toOption_map, digits]
  · split <;> simp only [toOption_map, digits]
  · rfl

theorem toOption_scanWhole :
    (scanWhole ended text).toOption = (scanWhole other text).toOption := by
  unfold scanWhole
  split
  · rfl
  · exact toOption_scanDigits ended other text

theorem scanUnsigned_eq_bind : scanUnsigned ended text =
    (scanWhole ended text).bind fun (whole, rest) =>
      match rest with
      | '.' :: behind =>
          (scanDigits ended behind).bind fun (fraction, behind) =>
            (scanExponent ended behind).map fun (exponent, behind) =>
              (.ofDigits whole fraction exponent, behind)
      | _ =>
          (scanExponent ended rest).map fun (exponent, behind) =>
            (.ofDigits whole [] exponent, behind) := by
  unfold scanUnsigned
  cases scanWhole ended text with
  | error fault => rfl
  | ok parts =>
      obtain ⟨whole, rest⟩ := parts
      rcases rest with _ | ⟨char, behind⟩
      · rfl
      by_cases point : char = '.'
      · subst point
        simp only [Except.bind]
        cases scanDigits ended behind <;> rfl
      · simp [Except.bind, point]

theorem toOption_scanUnsigned :
    (scanUnsigned ended text).toOption = (scanUnsigned other text).toOption := by
  rw [scanUnsigned_eq_bind, scanUnsigned_eq_bind, toOption_bind, toOption_bind,
    toOption_scanWhole ended other]
  congr 1
  funext ⟨whole, rest⟩
  dsimp only
  split
  · simp only [toOption_bind, toOption_map, toOption_scanDigits ended other,
      toOption_scanExponent ended other]
  · simp only [toOption_map, toOption_scanExponent ended other]

/-- Whether a number can be read does not depend on how it is blamed for ending early. -/
theorem toOption_scanNumber :
    (scanNumber ended text).toOption = (scanNumber other text).toOption := by
  unfold scanNumber
  split
  · exact toOption_scanUnsigned ended other _
  · exact toOption_scanUnsigned ended other _

end

/-- A number of a size that can be represented can be passed as well. -/
theorem isOk_skipNumber {text : Text} (kept : (keepNumber text).isOk = true) :
    (skipNumber text).isOk = true := by
  have same := toOption_scanNumber .unfinished .malformed text
  unfold keepNumber at kept
  rw [skipNumber, isOk_map]
  cases first : scanNumber .unfinished text with
  | error fault => simp [first, Except.isOk, Except.toBool] at kept
  | ok outcome =>
      cases second : scanNumber .malformed text with
      | error fault => simp [first, second, Except.toOption] at same
      | ok _ => rfl

/-! ## Tokens -/

theorem eq_append_of_scanWord {letters text rest : Text}
    (scanned : scanWord letters text = .ok rest) : text = letters ++ rest := by
  fun_induction scanWord letters text with
  | case1 text => exact Except.ok.inj scanned
  | case2 => cases scanned
  | case3 letter letters behind ih => rw [ih scanned, List.cons_append]
  | case4 => cases scanned

/-- A token that could be read, be it to keep its value or only to pass it. -/
def Shape.IsRead : Shape → Prop
  | .mark _ => True
  | .quoted kept skipped => kept.isOk ∨ skipped.isOk
  | .number kept skipped => kept.isOk ∨ skipped.isOk
  | .word _ spelled => spelled.isOk
  | .stray => False

/-- The lexeme that makes a token, as far as readers tell lexemes apart. -/
def Shape.Shows (lexeme : Lexeme) : Shape → Prop
  | .mark char => ∃ kind : Mark, kind.char = char ∧ lexeme = .mark kind
  | .quoted _ _ => ∃ pieces, lexeme = .string pieces
  | .number _ _ => ∃ numeral, lexeme = .number numeral
  | .word value _ => lexeme = .word value
  | .stray => False

def Lexeme.Makes (lexeme : Lexeme) (token : Token) : Prop :=
  token.shape.Shows lexeme

/-- A token that could be read is spelled by a lexeme, and the text goes on behind it. -/
theorem exists_lexeme {char : Char} {rest : Text} (isRead : (scanShape char rest).1.IsRead) :
    ∃ lexeme behind, (scanShape char rest).2 = some behind ∧
      char :: rest = lexeme.text ++ behind ∧ (scanShape char rest).1.Shows lexeme := by
  have word (value : Option Bool) {letters : Text} (spelled : char :: letters = wordText value)
      (isRead : (Shape.word value ((scanWord letters rest).map fun _ => ())).IsRead) :
      ∃ lexeme behind, (scanWord letters rest).toOption = some behind ∧
        char :: rest = lexeme.text ++ behind ∧
          (Shape.word value ((scanWord letters rest).map fun _ => ())).Shows lexeme := by
    obtain ⟨behind, scanned⟩ := exists_ok_of_isOk ((isOk_map _ _).symm.trans isRead)
    refine ⟨.word value, behind, by rw [scanned]; rfl, ?_, rfl⟩
    rw [eq_append_of_scanWord scanned, Lexeme.text, ← spelled, List.cons_append]
  revert isRead
  unfold scanShape
  split_ifs with quote number isN isT isF mark
  · intro isRead
    have passed : (skipString rest).isOk = true :=
      isRead.elim isOk_skipString (isOk_map _ _).symm.trans
    obtain ⟨behind, skipped⟩ := exists_ok_of_isOk passed
    obtain ⟨pieces, parts⟩ := exists_pieces skipped
    exact ⟨.string pieces, behind, by rw [skipped]; rfl, by simp [quote, parts, Lexeme.text],
      pieces, rfl⟩
  · intro isRead
    have passed : (skipNumber (char :: rest)).isOk = true :=
      isRead.elim isOk_skipNumber (isOk_map _ _).symm.trans
    obtain ⟨behind, skipped⟩ := exists_ok_of_isOk passed
    obtain ⟨⟨magnitude, left⟩, scanned, rfl⟩ := exists_ok_of_map skipped
    obtain ⟨numeral, parts⟩ := exists_numeral scanned
    exact ⟨.number numeral, left, by dsimp only; rw [skipped]; rfl, parts, numeral, rfl⟩
  · subst isN
    exact word none rfl
  · subst isT
    exact word (some true) rfl
  · subst isF
    exact word (some false) rfl
  · intro _
    have isMark : ∃ kind : Mark, kind.char = char := by
      simp only [List.contains_eq_mem, decide_eq_true_eq, List.mem_cons, List.not_mem_nil,
        or_false] at mark
      rcases mark with rfl | rfl | rfl | rfl | rfl | rfl
      · exact ⟨.openBrace, rfl⟩
      · exact ⟨.closeBrace, rfl⟩
      · exact ⟨.openBracket, rfl⟩
      · exact ⟨.closeBracket, rfl⟩
      · exact ⟨.colon, rfl⟩
      · exact ⟨.comma, rfl⟩
    obtain ⟨kind, rfl⟩ := isMark
    exact ⟨.mark kind, rest, rfl, rfl, kind, rfl, rfl⟩
  · exact False.elim

theorem Lexeme.exists_first (lexeme : Lexeme) :
    ∃ first more, lexeme.text = first :: more ∧ isBlank first = false := by
  obtain ⟨first, more, parts, seen, -⟩ := lexeme.exists_scanShape
  exact ⟨first, more, parts, seen⟩

theorem Lexeme.text_ne_nil (lexeme : Lexeme) : lexeme.text ≠ [] := by
  obtain ⟨first, more, parts, -⟩ := lexeme.exists_first
  simp [parts]

-- The limit only has to leave room for all tokens: each takes a character at least.
theorem exists_lexemes_of_tokensUpTo {limit : Nat} {text : Text} (enough : text.length ≤ limit)
    (areRead : ∀ token ∈ tokensUpTo limit text, token.shape.IsRead) :
    ∃ lexemes, List.Forall₂ Lexeme.Makes lexemes (tokensUpTo limit text) ∧
      Spaced lexemes text := by
  induction limit generalizing text with
  | zero =>
      obtain rfl := List.eq_nil_of_length_eq_zero (Nat.le_zero.1 enough)
      exact ⟨[], .nil, .last (List.forall_mem_nil _)⟩
  | succ limit ih =>
      have areBlank : ∀ char ∈ text.takeWhile isBlank, isBlank char :=
        fun char => List.mem_takeWhile_imp
      have cut := List.takeWhile_append_dropWhile (p := isBlank) (l := text)
      rw [tokensUpTo] at areRead ⊢
      cases seen : text.dropWhile isBlank with
      | nil =>
          rw [seen, List.append_nil] at cut
          exact ⟨[], .nil, cut ▸ .last areBlank⟩
      | cons char rest =>
          rw [seen] at areRead cut
          cases scanned : scanShape char rest with
          | mk shape behind? =>
              simp only [scanned] at areRead ⊢
              have isRead : (scanShape char rest).1.IsRead := by
                rw [scanned]
                cases behind? <;> exact areRead _ List.mem_cons_self
              obtain ⟨lexeme, behind, goesOn, parts, shows⟩ := exists_lexeme isRead
              rw [scanned] at goesOn shows
              obtain rfl : behind? = some behind := goesOn
              have shorter : behind.length ≤ limit := by
                have some := List.length_pos_iff.2 lexeme.text_ne_nil
                have whole := congrArg List.length cut
                simp only [parts, List.length_append] at whole
                omega
              obtain ⟨lexemes, showsAll, spaced⟩ :=
                ih shorter fun token member => areRead token (List.mem_cons_of_mem _ member)
              refine ⟨lexeme :: lexemes, .cons shows showsAll, ?_⟩
              rw [← cut, parts]
              exact .next areBlank spaced

/-- A text all tokens of which could be read holds the lexemes of these tokens. -/
theorem exists_lexemes {text : Text} (areRead : ∀ token ∈ tokens text, token.shape.IsRead) :
    ∃ lexemes, List.Forall₂ Lexeme.Makes lexemes (tokens text) ∧ Spaced lexemes text :=
  exists_lexemes_of_tokensUpTo le_rfl areRead

/-! ## The front of a text -/

theorem Spaced.eq_nil_of_blank {text : Text} {lexemes : List Lexeme} (spaced : Spaced lexemes text)
    (areBlank : ∀ char ∈ text, isBlank char) : lexemes = [] := by
  cases spaced with
  | last _ => rfl
  | @next blanks behind lexeme lexemes _ _ =>
      obtain ⟨first, more, parts, seen⟩ := lexeme.exists_first
      have blank := areBlank first (by simp [parts])
      rw [seen] at blank
      cases blank

/-- Behind a first character that is no blank stands the rest of the first lexeme. -/
theorem Spaced.exists_first {char : Char} {text : Text} {lexemes : List Lexeme}
    (spaced : Spaced lexemes (char :: text)) (seen : isBlank char = false) :
    ∃ lexeme rest more behind, lexemes = lexeme :: rest ∧ lexeme.text = char :: more ∧
      text = more ++ behind ∧ Spaced rest behind := by
  generalize whole : char :: text = all at spaced
  cases spaced with
  | last areBlank =>
      have blank := areBlank char (by simp [← whole])
      rw [seen] at blank
      cases blank
  | @next blanks behind lexeme rest areBlank spacedBehind =>
      cases blanks with
      | nil =>
          obtain ⟨first, more, parts, -⟩ := lexeme.exists_first
          rw [parts] at whole
          obtain ⟨rfl, rfl⟩ := List.cons.inj whole
          exact ⟨lexeme, rest, more, behind, rfl, parts, rfl, spacedBehind⟩
      | cons blank blanks =>
          obtain ⟨rfl, -⟩ := List.cons.inj whole
          have blank := areBlank char List.mem_cons_self
          rw [seen] at blank
          cases blank

theorem Spaced.of_blank_cons {blank : Char} {text : Text} {lexemes : List Lexeme}
    (spaced : Spaced lexemes (blank :: text)) (unseen : isBlank blank = true) :
    Spaced lexemes text := by
  generalize whole : blank :: text = all at spaced
  cases spaced with
  | last areBlank => exact .last fun char member => areBlank char (by simp [← whole, member])
  | @next blanks behind lexeme rest areBlank spacedBehind =>
      cases blanks with
      | nil =>
          obtain ⟨first, more, parts, seen⟩ := lexeme.exists_first
          rw [parts] at whole
          obtain ⟨rfl, -⟩ := List.cons.inj whole
          rw [seen] at unseen
          cases unseen
      | cons char blanks =>
          obtain ⟨rfl, rfl⟩ := List.cons.inj whole
          exact .next (List.forall_mem_cons.1 areBlank).2 spacedBehind

theorem Spaced.of_blanks_append {blanks text : Text} {lexemes : List Lexeme}
    (spaced : Spaced lexemes (blanks ++ text)) (areBlank : ∀ char ∈ blanks, isBlank char) :
    Spaced lexemes text := by
  induction blanks with
  | nil => exact spaced
  | cons blank blanks ih =>
      obtain ⟨unseen, later⟩ := List.forall_mem_cons.1 areBlank
      exact ih (spaced.of_blank_cons unseen) later

end Json

end Relink
