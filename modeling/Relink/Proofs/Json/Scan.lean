import Mathlib.Data.List.Forall2
import Mathlib.Data.List.TakeDrop
import Relink.Proofs.Json.Document

/-!
# Scanning the lexemes of a document

The tokens of a text in which lexemes stand with blanks between them are the tokens of these
lexemes, one for each.  What a token gives does not depend on the blanks, but for the rest of
the text that is kept with it and with its fault.
-/

namespace Relink

namespace Json

/-! ## Strings -/

theorem length_le_byteLength (text : Text) : text.length ≤ Text.byteLength text := by
  have grows (total : Nat) :
      total + text.length ≤ text.foldl (fun total char => total + char.utf8Size) total := by
    induction text generalizing total with
    | nil => simp
    | cons char rest ih =>
        have wide := char.utf8Size_pos
        have rests := ih (total + char.utf8Size)
        simp only [List.length_cons, List.foldl_cons]
        omega
  simpa [Text.byteLength] using grows 0

theorem exists_hexDigit? {digit : Char} (hex : isHexDigit digit = true) :
    ∃ value, hexDigit? digit = some value := by
  unfold hexDigit?
  split_ifs with decimal small capital
  · exact ⟨_, rfl⟩
  · exact ⟨_, rfl⟩
  · exact ⟨_, rfl⟩
  · simp [isHexDigit, Char.isDigit, Char.le_def, UInt32.le_iff_toNat_le]
      at hex decimal small capital
    omega

theorem exists_mapM_hexDigit? {digits : Text} (hex : ∀ digit ∈ digits, isHexDigit digit) :
    ∃ values, digits.mapM hexDigit? = some values := by
  induction digits with
  | nil => exact ⟨[], rfl⟩
  | cons digit digits ih =>
      obtain ⟨first, later⟩ := List.forall_mem_cons.1 hex
      obtain ⟨value, isValue⟩ := exists_hexDigit? first
      obtain ⟨values, areValues⟩ := ih later
      exact ⟨value :: values, by simp [List.mapM_cons, isValue, areValues]⟩

/-- The digits of a code unit are read whatever follows them. -/
theorem exists_hexQuad {digits : Text} (four : digits.length = 4)
    (hex : ∀ digit ∈ digits, isHexDigit digit) :
    ∃ unit, ∀ rest, hexQuad (digits ++ rest) = .ok unit := by
  obtain ⟨values, areValues⟩ := exists_mapM_hexDigit? hex
  have wide : ¬ Text.byteLength digits < 4 := by
    have := length_le_byteLength digits
    omega
  refine ⟨values.foldl (fun value digit => 16 * value + digit) 0, fun rest => ?_⟩
  have taken : (digits ++ rest).take 4 = digits := by rw [← four, List.take_left]
  simp [hexQuad, taken, wide, areValues]

theorem drop_four {digits : Text} (four : digits.length = 4) (rest : Text) :
    (digits ++ rest).drop 4 = rest := by
  rw [← four, List.drop_left]

theorem exists_unescape? {letter : Char} (known : letter ∈ escapeLetters) :
    letter ≠ 'u' ∧ ∃ plain, unescape? letter = some plain := by
  simp only [escapeLetters, List.mem_cons, List.not_mem_nil, or_false] at known
  rcases known with rfl | rfl | rfl | rfl | rfl | rfl | rfl | rfl <;>
    exact ⟨by decide, _, rfl⟩

/-- A string is passed up to its closing quote. -/
theorem skipString_pieces (pieces : List Piece) (rest : Text) :
    skipString (pieces.flatMap Piece.text ++ '"' :: rest) = .ok rest := by
  induction pieces with
  | nil => simp [skipString]
  | cons piece pieces ih =>
      rw [List.flatMap_cons, List.append_assoc]
      cases piece with
      | plain char allowed =>
          obtain ⟨printable, notQuote, notEscape⟩ := allowed
          simp [Piece.text, skipString, notEscape, ih, Nat.not_lt.2 printable]
      | escape letter known =>
          obtain ⟨notUnit, plain, isPlain⟩ := exists_unescape? known
          simp [Piece.text, skipString, ih, isPlain]
      | unit digits four hex =>
          obtain ⟨unit, read⟩ := exists_hexQuad four hex
          simp [Piece.text, skipString, read, ih, drop_four four]

/-! ## What does not depend on the rest of a text -/

/-- Two outcomes are the same but for the place of the fault. -/
def Alike {α : Type} (first second : Except Fault α) : Prop :=
  first.mapError Fault.trouble = second.mapError Fault.trouble

theorem Alike.map {α β : Type} {first second : Except Fault α} (alike : Alike first second)
    (change : α → β) : Alike (first.map change) (second.map change) := by
  unfold Alike at *
  cases first <;> cases second <;> simp_all [Except.mapError, Except.map]

theorem alike_before {α : Type} (rest other : Text) :
    Alike (α := α) (.error (.before rest)) (.error (.before other)) :=
  rfl

/-- A code unit, whatever follows it: the second half of a surrogate pair is a fault, and the
first half takes the next piece with it if this is a code unit again. -/
theorem keepString_unit_alike {digits : Text} (four : digits.length = 4)
    (hex : ∀ digit ∈ digits, isHexDigit digit) (rest other : Text) (pieces : List Piece)
    (later : ∀ skipped, Alike
      (keepString ((pieces.drop skipped).flatMap Piece.text ++ '"' :: rest))
      (keepString ((pieces.drop skipped).flatMap Piece.text ++ '"' :: other))) :
    Alike (keepString ('\\' :: 'u' :: (digits ++ (pieces.flatMap Piece.text ++ '"' :: rest))))
      (keepString ('\\' :: 'u' :: (digits ++ (pieces.flatMap Piece.text ++ '"' :: other)))) := by
  obtain ⟨unit, read⟩ := exists_hexQuad four hex
  simp only [keepString, read, drop_four four]
  split_ifs
  · exact alike_before _ _
  · rcases pieces with _ | ⟨piece, pieces⟩
    · exact alike_before _ _
    cases piece with
    | plain char allowed => simp [Piece.text, allowed.2.2, alike_before]
    | escape letter known => simp [Piece.text, (exists_unescape? known).1, alike_before]
    | unit more fourMore hexMore =>
        obtain ⟨trailing, readMore⟩ := exists_hexQuad fourMore hexMore
        have pair (text : Text) : (digits ++ '\\' :: 'u' :: (more ++ text)).drop 10 = text := by
          simp [List.drop_append, four, fourMore, List.drop_eq_nil_of_le]
        simp only [List.flatMap_cons, List.append_assoc, Piece.text, List.cons_append,
          readMore, pair]
        split_ifs
        · exact (later 1).map _
        · exact alike_before _ _
  · exact (later 0).map _

/-- The value of a string does not depend on what follows its closing quote. -/
theorem keepString_alike (rest other : Text) (pieces : List Piece) :
    Alike (keepString (pieces.flatMap Piece.text ++ '"' :: rest))
      (keepString (pieces.flatMap Piece.text ++ '"' :: other)) := by
  -- A pair of code units is read at once, so the induction covers all ends of the pieces.
  suffices all : ∀ skipped, Alike
      (keepString ((pieces.drop skipped).flatMap Piece.text ++ '"' :: rest))
      (keepString ((pieces.drop skipped).flatMap Piece.text ++ '"' :: other)) from all 0
  induction pieces with
  | nil => simp [keepString, Alike]
  | cons piece pieces later =>
      intro skipped
      cases skipped with
      | succ skipped => exact later skipped
      | zero =>
          have next := later 0
          simp only [List.drop_zero, List.flatMap_cons, List.append_assoc] at next ⊢
          cases piece with
          | plain char allowed =>
              obtain ⟨printable, notQuote, notEscape⟩ := allowed
              have kept := next.map (char :: ·)
              simpa [Piece.text, keepString, notEscape, Nat.not_lt.2 printable] using kept
          | escape letter known =>
              obtain ⟨notUnit, plain, isPlain⟩ := exists_unescape? known
              have kept := next.map (plain :: ·)
              simpa [Piece.text, keepString, notUnit, isPlain] using kept
          | unit digits four hex => exact keepString_unit_alike four hex rest other pieces later

/-! ## Numbers -/

/-- The text does not begin with a digit. -/
def NoDigitFirst (text : Text) : Prop :=
  ∀ char ∈ text.head?, char.isDigit = false

/-- The text does not begin with a character that could go on a number. -/
def NumberEnds (text : Text) : Prop :=
  ∀ char ∈ text.head?, char.isDigit = false ∧ char ≠ '.' ∧ char ≠ 'e' ∧ char ≠ 'E'

theorem isBlank_iff {char : Char} :
    isBlank char = true ↔ char = ' ' ∨ char = '\n' ∨ char = '\t' ∨ char = '\r' := by
  simp [isBlank, or_assoc]

theorem notMore_of_isBlank {char : Char} (blank : isBlank char = true) :
    char.isDigit = false ∧ char ≠ '.' ∧ char ≠ 'e' ∧ char ≠ 'E' := by
  rcases isBlank_iff.1 blank with rfl | rfl | rfl | rfl <;> decide

theorem NumberEnds.noDigitFirst {text : Text} (ends : NumberEnds text) : NoDigitFirst text :=
  fun char first => (ends char first).1

theorem Digits.exists_cons (digits : Digits) :
    ∃ first more, digits.text = first :: more ∧ first.isDigit = true := by
  obtain ⟨first, more, parts⟩ := List.exists_cons_of_ne_nil digits.nonempty
  exact ⟨first, more, parts, digits.isDigit first (by simp [parts])⟩

theorem Digits.span_append (digits : Digits) {rest : Text} (stops : NoDigitFirst rest) :
    (digits.text ++ rest).span Char.isDigit = (digits.text, rest) := by
  have stays : rest.takeWhile Char.isDigit = [] ∧ rest.dropWhile Char.isDigit = rest := by
    cases rest with
    | nil => simp
    | cons char rest => simp [stops char rfl]
  rw [List.span_eq_takeWhile_dropWhile, List.takeWhile_append_of_pos digits.isDigit,
    List.dropWhile_append_of_pos digits.isDigit, stays.1, stays.2, List.append_nil]

theorem scanDigits_append (ended : Trouble) (digits : Digits) {rest : Text}
    (stops : NoDigitFirst rest) :
    scanDigits ended (digits.text ++ rest) = .ok (digits.text, rest) := by
  obtain ⟨first, more, parts, -⟩ := digits.exists_cons
  rw [scanDigits, digits.span_append stops, parts]

/-- The power of ten an exponent stands for. -/
def Exponent.value (exponent : Exponent) : Int :=
  match exponent.sign with
  | .minus => -(digitsValue exponent.digits.text : Int)
  | _ => digitsValue exponent.digits.text

def Numeral.power (numeral : Numeral) : Int :=
  numeral.exponent.elim 0 Exponent.value

/-- The size of the number that is written. -/
def Numeral.magnitude (numeral : Numeral) : Magnitude :=
  .ofDigits numeral.whole.text (numeral.fraction.elim [] Digits.text) numeral.power

theorem ne_of_isDigit {char other : Char} (digit : char.isDigit = true)
    (notDigit : other.isDigit = false) : char ≠ other := by
  rintro rfl
  rw [digit] at notDigit
  cases notDigit

theorem scanExponent_numeral (ended : Trouble) (numeral : Numeral) {rest : Text}
    (ends : NumberEnds rest) :
    scanExponent ended (numeral.exponentText ++ rest) = .ok (numeral.power, rest) := by
  cases written : numeral.exponent with
  | none =>
      cases rest with
      | nil => simp [Numeral.exponentText, Numeral.power, written, scanExponent]
      | cons char rest =>
          obtain ⟨-, -, notSmall, notCapital⟩ := ends char rfl
          simp [Numeral.exponentText, Numeral.power, written, scanExponent, notSmall, notCapital]
  | some exponent =>
      obtain ⟨capital, sign, digits⟩ := exponent
      have scanned := scanDigits_append ended digits ends.noDigitFirst
      obtain ⟨first, more, parts, isDigit⟩ := digits.exists_cons
      have notPlus : first ≠ '+' := ne_of_isDigit isDigit rfl
      have notMinus : first ≠ '-' := ne_of_isDigit isDigit rfl
      cases capital <;> cases sign <;>
        simp_all [Numeral.exponentText, Numeral.power, Exponent.text, Exponent.value, Sign.text,
          scanExponent, Except.map]

theorem scanWhole_numeral (ended : Trouble) (numeral : Numeral) {rest : Text}
    (stops : NoDigitFirst rest) :
    scanWhole ended (numeral.whole.text ++ rest) = .ok (numeral.whole.text, rest) := by
  have scanned := scanDigits_append ended numeral.whole stops
  obtain ⟨first, more, parts, -⟩ := numeral.whole.exists_cons
  by_cases zero : first = '0'
  · subst zero
    have alone := numeral.unpadded (by simp [parts])
    cases rest with
    | nil => simpa [alone, scanWhole] using scanned
    | cons char rest => simp [alone, scanWhole, stops char rfl]
  · simpa [parts, scanWhole, zero] using scanned

/-- What follows the fraction of a number does not go on it. -/
theorem Numeral.stops_exponentText_append (numeral : Numeral) {rest : Text}
    (ends : NumberEnds rest) :
    ∀ char ∈ (numeral.exponentText ++ rest).head?, char.isDigit = false ∧ char ≠ '.' := by
  cases written : numeral.exponent with
  | none =>
      intro char first
      obtain ⟨notDigit, notPoint, -, -⟩ := ends char (by simpa [exponentText, written] using first)
      exact ⟨notDigit, notPoint⟩
  | some exponent =>
      rcases exponent with ⟨_ | _, sign, digits⟩ <;>
        simp [exponentText, written, Exponent.text]

theorem scanUnsigned_numeral (ended : Trouble) (numeral : Numeral) {rest : Text}
    (ends : NumberEnds rest) :
    scanUnsigned ended (numeral.unsignedText ++ rest) = .ok (numeral.magnitude, rest) := by
  have power := scanExponent_numeral ended numeral ends
  have stops := numeral.stops_exponentText_append ends
  have noDigit : NoDigitFirst (numeral.exponentText ++ rest) :=
    fun char first => (stops char first).1
  cases written : numeral.fraction with
  | none =>
      have whole := scanWhole_numeral ended numeral noDigit
      -- `simp` takes this fact from the context to pass the alternative with a point.
      have noPoint (more : Text) : numeral.exponentText ++ rest ≠ '.' :: more :=
        fun parts => (stops '.' (by simp [parts])).2 rfl
      simp [scanUnsigned, Numeral.unsignedText, Numeral.fractionText, Numeral.magnitude, written,
        whole, power, Except.map]
  | some fraction =>
      have pointStops :
          NoDigitFirst ('.' :: (fraction.text ++ (numeral.exponentText ++ rest))) := by
        simp [NoDigitFirst]
      have whole := scanWhole_numeral ended numeral pointStops
      have behind := scanDigits_append ended fraction noDigit
      simp [scanUnsigned, Numeral.unsignedText, Numeral.fractionText, Numeral.magnitude, written,
        whole, behind, power, Except.map]

/-- A number is read up to its end, and gives its size. -/
theorem scanNumber_numeral (ended : Trouble) (numeral : Numeral) {rest : Text}
    (ends : NumberEnds rest) :
    scanNumber ended (numeral.text ++ rest) = .ok (numeral.magnitude, rest) := by
  have unsigned := scanUnsigned_numeral ended numeral ends
  cases sign : numeral.negative with
  | true => simpa [Numeral.text, sign, scanNumber] using unsigned
  | false =>
      obtain ⟨first, more, parts, isDigit⟩ := numeral.whole.exists_cons
      have notMinus : first ≠ '-' := ne_of_isDigit isDigit rfl
      simpa [Numeral.text, Numeral.unsignedText, sign, parts, scanNumber, notMinus] using unsigned

/-! ## Shapes -/

/-- The shape of the token of a lexeme that `rest` follows. -/
def Lexeme.shape (lexeme : Lexeme) (rest : Text) : Shape :=
  match lexeme with
  | .mark kind => .mark kind.char
  | .string pieces => .quoted (keepString (pieces.flatMap Piece.text ++ '"' :: rest)) (.ok ())
  | .number numeral => .number (keepNumber (numeral.text ++ rest)) (.ok ())
  | .word value => .word value (.ok ())

/-- Nothing in `rest` goes on the lexeme. -/
def Lexeme.Ends (lexeme : Lexeme) (rest : Text) : Prop :=
  lexeme.isMark ∨ NumberEnds rest

theorem Numeral.exists_cons (numeral : Numeral) :
    ∃ first more, numeral.text = first :: more ∧ (first = '-' ∨ first.isDigit = true) := by
  cases sign : numeral.negative with
  | true => exact ⟨'-', numeral.unsignedText, by simp [text, sign], Or.inl rfl⟩
  | false =>
      obtain ⟨first, more, parts, isDigit⟩ := numeral.whole.exists_cons
      exact ⟨first, more ++ (numeral.fractionText ++ numeral.exponentText),
        by simp [text, unsignedText, sign, parts], Or.inr isDigit⟩

/-- A lexeme is scanned up to its end. -/
theorem Lexeme.exists_scanShape (lexeme : Lexeme) :
    ∃ first more, lexeme.text = first :: more ∧ isBlank first = false ∧
      ∀ rest, lexeme.Ends rest →
        scanShape first (more ++ rest) = (lexeme.shape rest, some rest) := by
  cases lexeme with
  | mark kind =>
      refine ⟨kind.char, [], rfl, ?_, fun rest _ => ?_⟩ <;> cases kind <;> rfl
  | string pieces =>
      refine ⟨'"', pieces.flatMap Piece.text ++ ['"'], rfl, rfl, fun rest _ => ?_⟩
      simp [scanShape, skipString_pieces, shape, Except.map, Except.toOption]
  | word value =>
      rcases value with _ | _ | _
      · exact ⟨'n', ['u', 'l', 'l'], rfl, rfl, fun rest _ => rfl⟩
      · exact ⟨'f', ['a', 'l', 's', 'e'], rfl, rfl, fun rest _ => rfl⟩
      · exact ⟨'t', ['r', 'u', 'e'], rfl, rfl, fun rest _ => rfl⟩
  | number numeral =>
      obtain ⟨first, more, parts, starts⟩ := numeral.exists_cons
      have notQuote : first ≠ '"' := by
        rcases starts with rfl | isDigit
        · decide
        · exact ne_of_isDigit isDigit rfl
      have notBlank : isBlank first = false := by
        rcases starts with rfl | isDigit
        · rfl
        · exact Bool.eq_false_iff.2 fun blank => by simp [(notMore_of_isBlank blank).1] at isDigit
      refine ⟨first, more, parts, notBlank, fun rest ends => ?_⟩
      have scanned := scanNumber_numeral .malformed numeral (ends.resolve_left (by simp [isMark]))
      have whole : first :: (more ++ rest) = numeral.text ++ rest := by simp [parts]
      simp [scanShape, notQuote, starts, shape, skipNumber, whole, scanned, Except.map,
        Except.toOption]

theorem alike_refl {α : Type} (outcome : Except Fault α) : Alike outcome outcome :=
  rfl

/-- Two tokens are the same but for the places of faults and the texts behind. -/
inductive Token.Alike : Token → Token → Prop
  | mark (char : Char) {rest other : Text} : Token.Alike ⟨.mark char, rest⟩ ⟨.mark char, other⟩
  | quoted {kept kept' : Except Fault Text} {skipped skipped' : Except Fault Unit}
      {rest other : Text} (sameKept : Json.Alike kept kept')
      (sameSkipped : Json.Alike skipped skipped') :
      Token.Alike ⟨.quoted kept skipped, rest⟩ ⟨.quoted kept' skipped', other⟩
  | number {kept kept' skipped skipped' : Except Fault Unit} {rest other : Text}
      (sameKept : Json.Alike kept kept') (sameSkipped : Json.Alike skipped skipped') :
      Token.Alike ⟨.number kept skipped, rest⟩ ⟨.number kept' skipped', other⟩
  | word (value : Option Bool) {spelled spelled' : Except Fault Unit} {rest other : Text}
      (sameSpelled : Json.Alike spelled spelled') :
      Token.Alike ⟨.word value spelled, rest⟩ ⟨.word value spelled', other⟩
  | stray {rest other : Text} : Token.Alike ⟨.stray, rest⟩ ⟨.stray, other⟩

theorem keepNumber_numeral (numeral : Numeral) {rest : Text} (ends : NumberEnds rest) :
    keepNumber (numeral.text ++ rest) =
      if numeral.magnitude.isInfinite then .error (.before rest) else .ok () := by
  simp [keepNumber, scanNumber_numeral .unfinished numeral ends]

/-- What a lexeme gives does not depend on the text behind it. -/
theorem Lexeme.token_alike (lexeme : Lexeme) {rest other : Text} (ends : lexeme.Ends rest)
    (otherEnds : lexeme.Ends other) (behind otherBehind : Text) :
    Token.Alike ⟨lexeme.shape rest, behind⟩ ⟨lexeme.shape other, otherBehind⟩ := by
  cases lexeme with
  | mark kind => exact .mark _
  | string pieces => exact .quoted (keepString_alike rest other pieces) (alike_refl _)
  | word value => exact .word value (alike_refl _)
  | number numeral =>
      refine .number ?_ (alike_refl _)
      rw [keepNumber_numeral numeral (ends.resolve_left (by simp [isMark])),
        keepNumber_numeral numeral (otherEnds.resolve_left (by simp [isMark]))]
      split_ifs
      · exact alike_before _ _
      · exact alike_refl _

/-! ## Texts with blanks between lexemes -/

/-- A text holds lexemes in a row with nothing but blanks around them. -/
inductive Spaced : List Lexeme → Text → Prop
  | last {blanks : Text} (areBlank : ∀ char ∈ blanks, isBlank char) : Spaced [] blanks
  | next {blanks text : Text} {lexeme : Lexeme} {lexemes : List Lexeme}
      (areBlank : ∀ char ∈ blanks, isBlank char) (behind : Spaced lexemes text) :
      Spaced (lexeme :: lexemes) (blanks ++ (lexeme.text ++ text))

theorem Spaced.blanks_append {blanks text : Text} {lexemes : List Lexeme}
    (areBlank : ∀ char ∈ blanks, isBlank char) (spaced : Spaced lexemes text) :
    Spaced lexemes (blanks ++ text) := by
  cases spaced with
  | last alsoBlank =>
      exact .last (List.forall_mem_append.2 ⟨areBlank, alsoBlank⟩)
  | next alsoBlank behind =>
      rw [← List.append_assoc]
      exact .next (List.forall_mem_append.2 ⟨areBlank, alsoBlank⟩) behind

/-- The lexemes in a row without any blanks. -/
theorem spaced_flatMap (lexemes : List Lexeme) : Spaced lexemes (lexemes.flatMap Lexeme.text) := by
  induction lexemes with
  | nil => exact .last (by simp)
  | cons lexeme lexemes ih => exact Spaced.next (List.forall_mem_nil _) ih

theorem Spaced.length_le {lexemes : List Lexeme} {text : Text} (spaced : Spaced lexemes text) :
    lexemes.length ≤ text.length := by
  induction spaced with
  | last _ => simp
  | @next blanks text lexeme lexemes _ _ ih =>
      obtain ⟨first, more, parts, -⟩ := lexeme.exists_scanShape
      simp only [parts, List.length_cons, List.length_append]
      omega

/-- A number ends where a mark follows, with or without blanks before it. -/
theorem Spaced.numberEnds {lexemes : List Lexeme} {text : Text} (spaced : Spaced lexemes text)
    (marked : ∀ lexeme ∈ lexemes.head?, lexeme.isMark) : NumberEnds text := by
  have afterBlanks {blanks rest : Text} (areBlank : ∀ char ∈ blanks, isBlank char)
      (ends : NumberEnds rest) : NumberEnds (blanks ++ rest) := by
    cases blanks with
    | nil => exact ends
    | cons blank blanks =>
        rintro char ⟨⟩
        exact notMore_of_isBlank (areBlank _ List.mem_cons_self)
  cases spaced with
  | @last blanks areBlank =>
      have ends : NumberEnds [] := by simp [NumberEnds]
      simpa using afterBlanks areBlank ends
  | @next blanks text lexeme lexemes areBlank behind =>
      refine afterBlanks areBlank ?_
      cases lexeme with
      | mark kind =>
          rintro char ⟨⟩
          cases kind <;> decide
      | _ => simp [Lexeme.isMark] at marked

/-! ## Tokens -/

theorem tokensUpTo_blanks_append (limit : Nat) {blanks : Text} (text : Text)
    (areBlank : ∀ char ∈ blanks, isBlank char) :
    tokensUpTo limit (blanks ++ text) = tokensUpTo limit text := by
  cases limit with
  | zero => rfl
  | succ limit => rw [tokensUpTo, tokensUpTo, List.dropWhile_append_of_pos areBlank]

/-- A lexeme makes one token. -/
theorem exists_tokensUpTo_append (lexeme : Lexeme) :
    ∃ more, ∀ rest limit, lexeme.Ends rest →
      tokensUpTo (limit + 1) (lexeme.text ++ rest) =
        ⟨lexeme.shape rest, more ++ rest⟩ :: tokensUpTo limit rest := by
  obtain ⟨first, more, parts, notBlank, scanned⟩ := lexeme.exists_scanShape
  refine ⟨more, fun rest limit ends => ?_⟩
  simp [tokensUpTo, parts, notBlank, scanned rest ends]

theorem tokensUpTo_blanks (limit : Nat) {blanks : Text}
    (areBlank : ∀ char ∈ blanks, isBlank char) : tokensUpTo limit blanks = [] := by
  rw [← List.append_nil blanks, tokensUpTo_blanks_append limit [] areBlank]
  cases limit <;> rfl

theorem Spaced.ends {lexeme : Lexeme} {lexemes : List Lexeme} {text : Text}
    (spaced : Spaced lexemes text) (apart : Apart (lexeme :: lexemes)) : lexeme.Ends text := by
  cases isMark : lexeme.isMark with
  | true => exact Or.inl isMark
  | false =>
      refine Or.inr (spaced.numberEnds fun next first => ?_)
      have beside := (List.isChain_cons.1 apart).1 next first
      simpa [isMark] using beside

-- The limits may differ, since the texts differ in length; both only have to leave room for all
-- lexemes.
theorem Spaced.tokensUpTo_alike {lexemes : List Lexeme} {text : Text}
    (spaced : Spaced lexemes text) (apart : Apart lexemes) {other : Text}
    (otherSpaced : Spaced lexemes other) {limit otherLimit : Nat}
    (enough : lexemes.length ≤ limit) (otherEnough : lexemes.length ≤ otherLimit) :
    List.Forall₂ Token.Alike (tokensUpTo limit text) (tokensUpTo otherLimit other) := by
  induction spaced generalizing other limit otherLimit with
  | last areBlank =>
      obtain ⟨otherBlank⟩ := otherSpaced
      rw [tokensUpTo_blanks limit areBlank, tokensUpTo_blanks otherLimit otherBlank]
      exact .nil
  | @next blanks text lexeme lexemes areBlank behind ih =>
      obtain _ | ⟨otherBlank, otherBehind⟩ := otherSpaced
      obtain ⟨limit, rfl⟩ := Nat.exists_eq_add_of_le' (Nat.one_le_of_lt enough)
      obtain ⟨otherLimit, rfl⟩ := Nat.exists_eq_add_of_le' (Nat.one_le_of_lt otherEnough)
      obtain ⟨more, scanned⟩ := exists_tokensUpTo_append lexeme
      have ends := behind.ends apart
      have otherEnds := otherBehind.ends apart
      rw [tokensUpTo_blanks_append _ _ areBlank, tokensUpTo_blanks_append _ _ otherBlank,
        scanned _ _ ends, scanned _ _ otherEnds]
      exact .cons (lexeme.token_alike ends otherEnds _ _)
        (ih apart.of_cons otherBehind (Nat.le_of_succ_le_succ enough)
          (Nat.le_of_succ_le_succ otherEnough))

/-- Texts that hold the same lexemes have the same tokens but for the texts behind them. -/
theorem Spaced.tokens_alike {lexemes : List Lexeme} {text other : Text}
    (spaced : Spaced lexemes text) (otherSpaced : Spaced lexemes other) (apart : Apart lexemes) :
    List.Forall₂ Token.Alike (tokens text) (tokens other) :=
  spaced.tokensUpTo_alike apart otherSpaced spaced.length_le otherSpaced.length_le

end Json

end Relink
