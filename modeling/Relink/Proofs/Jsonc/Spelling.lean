import Relink.Jsonc
import Relink.Proofs.Json.Readers

/-!
# Documents with comments

A document may be spelled with blanks and comments around its lexemes, and with commas
behind its last members.  Stripping leaves a text that holds the lexemes of the plain document
with nothing but blanks around them, so it is decoded like the plain document.

Stripping leaves no more of some other texts: comments in one line may stand within words and
numbers, commas may stand before any closing bracket, and the last comment may be left open.
-/

namespace Relink

namespace Jsonc

open Json (Lexeme Spaced closesFirst withoutTrailing)

/-! ## What stands between lexemes -/

/-- A blank or a comment.  A line comment ends with its line, and a block comment where it is
closed for the first time. -/
inductive Trivium
  | blank (char : Char) (allowed : char = ' ' ∨ char = '\n' ∨ char = '\t' ∨ char = '\r')
  | line (body : Text) (inLine : '\n' ∉ body)
  | block (body : Text) (unclosed : ¬ ['*', '/'] <:+: body)

namespace Trivium

def text : Trivium → Text
  | .blank char _ => [char]
  | .line body _ => '/' :: '/' :: (body ++ ['\n'])
  | .block body _ => '/' :: '*' :: (body ++ ['*', '/'])

/-- What stripping leaves. -/
def left : Trivium → Text
  | .blank char _ => [char]
  | .line _ _ => ['\n']
  | .block body _ => body.filter (· = '\n')

end Trivium

/-- Blanks and comments in a row. -/
abbrev Gap := List Trivium

def Gap.text (gap : Gap) : Text :=
  gap.flatMap Trivium.text

def Gap.left (gap : Gap) : Text :=
  gap.flatMap Trivium.left

/-- What a text ends with behind the last gap: nothing, or a comment that goes on to the end of
the text. -/
inductive Ending
  | plain
  | comment (body : Text) (inLine : '\n' ∉ body)

def Ending.text : Ending → Text
  | .plain => []
  | .comment body _ => '/' :: '/' :: body

/-- The text of lexemes with a gap before each of them and one behind the last. -/
def spell (gaps : Nat → Gap) (ending : Ending) : List Lexeme → Text
  | [] => (gaps 0).text ++ ending.text
  | lexeme :: rest =>
      (gaps 0).text ++ (lexeme.text ++ spell (fun number => gaps (number + 1)) ending rest)

/-! ## Stripping gaps -/

/-- A line comment is passed up to the end of its line. -/
theorem stripLine_append {body : Text} (inLine : '\n' ∉ body) (rest : Text) :
    stripLine (body ++ rest) = stripLine rest := by
  induction body with
  | nil => rfl
  | cons char body ih =>
      obtain ⟨notEnd, inLine⟩ := not_or.1 (mt List.mem_cons.2 inLine)
      simp [stripLine, Ne.symm notEnd, ih inLine]

theorem closesAfterLine_append {body : Text} (inLine : '\n' ∉ body) (rest : Text) :
    closesAfterLine (body ++ rest) = closesAfterLine rest := by
  induction body with
  | nil => rfl
  | cons char body ih =>
      obtain ⟨notEnd, inLine⟩ := not_or.1 (mt List.mem_cons.2 inLine)
      simp [closesAfterLine, Ne.symm notEnd, ih inLine]

theorem ne_close {char : Char} {body : Text} (unclosed : ¬ ['*', '/'] <:+: char :: body)
    (more : Text) (star : char = '*') : body ≠ '/' :: more := by
  rintro rfl
  exact unclosed (List.IsPrefix.isInfix ⟨more, by rw [star]; rfl⟩)

/-- A comment is not closed before its end. -/
theorem append_ne_close {char : Char} {body : Text}
    (unclosed : ¬ ['*', '/'] <:+: char :: body) (rest more : Text) (star : char = '*') :
    body ++ '*' :: rest ≠ '/' :: more := by
  intro closed
  cases body with
  | nil => simp at closed
  | cons next body =>
      obtain ⟨rfl, -⟩ := List.cons.inj closed
      exact ne_close unclosed body star rfl

theorem stripBlock_append {body : Text} (unclosed : ¬ ['*', '/'] <:+: body) (rest : Text) :
    stripBlock (body ++ '*' :: '/' :: rest) = body.filter (· = '\n') ++ strip rest := by
  induction body with
  | nil => simp [stripBlock]
  | cons char body ih =>
      have goesOn := append_ne_close unclosed ('/' :: rest)
      have later := ih fun closed => unclosed (closed.trans (List.suffix_cons _ _).isInfix)
      by_cases lineEnd : char = '\n'
      · subst lineEnd
        simp [stripBlock, later]
      · simp [stripBlock, lineEnd, later]

theorem closesAfterBlock_append {body : Text} (unclosed : ¬ ['*', '/'] <:+: body) (rest : Text) :
    closesAfterBlock (body ++ '*' :: '/' :: rest) = closes rest := by
  induction body with
  | nil => simp [closesAfterBlock]
  | cons char body ih =>
      have goesOn := append_ne_close unclosed ('/' :: rest)
      have later := ih fun closed => unclosed (closed.trans (List.suffix_cons _ _).isInfix)
      simp [closesAfterBlock, later]

theorem stripBlock_of_unclosed {body : Text} (unclosed : ¬ ['*', '/'] <:+: body) :
    stripBlock body = body.filter (· = '\n') := by
  induction body with
  | nil => rfl
  | cons char body ih =>
      have goesOn := ne_close unclosed
      have later := ih fun closed => unclosed (closed.trans (List.suffix_cons _ _).isInfix)
      by_cases lineEnd : char = '\n'
      · subst lineEnd
        simp [stripBlock, later]
      · simp [stripBlock, lineEnd, later]

theorem closesAfterBlock_of_unclosed {body : Text} (unclosed : ¬ ['*', '/'] <:+: body) :
    closesAfterBlock body = false := by
  induction body with
  | nil => rfl
  | cons char body ih =>
      have goesOn := ne_close unclosed
      have later := ih fun closed => unclosed (closed.trans (List.suffix_cons _ _).isInfix)
      simp [closesAfterBlock, later]

theorem strip_trivium (trivium : Trivium) (rest : Text) :
    strip (trivium.text ++ rest) = trivium.left ++ strip rest := by
  cases trivium with
  | blank char allowed =>
      rcases allowed with rfl | rfl | rfl | rfl <;>
        simp [Trivium.text, Trivium.left, strip]
  | line body inLine =>
      simp [Trivium.text, Trivium.left, strip, stripLine_append inLine, stripLine]
  | block body unclosed =>
      simp [Trivium.text, Trivium.left, strip, stripBlock_append unclosed]

theorem closes_trivium (trivium : Trivium) (rest : Text) :
    closes (trivium.text ++ rest) = closes rest := by
  cases trivium with
  | blank char allowed =>
      have blank : isBlank char = true := by
        rcases allowed with rfl | rfl | rfl | rfl <;> decide
      rcases allowed with rfl | rfl | rfl | rfl <;> simp [Trivium.text, closes, blank]
  | line body inLine =>
      simp [Trivium.text, closes, closesAfterLine_append inLine, closesAfterLine]
  | block body unclosed =>
      simp [Trivium.text, closes, closesAfterBlock_append unclosed]

theorem strip_gap (gap : Gap) (rest : Text) :
    strip (gap.text ++ rest) = gap.left ++ strip rest := by
  induction gap with
  | nil => rfl
  | cons trivium gap ih =>
      simp only [Gap.text, Gap.left, List.flatMap_cons, List.append_assoc] at ih ⊢
      rw [strip_trivium, ih]

theorem closes_gap (gap : Gap) (rest : Text) : closes (gap.text ++ rest) = closes rest := by
  induction gap with
  | nil => rfl
  | cons trivium gap ih =>
      simp only [Gap.text, List.flatMap_cons, List.append_assoc] at ih ⊢
      rw [closes_trivium, ih]

theorem strip_ending (ending : Ending) : strip ending.text = [] := by
  cases ending with
  | plain => rfl
  | comment body inLine =>
      simpa [Ending.text, strip, stripLine] using stripLine_append inLine []

theorem closes_ending (ending : Ending) : closes ending.text = false := by
  cases ending with
  | plain => rfl
  | comment body inLine =>
      simpa [Ending.text, closes, closesAfterLine] using closesAfterLine_append inLine []

/-- Stripping leaves blanks of a gap only. -/
theorem isBlank_of_mem_left {gap : Gap} : ∀ char ∈ gap.left, Json.isBlank char := by
  intro char member
  obtain ⟨trivium, -, member⟩ := List.mem_flatMap.1 member
  cases trivium with
  | blank other allowed =>
      obtain rfl := List.mem_singleton.1 member
      exact Json.isBlank_iff.2 allowed
  | line body inLine =>
      obtain rfl := List.mem_singleton.1 member
      rfl
  | block body unclosed =>
      obtain rfl : char = '\n' := by simpa using (List.mem_filter.1 member).2
      rfl

/-! ## Stripping lexemes -/

/-- A character that stripping passes on wherever it stands outside strings. -/
def Ordinary (char : Char) : Prop :=
  char ≠ '"' ∧ char ≠ '/' ∧ char ≠ ','

theorem strip_cons_of_ordinary {char : Char} (ordinary : Ordinary char) (rest : Text) :
    strip (char :: rest) = char :: strip rest := by
  obtain ⟨notQuote, notSlash, notComma⟩ := ordinary
  simp [strip, notSlash]

theorem strip_append_of_ordinary {text : Text} (ordinary : ∀ char ∈ text, Ordinary char)
    (rest : Text) : strip (text ++ rest) = text ++ strip rest := by
  induction text with
  | nil => rfl
  | cons char text ih =>
      obtain ⟨first, later⟩ := List.forall_mem_cons.1 ordinary
      rw [List.cons_append, strip_cons_of_ordinary first, ih later, List.cons_append]

theorem stripString_append_of_plain {text : Text}
    (plain : ∀ char ∈ text, char ≠ '"' ∧ char ≠ '\\') (rest : Text) :
    stripString (text ++ rest) = text ++ stripString rest := by
  induction text with
  | nil => rfl
  | cons char text ih =>
      obtain ⟨⟨notQuote, notEscape⟩, later⟩ := List.forall_mem_cons.1 plain
      simp [stripString, notEscape, ih later]

theorem plain_of_hex {digits : Text} (hex : ∀ digit ∈ digits, Json.isHexDigit digit) :
    ∀ digit ∈ digits, digit ≠ '"' ∧ digit ≠ '\\' := by
  intro digit member
  constructor <;> rintro rfl <;> exact absurd (hex _ member) (by decide)

/-- A string stays as it is, whatever it holds. -/
theorem stripString_pieces (pieces : List Json.Piece) (rest : Text) :
    stripString (pieces.flatMap Json.Piece.text ++ '"' :: rest) =
      pieces.flatMap Json.Piece.text ++ '"' :: strip rest := by
  induction pieces with
  | nil => simp [stripString]
  | cons piece pieces ih =>
      rw [List.flatMap_cons, List.append_assoc, List.append_assoc]
      cases piece with
      | plain char allowed =>
          rw [Json.Piece.text, stripString_append_of_plain (by simpa using allowed.2), ih]
      | escape letter known => simp [Json.Piece.text, stripString, ih]
      | unit digits four hex =>
          simp [Json.Piece.text, stripString, stripString_append_of_plain (plain_of_hex hex), ih]

/-- A character of a word or a number: it ends no token before it. -/
def Solid (char : Char) : Prop :=
  Ordinary char ∧ isBlank char = false ∧ char ≠ '\x7d' ∧ char ≠ ']'

instance (char : Char) : Decidable (Solid char) := by
  unfold Solid Ordinary
  infer_instance

theorem isBlank_of_isDigit {char : Char} (digit : char.isDigit = true) :
    isBlank char = false := by
  have low : 48 ≤ char.toNat ∧ char.toNat ≤ 57 := by
    simpa [Char.isDigit, UInt32.le_iff_toNat_le] using digit
  simp [isBlank, inRanges, blankRanges]
  omega

theorem solid_of_isDigit {char : Char} (digit : char.isDigit = true) : Solid char :=
  ⟨⟨Json.ne_of_isDigit digit rfl, Json.ne_of_isDigit digit rfl, Json.ne_of_isDigit digit rfl⟩,
    isBlank_of_isDigit digit, Json.ne_of_isDigit digit rfl, Json.ne_of_isDigit digit rfl⟩

theorem solid_digits (digits : Json.Digits) : ∀ char ∈ digits.text, Solid char :=
  fun char member => solid_of_isDigit (digits.isDigit char member)

theorem solid_exponent (exponent : Json.Exponent) : ∀ char ∈ exponent.text, Solid char := by
  obtain ⟨capital, sign, digits⟩ := exponent
  have small : Solid 'e' := by decide
  have large : Solid 'E' := by decide
  have plus : Solid '+' := by decide
  have minus : Solid '-' := by decide
  simp only [Json.Exponent.text, List.forall_mem_cons, List.forall_mem_append]
  exact ⟨by cases capital <;> simp [small, large],
    by cases sign <;> simp [Json.Sign.text, plus, minus], solid_digits digits⟩

theorem solid_numeral (numeral : Json.Numeral) : ∀ char ∈ numeral.text, Solid char := by
  obtain ⟨negative, whole, -, fraction, exponent⟩ := numeral
  have minus : Solid '-' := by decide
  simp only [Json.Numeral.text, Json.Numeral.unsignedText, Json.Numeral.fractionText,
    Json.Numeral.exponentText, List.forall_mem_append]
  refine ⟨by cases negative <;> simp [minus], solid_digits whole, ?_, ?_⟩
  · cases fraction with
    | none => simp
    | some digits => exact List.forall_mem_cons.2 ⟨by decide, solid_digits digits⟩
  · cases exponent with
    | none => simp
    | some exponent => exact solid_exponent exponent

theorem solid_word (value : Option Bool) : ∀ char ∈ Json.wordText value, Solid char := by
  have letters : Solid 'n' ∧ Solid 'u' ∧ Solid 'l' ∧ Solid 't' ∧ Solid 'r' ∧ Solid 'e' ∧
      Solid 'f' ∧ Solid 'a' ∧ Solid 's' := by decide
  rcases value with _ | _ | _ <;> simp [Json.wordText, letters]

theorem ordinary_of_solid {text : Text} (solid : ∀ char ∈ text, Solid char) :
    ∀ char ∈ text, Ordinary char :=
  fun char member => (solid char member).1

theorem strip_lexeme (lexeme : Lexeme) (stays : lexeme ≠ .mark .comma) (rest : Text) :
    strip (lexeme.text ++ rest) = lexeme.text ++ strip rest := by
  cases lexeme with
  | mark kind =>
      refine strip_append_of_ordinary ?_ rest
      cases kind <;> simp_all [Lexeme.text, Json.Mark.char, Ordinary]
  | string pieces => simp [Lexeme.text, strip, stripString_pieces]
  | number numeral =>
      exact strip_append_of_ordinary (ordinary_of_solid (solid_numeral numeral)) rest
  | word value => exact strip_append_of_ordinary (ordinary_of_solid (solid_word value)) rest

theorem closes_cons_eq_false {char : Char} (seen : isBlank char = false) (notSlash : char ≠ '/')
    (notBrace : char ≠ '\x7d') (notBracket : char ≠ ']') (rest : Text) :
    closes (char :: rest) = false := by
  simp [closes, seen, notSlash]

/-- The first character of a lexeme tells whether it is a closing bracket. -/
theorem exists_closes (lexeme : Lexeme) :
    ∃ first more, lexeme.text = first :: more ∧
      ∀ rest, closes (first :: rest) = closesFirst [lexeme] := by
  have opens {first : Char} {more : Text} (begins : lexeme.text = first :: more)
      (solid : Solid first) (notClosing : closesFirst [lexeme] = false) :
      ∃ first more, lexeme.text = first :: more ∧
        ∀ rest, closes (first :: rest) = closesFirst [lexeme] := by
    obtain ⟨⟨-, notSlash, -⟩, notBlank, notBrace, notBracket⟩ := solid
    refine ⟨first, more, begins, fun rest => ?_⟩
    rw [notClosing, closes_cons_eq_false notBlank notSlash notBrace notBracket]
  cases lexeme with
  | mark kind =>
      refine ⟨kind.char, [], rfl, fun rest => ?_⟩
      cases kind with
      | closeBrace | closeBracket => simp [Json.Mark.char, closes, closesFirst]
      | _ => exact closes_cons_eq_false (by decide) (by decide) (by decide) (by decide) rest
  | string pieces =>
      exact ⟨_, _, rfl, closes_cons_eq_false (by decide) (by decide) (by decide) (by decide)⟩
  | number numeral =>
      obtain ⟨first, more, parts, -⟩ := numeral.exists_cons
      exact opens parts (solid_numeral numeral first (by simp [parts])) rfl
  | word value =>
      rcases value with _ | _ | _ <;> exact opens rfl (by decide) rfl

theorem closes_lexeme (lexeme : Lexeme) (rest : Text) :
    closes (lexeme.text ++ rest) = closesFirst [lexeme] := by
  obtain ⟨first, more, parts, ahead⟩ := exists_closes lexeme
  rw [parts, List.cons_append, ahead]

/-! ## Stripping loose spellings -/

/-- Characters in a row, but for comments between them of which stripping leaves nothing. -/
inductive Interrupted : Text → Text → Prop
  | last (char : Char) : Interrupted [char] [char]
  | next (char : Char) {gap : Gap} {chars text : Text} (vanishes : gap.left = [])
      (behind : Interrupted chars text) : Interrupted (char :: chars) (char :: (gap.text ++ text))

/-- The ways to write a lexeme: in one piece, or with comments within a word or number. -/
inductive Written (lexeme : Lexeme) : Text → Prop
  | whole : Written lexeme lexeme.text
  | interrupted {text : Text} (solid : ∀ char ∈ lexeme.text, Solid char)
      (interrupted : Interrupted lexeme.text text) : Written lexeme text

/-- What may stand behind the last gap: nothing, or a comment that is not closed. -/
inductive Last : Text → Prop
  | ending (ending : Ending) : Last ending.text
  | block (body : Text) (unclosed : ¬ ['*', '/'] <:+: body) : Last ('/' :: '*' :: body)

/-- A text holds lexemes in a row, each with a gap before it. -/
inductive Spelled : List Lexeme → Text → Prop
  | last (gap : Gap) {text : Text} (last : Last text) : Spelled [] (gap.text ++ text)
  | next (gap : Gap) {lexeme : Lexeme} {lexemes : List Lexeme} {text behind : Text}
      (written : Written lexeme text) (spelled : Spelled lexemes behind) :
      Spelled (lexeme :: lexemes) (gap.text ++ (text ++ behind))

theorem spelled_spell (gaps : Nat → Gap) (ending : Ending) (lexemes : List Lexeme) :
    Spelled lexemes (spell gaps ending lexemes) := by
  induction lexemes generalizing gaps with
  | nil => exact .last (gaps 0) (.ending ending)
  | cons lexeme rest ih => exact .next (gaps 0) .whole (ih fun number => gaps (number + 1))

theorem Last.isBlank_of_mem_strip {text : Text} (last : Last text) :
    ∀ char ∈ strip text, Json.isBlank char := by
  cases last with
  | ending ending => simp [strip_ending]
  | block body unclosed =>
      intro char member
      rw [strip, stripBlock_of_unclosed unclosed] at member
      obtain rfl : char = '\n' := by simpa using (List.mem_filter.1 member).2
      rfl

theorem Last.closes_eq_false {text : Text} (last : Last text) : closes text = false := by
  cases last with
  | ending ending => exact closes_ending ending
  | block body unclosed => rw [closes, closesAfterBlock_of_unclosed unclosed]

theorem Interrupted.strip_append {chars text : Text} (interrupted : Interrupted chars text)
    (ordinary : ∀ char ∈ chars, Ordinary char) (rest : Text) :
    strip (text ++ rest) = chars ++ strip rest := by
  induction interrupted with
  | last char => exact strip_append_of_ordinary ordinary rest
  | next char vanishes behind ih =>
      obtain ⟨first, later⟩ := List.forall_mem_cons.1 ordinary
      rw [List.cons_append, strip_cons_of_ordinary first, List.append_assoc, strip_gap, vanishes,
        List.nil_append, ih later, List.cons_append]

theorem Written.strip_append {lexeme : Lexeme} {text : Text} (written : Written lexeme text)
    (stays : lexeme ≠ .mark .comma) (rest : Text) :
    strip (text ++ rest) = lexeme.text ++ strip rest := by
  cases written with
  | whole => exact strip_lexeme lexeme stays rest
  | interrupted solid interrupted =>
      exact interrupted.strip_append (ordinary_of_solid solid) rest

theorem Written.closes_append {lexeme : Lexeme} {text : Text} (written : Written lexeme text)
    (rest : Text) : closes (text ++ rest) = closesFirst [lexeme] := by
  cases written with
  | whole => exact closes_lexeme lexeme rest
  | interrupted solid interrupted =>
      obtain ⟨first, more, parts, ahead⟩ := exists_closes lexeme
      rw [parts] at interrupted
      cases interrupted <;> exact ahead _

theorem written_comma {text : Text} (written : Written (.mark .comma) text) : text = [','] := by
  cases written with
  | whole => rfl
  | interrupted solid interrupted => exact absurd (solid ',' List.mem_cons_self) (by decide)

theorem Spelled.closes_eq {lexemes : List Lexeme} {text : Text} (spelled : Spelled lexemes text) :
    closes text = closesFirst lexemes := by
  cases spelled with
  | last gap last => rw [closes_gap, last.closes_eq_false]; rfl
  | @next gap lexeme lexemes text behind written spelled =>
      rw [closes_gap, written.closes_append]
      cases lexeme with
      | mark kind => cases kind <;> rfl
      | _ => rfl

/-- Stripping leaves the lexemes that are no trailing commas, with nothing but blanks around
them. -/
theorem Spelled.spaced_strip {lexemes : List Lexeme} {text : Text}
    (spelled : Spelled lexemes text) : Spaced (withoutTrailing lexemes) (strip text) := by
  induction spelled with
  | last gap last =>
      rw [strip_gap]
      exact .last (List.forall_mem_append.2 ⟨isBlank_of_mem_left, last.isBlank_of_mem_strip⟩)
  | @next gap lexeme lexemes text behind written spelled ih =>
      rw [strip_gap]
      by_cases comma : lexeme = .mark .comma
      · subst comma
        obtain rfl := written_comma written
        -- Looking ahead through the gap finds a closing bracket exactly if the next lexeme is one.
        simp only [List.singleton_append, strip, spelled.closes_eq, withoutTrailing]
        split_ifs
        · exact ih.blanks_append isBlank_of_mem_left
        · exact .next isBlank_of_mem_left ih
      · rw [written.strip_append comma, Json.withoutTrailing_cons comma]
        exact .next isBlank_of_mem_left ih

/-! ## Stripping documents -/

theorem spaced_strip_document (document : Json.Document) (loose : Bool) (gaps : Nat → Gap)
    (ending : Ending) :
    Spaced (document.lexemes false) (strip (spell gaps ending (document.lexemes loose))) := by
  have spaced := (spelled_spell gaps ending (document.lexemes loose)).spaced_strip
  rwa [Json.withoutTrailing_lexemes] at spaced

theorem spell_without_gaps (lexemes : List Lexeme) :
    spell (fun _ => []) .plain lexemes = lexemes.flatMap Lexeme.text := by
  induction lexemes with
  | nil => rfl
  | cons lexeme rest ih => rw [spell, ih]; rfl

theorem strip_flatMap_text (lexemes : List Lexeme) :
    strip (lexemes.flatMap Lexeme.text) = (withoutTrailing lexemes).flatMap Lexeme.text := by
  induction lexemes with
  | nil => rfl
  | cons lexeme rest ih =>
      rw [List.flatMap_cons]
      by_cases comma : lexeme = .mark .comma
      · subst comma
        have closed := (spelled_spell (fun _ => []) .plain rest).closes_eq
        rw [spell_without_gaps] at closed
        simp only [Lexeme.text, Json.Mark.char, List.singleton_append, strip, closed, ih,
          withoutTrailing]
        split_ifs <;> rfl
      · rw [strip_lexeme lexeme comma, Json.withoutTrailing_cons comma, List.flatMap_cons, ih]

/-- A plain document stays as it is. -/
theorem strip_document (document : Json.Document) : strip document.text = document.text := by
  rw [Json.Document.text, strip_flatMap_text, Json.withoutTrailing_lexemes]

/-- However a document is spelled, its stripped text is decoded like its plain text. -/
theorem decode_strip_spell {α : Type} {read : Json.Reader α} (steady : read.Steady)
    (document : Json.Document) (loose : Bool) (gaps : Nat → Gap) (ending : Ending) :
    (Json.decode read (strip (spell gaps ending (document.lexemes loose)))).mapError
        Json.Error.trouble =
      (Json.decode read document.text).mapError Json.Error.trouble :=
  (spaced_strip_document document loose gaps ending).decode_eq (Json.spaced_flatMap _)
    (document.apart false) steady

end Jsonc

end Relink
