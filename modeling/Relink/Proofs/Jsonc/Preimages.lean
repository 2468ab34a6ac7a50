import Relink.Proofs.Json.Lexing
import Relink.Proofs.Jsonc.Passes
import Relink.Proofs.Jsonc.Spelling

/-!
# What stripped texts come from

If the stripped text holds lexemes with nothing but blanks around them, then the text itself was
a loose spelling of these lexemes.  The text is taken apart from the front: behind a gap it ends,
or it goes on with a comma, a string, or a character that stripping leaves.
-/

namespace Relink

namespace Jsonc

open Json (Lexeme Spaced closesFirst withoutTrailing)

/-! ## Gaps -/

/-- A closed comment is closed for the first time somewhere. -/
theorem exists_first_close {text : Text} (closed : ['*', '/'] <:+: text) :
    ∃ body rest, text = body ++ '*' :: '/' :: rest ∧ ¬ ['*', '/'] <:+: body := by
  induction text with
  | nil => simp at closed
  | cons char text ih =>
      by_cases atOnce : ['*', '/'] <+: char :: text
      · obtain ⟨rest, parts⟩ := atOnce
        exact ⟨[], rest, parts.symm, by simp⟩
      · have later := (List.infix_cons_iff.1 closed).resolve_left atOnce
        obtain ⟨body, rest, rfl, unclosed⟩ := ih later
        refine ⟨char :: body, rest, rfl, fun within => ?_⟩
        rcases List.infix_cons_iff.1 within with starts | inside
        · exact atOnce (starts.trans (List.prefix_append (char :: body) ('*' :: '/' :: rest)))
        · exact unclosed inside

/-- What a text may go on with behind a gap. -/
inductive Front : Text → Prop
  | nothing {text : Text} (last : Last text) : Front text
  | comma (rest : Text) : Front (',' :: rest)
  | quote (rest : Text) : Front ('"' :: rest)
  | other {char : Char} {rest : Text} (seen : Json.isBlank char = false) (notComma : char ≠ ',')
      (notQuote : char ≠ '"') (notLine : ∀ more, char = '/' → rest ≠ '/' :: more)
      (notBlock : ∀ more, char = '/' → rest ≠ '*' :: more) : Front (char :: rest)

theorem Gap.text_cons (trivium : Trivium) (gap : Gap) :
    Gap.text (trivium :: gap) = trivium.text ++ gap.text :=
  List.flatMap_cons

/-- Blanks and comments are taken from the front of a text as long as there are any. -/
theorem exists_gap (text : Text) :
    ∃ (gap : Gap) (rest : Text), text = gap.text ++ rest ∧ Front rest := by
  induction length : text.length using Nat.strong_induction_on generalizing text with
  | _ size ih =>
  subst length
  have behind (trivium : Trivium) (rest : Text) (parts : text = trivium.text ++ rest)
      (shorter : rest.length < text.length) :
      ∃ (gap : Gap) (rest : Text), text = gap.text ++ rest ∧ Front rest := by
    obtain ⟨gap, more, rfl, front⟩ := ih rest.length shorter rest rfl
    exact ⟨trivium :: gap, more, by rw [parts, Gap.text_cons, List.append_assoc], front⟩
  cases text with
  | nil => exact ⟨[], [], rfl, .nothing (.ending .plain)⟩
  | cons char rest =>
      by_cases blank : Json.isBlank char = true
      · exact behind (.blank char (Json.isBlank_iff.1 blank)) rest rfl (by simp)
      by_cases line : ∃ more, char = '/' ∧ rest = '/' :: more
      · obtain ⟨more, rfl, rfl⟩ := line
        by_cases ends : '\n' ∈ more
        · obtain ⟨body, later, rfl, inLine⟩ := List.eq_append_cons_of_mem ends
          refine behind (.line body inLine) later (by simp [Trivium.text]) ?_
          simp only [List.length_cons, List.length_append]
          omega
        · exact ⟨[], _, rfl, .nothing (.ending (.comment more ends))⟩
      by_cases block : ∃ more, char = '/' ∧ rest = '*' :: more
      · obtain ⟨more, rfl, rfl⟩ := block
        by_cases closed : ['*', '/'] <:+: more
        · obtain ⟨body, later, rfl, unclosed⟩ := exists_first_close closed
          refine behind (.block body unclosed) later (by simp [Trivium.text]) ?_
          simp only [List.length_cons, List.length_append]
          omega
        · exact ⟨[], _, rfl, .nothing (.block more closed)⟩
      refine ⟨[], char :: rest, rfl, ?_⟩
      by_cases comma : char = ','
      · subst comma
        exact .comma rest
      by_cases quote : char = '"'
      · subst quote
        exact .quote rest
      exact .other (Bool.not_eq_true _ ▸ blank) comma quote
        (fun more slash next => line ⟨more, slash, next⟩)
        (fun more slash next => block ⟨more, slash, next⟩)

theorem strip_of_other {char : Char} {rest : Text} (notComma : char ≠ ',') (notQuote : char ≠ '"')
    (notLine : ∀ more, char = '/' → rest ≠ '/' :: more)
    (notBlock : ∀ more, char = '/' → rest ≠ '*' :: more) :
    strip (char :: rest) = char :: strip rest := by
  rw [strip] <;> assumption

/-! ## Characters of words and numbers -/

theorem Solid.json_isBlank {char : Char} (solid : Solid char) : Json.isBlank char = false := by
  refine Bool.eq_false_iff.2 fun blank => ?_
  rcases Json.isBlank_iff.1 blank with rfl | rfl | rfl | rfl <;> exact absurd solid (by decide)

theorem left_eq_nil {gap : Gap} {text left : Text} {char : Char} (solid : Solid char)
    (starts : gap.left ++ text = char :: left) : gap.left = [] := by
  cases shown : gap.left with
  | nil => rfl
  | cons first more =>
      rw [shown] at starts
      obtain ⟨rfl, -⟩ := List.cons.inj starts
      have blank : Json.isBlank first = true :=
        isBlank_of_mem_left first (by rw [shown]; exact List.mem_cons_self)
      rw [solid.json_isBlank] at blank
      cases blank

/-- What is left of a text in which a closing bracket follows begins with a blank or with the
bracket. -/
theorem not_solid_of_closes {text left : Text} {char : Char} (ahead : closes text = true)
    (stripped : strip text = char :: left) : ¬ Solid char := by
  intro solid
  obtain ⟨gap, rest, rfl, front⟩ := exists_gap text
  rw [closes_gap] at ahead
  rw [strip_gap] at stripped
  rw [left_eq_nil solid stripped, List.nil_append] at stripped
  have opens {other : Char} {more : Text} (isOther : Solid other) :
      closes (other :: more) = false := by
    obtain ⟨⟨-, notSlash, -⟩, notBlank, notBrace, notBracket⟩ := isOther
    exact closes_cons_eq_false notBlank notSlash notBrace notBracket more
  cases front with
  | nothing last => simp [last.closes_eq_false] at ahead
  | comma rest =>
      rw [closes_cons_eq_false (by decide) (by decide) (by decide) (by decide)] at ahead
      cases ahead
  | quote rest =>
      rw [closes_cons_eq_false (by decide) (by decide) (by decide) (by decide)] at ahead
      cases ahead
  | other seen notComma notQuote notLine notBlock =>
      rw [strip_of_other notComma notQuote notLine notBlock] at stripped
      obtain ⟨rfl, -⟩ := List.cons.inj stripped
      rw [opens solid] at ahead
      cases ahead

/-- A character of a word or number that is left comes behind comments that leave nothing. -/
theorem exists_vanishing {text left : Text} {char : Char} (solid : Solid char)
    (stripped : strip text = char :: left) :
    ∃ (gap : Gap) (more : Text), text = gap.text ++ char :: more ∧ gap.left = [] ∧
      strip more = left := by
  obtain ⟨gap, rest, rfl, front⟩ := exists_gap text
  rw [strip_gap] at stripped
  have vanishes := left_eq_nil solid stripped
  rw [vanishes, List.nil_append] at stripped
  cases front with
  | nothing last =>
      have blank := last.isBlank_of_mem_strip char (by rw [stripped]; exact List.mem_cons_self)
      simp [solid.json_isBlank] at blank
  | comma rest =>
      rw [strip] at stripped
      split_ifs at stripped with ahead
      · exact absurd solid (not_solid_of_closes ahead stripped)
      · obtain ⟨rfl, -⟩ := List.cons.inj stripped
        exact absurd solid (by decide)
  | quote rest =>
      obtain ⟨rfl, -⟩ := List.cons.inj stripped
      exact absurd solid (by decide)
  | @other first rest seen notComma notQuote notLine notBlock =>
      rw [strip_of_other notComma notQuote notLine notBlock] at stripped
      obtain ⟨rfl, rfl⟩ := List.cons.inj stripped
      exact ⟨gap, rest, rfl, vanishes, rfl⟩

/-- Characters of a word or number that are left come from such characters with comments between
them. -/
theorem exists_interrupted (first : Char) {chars text left : Text}
    (solid : ∀ char ∈ chars, Solid char) (stripped : strip text = chars ++ left) :
    ∃ front more, text = front ++ more ∧ Interrupted (first :: chars) (first :: front) ∧
      strip more = left := by
  induction chars generalizing first text with
  | nil => exact ⟨[], text, rfl, .last first, stripped⟩
  | cons char chars ih =>
      obtain ⟨here, later⟩ := List.forall_mem_cons.1 solid
      obtain ⟨gap, more, rfl, vanishes, behind⟩ := exists_vanishing here stripped
      obtain ⟨front, rest, rfl, interrupted, left⟩ := ih char later behind
      exact ⟨gap.text ++ char :: front, rest, by simp, .next first vanishes interrupted, left⟩

/-! ## Strings -/

/-- Characters of a string that are left come from the string, if none of them ends it or begins an
escape. -/
theorem exists_stripString_plain {chars text left : Text}
    (plain : ∀ char ∈ chars, char ≠ '"' ∧ char ≠ '\\')
    (stripped : stripString text = chars ++ left) :
    ∃ more, text = chars ++ more ∧ stripString more = left := by
  induction chars generalizing text with
  | nil => exact ⟨text, rfl, stripped⟩
  | cons char chars ih =>
      obtain ⟨⟨notQuote, notEscape⟩, later⟩ := List.forall_mem_cons.1 plain
      unfold stripString at stripped
      split at stripped
      · obtain ⟨rfl, -⟩ := List.cons.inj stripped
        exact absurd rfl notEscape
      · obtain ⟨rfl, -⟩ := List.cons.inj stripped
        exact absurd rfl notQuote
      · obtain ⟨rfl, behind⟩ := List.cons.inj stripped
        obtain ⟨more, rfl, left⟩ := ih later behind
        exact ⟨more, rfl, left⟩
      · cases stripped

theorem exists_stripString_escape {text left : Text} {char : Char}
    (stripped : stripString text = '\\' :: char :: left) :
    ∃ more, text = '\\' :: char :: more ∧ stripString more = left := by
  unfold stripString at stripped
  split at stripped
  · simp only [List.cons.injEq, true_and] at stripped
    obtain ⟨rfl, rfl⟩ := stripped
    exact ⟨_, rfl, rfl⟩
  · simp at stripped
  · rename_i first rest notEscape notQuote
    obtain ⟨isEscape, behind⟩ := List.cons.inj stripped
    cases rest with
    | nil => simp [stripString] at behind
    | cons next more => exact (notEscape next more isEscape rfl).elim
  · cases stripped

theorem exists_stripString_quote {text left : Text} (stripped : stripString text = '"' :: left) :
    ∃ more, text = '"' :: more ∧ strip more = left := by
  unfold stripString at stripped
  split at stripped
  · simp at stripped
  · obtain ⟨-, rfl⟩ := List.cons.inj stripped
    exact ⟨_, rfl, rfl⟩
  · rename_i first rest notEscape notQuote
    exact absurd (List.cons.inj stripped).1 notQuote
  · cases stripped

theorem exists_stripString_pieces {text left : Text} {pieces : List Json.Piece}
    (stripped : stripString text = pieces.flatMap Json.Piece.text ++ '"' :: left) :
    ∃ more, text = pieces.flatMap Json.Piece.text ++ '"' :: more ∧ strip more = left := by
  induction pieces generalizing text with
  | nil => exact exists_stripString_quote stripped
  | cons piece pieces ih =>
      rw [List.flatMap_cons, List.append_assoc] at stripped
      have inside : ∃ more, text = piece.text ++ more ∧
          stripString more = pieces.flatMap Json.Piece.text ++ '"' :: left := by
        cases piece with
        | plain char allowed =>
            exact exists_stripString_plain (by simpa [Json.Piece.text] using allowed.2) stripped
        | escape letter known => exact exists_stripString_escape stripped
        | unit digits four hex =>
            obtain ⟨digitsBehind, rfl, behind⟩ := exists_stripString_escape stripped
            obtain ⟨more, rfl, left⟩ := exists_stripString_plain (plain_of_hex hex) behind
            exact ⟨more, rfl, left⟩
      obtain ⟨more, rfl, behind⟩ := inside
      obtain ⟨rest, rfl, left⟩ := ih behind
      exact ⟨rest, by simp, left⟩

/-! ## Texts -/

theorem mark_or_string_or_solid (lexeme : Lexeme) :
    (∃ kind, lexeme = .mark kind) ∨ (∃ pieces, lexeme = .string pieces) ∨
      ∀ char ∈ lexeme.text, Solid char := by
  cases lexeme with
  | mark kind => exact Or.inl ⟨kind, rfl⟩
  | string pieces => exact Or.inr (Or.inl ⟨pieces, rfl⟩)
  | number numeral => exact Or.inr (Or.inr (solid_numeral numeral))
  | word value => exact Or.inr (Or.inr (solid_word value))

theorem eq_comma {lexeme : Lexeme} {more : Text} (begins : lexeme.text = ',' :: more) :
    lexeme = .mark .comma ∧ more = [] := by
  rcases mark_or_string_or_solid lexeme with ⟨kind, rfl⟩ | ⟨pieces, rfl⟩ | solid
  · cases kind <;> simp_all [Lexeme.text, Json.Mark.char]
  · simp [Lexeme.text] at begins
  · exact absurd (solid ',' (by simp [begins])) (by decide)

theorem exists_eq_string {lexeme : Lexeme} {more : Text} (begins : lexeme.text = '"' :: more) :
    ∃ pieces, lexeme = .string pieces ∧ more = pieces.flatMap Json.Piece.text ++ ['"'] := by
  rcases mark_or_string_or_solid lexeme with ⟨kind, rfl⟩ | ⟨pieces, rfl⟩ | solid
  · cases kind <;> simp [Lexeme.text, Json.Mark.char] at begins
  · exact ⟨pieces, rfl, (List.cons.inj begins).2.symm⟩
  · exact absurd (solid '"' (by simp [begins])) (by decide)

/-- A lexeme other than a string or a comma is written with comments within at most, if stripping
leaves it. -/
theorem exists_written {lexeme : Lexeme} {char : Char} {text more left : Text}
    (begins : lexeme.text = char :: more) (notComma : char ≠ ',') (notQuote : char ≠ '"')
    (stripped : strip text = more ++ left) :
    ∃ front behind, text = front ++ behind ∧ Written lexeme (char :: front) ∧
      lexeme ≠ .mark .comma ∧ strip behind = left := by
  have notCommaMark : lexeme ≠ .mark .comma := by
    rintro rfl
    exact notComma (List.cons.inj begins).1.symm
  rcases mark_or_string_or_solid lexeme with ⟨kind, rfl⟩ | ⟨pieces, rfl⟩ | solid
  · obtain ⟨rfl, rfl⟩ := List.cons.inj begins
    exact ⟨[], text, rfl, .whole, notCommaMark, stripped⟩
  · exact absurd (List.cons.inj begins).1.symm notQuote
  · have solidMore : ∀ other ∈ more, Solid other :=
      fun other member => solid other (by simp [begins, member])
    obtain ⟨front, behind, rfl, interrupted, left⟩ := exists_interrupted char solidMore stripped
    rw [← begins] at interrupted
    exact ⟨front, behind, rfl, .interrupted solid interrupted, notCommaMark, left⟩

/-- Whatever is left of a text as lexemes with blanks between them is a loose spelling of these
lexemes, with commas that trail. -/
theorem exists_spelled {text : Text} {lexemes : List Lexeme}
    (spaced : Spaced lexemes (strip text)) :
    ∃ source, Spelled source text ∧ withoutTrailing source = lexemes := by
  induction length : text.length using Nat.strong_induction_on generalizing text lexemes with
  | _ size ih =>
  subst length
  obtain ⟨gap, rest, rfl, front⟩ := exists_gap text
  rw [strip_gap] at spaced
  replace spaced := spaced.of_blanks_append isBlank_of_mem_left
  have shorter {more : Text} (less : more.length < rest.length) :
      more.length < (gap.text ++ rest).length := by
    rw [List.length_append]
    omega
  cases front with
  | nothing last =>
      obtain rfl := spaced.eq_nil_of_blank last.isBlank_of_mem_strip
      exact ⟨[], .last gap last, rfl⟩
  | comma rest =>
      rw [strip] at spaced
      split_ifs at spaced with ahead
      · obtain ⟨source, spelled, rfl⟩ := ih _ (shorter (by simp)) spaced rfl
        rw [spelled.closes_eq] at ahead
        exact ⟨.mark .comma :: source, .next gap .whole spelled, by simp [withoutTrailing, ahead]⟩
      · obtain ⟨lexeme, others, more, behind, rfl, begins, parts, spacedBehind⟩ :=
          spaced.exists_first (by decide)
        obtain ⟨rfl, rfl⟩ := eq_comma begins
        obtain rfl : strip rest = behind := parts
        obtain ⟨source, spelled, rfl⟩ := ih _ (shorter (by simp)) spacedBehind rfl
        rw [spelled.closes_eq] at ahead
        exact ⟨.mark .comma :: source, .next gap .whole spelled, by simp [withoutTrailing, ahead]⟩
  | quote rest =>
      rw [strip] at spaced
      obtain ⟨lexeme, others, more, behind, rfl, begins, parts, spacedBehind⟩ :=
        spaced.exists_first (by decide)
      obtain ⟨pieces, rfl, rfl⟩ := exists_eq_string begins
      rw [List.append_assoc] at parts
      obtain ⟨rest, rfl, rfl⟩ := exists_stripString_pieces parts
      have less :
          rest.length < ('"' :: (pieces.flatMap Json.Piece.text ++ '"' :: rest)).length := by
        simp only [List.length_cons, List.length_append]
        omega
      obtain ⟨source, spelled, rfl⟩ := ih _ (shorter less) spacedBehind rfl
      refine ⟨.string pieces :: source, ?_, rfl⟩
      have written : Written (.string pieces) (Lexeme.string pieces).text := .whole
      have whole := Spelled.next gap written spelled
      simpa [Lexeme.text] using whole
  | @other char rest seen notComma notQuote notLine notBlock =>
      rw [strip_of_other notComma notQuote notLine notBlock] at spaced
      obtain ⟨lexeme, others, more, behind, rfl, begins, parts, spacedBehind⟩ :=
        spaced.exists_first seen
      obtain ⟨front, rest, rfl, written, stays, rfl⟩ :=
        exists_written begins notComma notQuote parts
      have less : rest.length < (char :: (front ++ rest)).length := by
        simp only [List.length_cons, List.length_append]
        omega
      obtain ⟨source, spelled, rfl⟩ := ih _ (shorter less) spacedBehind rfl
      exact ⟨lexeme :: source, .next gap written spelled, Json.withoutTrailing_cons stays source⟩

/-! ## One comment of a text -/

/-- A text that leaves no string and no comment open, and no slash that could begin a comment:
what follows it is read like a text of its own. -/
def Outside (front : Text) : Prop :=
  ∀ rest, dropComments (front ++ rest) = dropComments front ++ dropComments rest

theorem dropCommentsLine_append {body : Text} (inLine : '\n' ∉ body) (rest : Text) :
    dropCommentsLine (body ++ rest) = dropCommentsLine rest := by
  induction body with
  | nil => rfl
  | cons char body ih =>
      obtain ⟨notEnd, inLine⟩ := not_or.1 (mt List.mem_cons.2 inLine)
      simp [dropCommentsLine, Ne.symm notEnd, ih inLine]

theorem dropCommentsBlock_append {body : Text} (unclosed : ¬ ['*', '/'] <:+: body) (rest : Text) :
    dropCommentsBlock (body ++ '*' :: '/' :: rest) =
      body.filter (· = '\n') ++ dropComments rest := by
  induction body with
  | nil => simp [dropCommentsBlock]
  | cons char body ih =>
      have goesOn := append_ne_close unclosed ('/' :: rest)
      have later := ih fun closed => unclosed (closed.trans (List.suffix_cons _ _).isInfix)
      by_cases lineEnd : char = '\n'
      · subst lineEnd
        simp [dropCommentsBlock, later]
      · simp [dropCommentsBlock, lineEnd, later]

theorem dropComments_trivium (trivium : Trivium) (rest : Text) :
    dropComments (trivium.text ++ rest) = trivium.left ++ dropComments rest := by
  cases trivium with
  | blank char allowed =>
      rcases allowed with rfl | rfl | rfl | rfl <;>
        simp [Trivium.text, Trivium.left, dropComments]
  | line body inLine =>
      simp [Trivium.text, Trivium.left, dropComments, dropCommentsLine_append inLine,
        dropCommentsLine]
  | block body unclosed =>
      simp [Trivium.text, Trivium.left, dropComments, dropCommentsBlock_append unclosed]

theorem dropComments_blanks_append {blanks : Text} (areBlank : ∀ char ∈ blanks, Json.isBlank char)
    (rest : Text) : dropComments (blanks ++ rest) = blanks ++ dropComments rest := by
  induction blanks with
  | nil => rfl
  | cons blank blanks ih =>
      obtain ⟨first, later⟩ := List.forall_mem_cons.1 areBlank
      have one := dropComments_trivium (.blank blank (Json.isBlank_iff.1 first)) (blanks ++ rest)
      rw [ih later] at one
      exact one

/-- A comment counts for its line ends. -/
theorem Outside.strip_eq {front : Text} (outside : Outside front) (trivium : Trivium)
    (rest : Text) :
    strip (front ++ (trivium.text ++ rest)) = strip (front ++ (trivium.left ++ rest)) := by
  have inGap : ∀ char ∈ Gap.left [trivium], Json.isBlank char := isBlank_of_mem_left
  have areBlank : ∀ char ∈ trivium.left, Json.isBlank char := by simpa [Gap.left] using inGap
  rw [strip_eq_passes.1, strip_eq_passes.1, outside, outside, dropComments_trivium,
    dropComments_blanks_append areBlank]

end Jsonc

end Relink
