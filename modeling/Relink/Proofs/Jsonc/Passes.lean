import Relink.Jsonc

/-!
# Stripping in two passes

Stripping looks ahead over comments to see whether a comma trails.  What it looks for stands
next once the comments are gone.  So the text is the same if all comments are dropped first, and
trailing commas after that, whether its strings and comments are closed or not.
-/

namespace Relink

namespace Jsonc

/-! ## Looking ahead -/

theorem bracketNext_cons_of_isBlank {char : Char} (blank : isBlank char = true) (rest : Text) :
    bracketNext (char :: rest) = bracketNext rest := by
  simp [bracketNext, blank]

theorem bracketNext_cons_eq_false {char : Char} (seen : isBlank char = false)
    (notBrace : char ≠ '\x7d') (notBracket : char ≠ ']') (rest : Text) :
    bracketNext (char :: rest) = false := by
  simp [bracketNext, seen, notBrace, notBracket]

/-- A closing bracket follows blanks and comments exactly if it stands next once the comments
are dropped.  The same holds from within a comment. -/
theorem closes_eq_bracketNext :
    (∀ text, closes text = bracketNext (dropComments text)) ∧
      (∀ text, closesAfterBlock text = bracketNext (dropCommentsBlock text)) ∧
        ∀ text, closesAfterLine text = bracketNext (dropCommentsLine text) := by
  have lineEnd : isBlank '\n' = true := by decide
  refine closes.mutual_induct _ _ _ ?line ?block ?brace ?bracket ?other ?nothing
    ?blockEnds ?inBlock ?unclosed ?lineEnds ?inLine ?lastLine
  case line =>
    intro rest ih
    rw [closes, dropComments, ih]
  case block =>
    intro rest ih
    rw [closes, dropComments, ih]
  case brace =>
    intro rest
    have seen : isBlank '\x7d' = false := by decide
    simp [closes, dropComments, bracketNext, seen]
  case bracket =>
    intro rest
    have seen : isBlank ']' = false := by decide
    simp [closes, dropComments, bracketNext, seen]
  case other =>
    intro char rest notLine notBlock notBrace notBracket ih
    have ahead : closes (char :: rest) = (isBlank char && closes rest) := by
      rw [closes] <;> assumption
    rw [ahead, ih]
    by_cases quote : char = '"'
    · -- A string is no bracket, whatever it holds.
      subst quote
      rfl
    · have kept : dropComments (char :: rest) = char :: dropComments rest := by
        rw [dropComments] <;> assumption
      rw [kept]
      cases blank : isBlank char with
      | true => rw [Bool.true_and, bracketNext_cons_of_isBlank blank]
      | false => rw [Bool.false_and, bracketNext_cons_eq_false blank notBrace notBracket]
  case nothing => rfl
  case blockEnds =>
    intro rest ih
    rw [closesAfterBlock, dropCommentsBlock, ih]
  case inBlock =>
    intro char rest goesOn ih
    have ahead : closesAfterBlock (char :: rest) = closesAfterBlock rest := by
      rw [closesAfterBlock]; assumption
    rw [ahead, ih]
    by_cases isEnd : char = '\n'
    · subst isEnd
      rw [dropCommentsBlock, bracketNext_cons_of_isBlank lineEnd]
    · have dropped : dropCommentsBlock (char :: rest) = dropCommentsBlock rest := by
        rw [dropCommentsBlock] <;> assumption
      rw [dropped]
  case unclosed => rfl
  case lineEnds =>
    intro rest ih
    rw [closesAfterLine, dropCommentsLine, ih, bracketNext_cons_of_isBlank lineEnd]
  case inLine =>
    intro char rest goesOn ih
    simp only [closesAfterLine, dropCommentsLine, ih]
  case lastLine => rfl

/-! ## Dropping commas -/

theorem dropComments_comma (rest : Text) :
    dropComments (',' :: rest) = ',' :: dropComments rest := by
  rw [dropComments] <;> simp

theorem dropTrailingCommas_lineEnd (rest : Text) :
    dropTrailingCommas ('\n' :: rest) = '\n' :: dropTrailingCommas rest := by
  rw [dropTrailingCommas] <;> simp

/-- Stripping a comma asks what stands next without comments. -/
theorem strip_comma (rest : Text) :
    strip (',' :: rest) =
      if bracketNext (dropComments rest) then strip rest else ',' :: strip rest := by
  rw [strip, closes_eq_bracketNext.1]

/-- A character in a string stays in both passes, be it a backslash at the end of the text. -/
theorem dropTrailingCommasString_cons {char : Char} {rest : Text}
    (notEscape : ∀ escaped more, char = '\\' → rest = escaped :: more → False)
    (notQuote : char ≠ '"') :
    dropTrailingCommasString (dropCommentsString (char :: rest)) =
      char :: dropTrailingCommasString (dropCommentsString rest) := by
  have kept : dropCommentsString (char :: rest) = char :: dropCommentsString rest := by
    rw [dropCommentsString] <;> assumption
  rw [kept]
  cases rest with
  | nil => simp [dropCommentsString, dropTrailingCommasString]
  | cons next more =>
      have plain : char ≠ '\\' := fun escape => notEscape next more escape rfl
      rw [dropTrailingCommasString]
      · exact fun _ _ escape _ => plain escape
      · exact notQuote

/-- The two passes after one another do what the one pass does, from within a string or a comment on
as well. -/
theorem strip_eq_passes :
    (∀ text, strip text = dropTrailingCommas (dropComments text)) ∧
      (∀ text, stripBlock text = dropTrailingCommas (dropCommentsBlock text)) ∧
        (∀ text, stripLine text = dropTrailingCommas (dropCommentsLine text)) ∧
          ∀ text, stripString text = dropTrailingCommasString (dropCommentsString text) := by
  refine strip.mutual_induct _ _ _ _ ?string ?line ?block ?trailing ?comma ?other ?nothing
    ?blockEnds ?lineEndInBlock ?inBlock ?unclosedBlock ?lineEnds ?inLine ?lastLine
    ?escape ?quote ?inString ?unclosedString
  case string =>
    intro rest ih
    rw [strip, dropComments, dropTrailingCommas, ih]
  case line =>
    intro rest ih
    rw [strip, dropComments, ih]
  case block =>
    intro rest ih
    rw [strip, dropComments, ih]
  case trailing =>
    intro rest _ ih
    rw [strip_comma, dropComments_comma, dropTrailingCommas, ih]
  case comma =>
    intro rest _ ih
    rw [strip_comma, dropComments_comma, dropTrailingCommas, ih]
  case other =>
    intro char rest notQuote notLine notBlock notComma ih
    have stripped : strip (char :: rest) = char :: strip rest := by
      rw [strip] <;> assumption
    have kept : dropComments (char :: rest) = char :: dropComments rest := by
      rw [dropComments] <;> assumption
    have keptAgain : dropTrailingCommas (char :: dropComments rest) =
        char :: dropTrailingCommas (dropComments rest) := by
      rw [dropTrailingCommas] <;> assumption
    rw [stripped, kept, keptAgain, ih]
  case nothing => rfl
  case blockEnds =>
    intro rest ih
    rw [stripBlock, dropCommentsBlock, ih]
  case lineEndInBlock =>
    intro rest ih
    rw [stripBlock, dropCommentsBlock, dropTrailingCommas_lineEnd, ih]
  case inBlock =>
    intro char rest goesOn notEnd ih
    have skipped : stripBlock (char :: rest) = stripBlock rest := by
      rw [stripBlock] <;> assumption
    have dropped : dropCommentsBlock (char :: rest) = dropCommentsBlock rest := by
      rw [dropCommentsBlock] <;> assumption
    rw [skipped, dropped, ih]
  case unclosedBlock => rfl
  case lineEnds =>
    intro rest ih
    rw [stripLine, dropCommentsLine, dropTrailingCommas_lineEnd, ih]
  case inLine =>
    intro char rest goesOn ih
    simp only [stripLine, dropCommentsLine, ih]
  case lastLine => rfl
  case escape =>
    intro char rest ih
    rw [stripString, dropCommentsString, dropTrailingCommasString, ih]
  case quote =>
    intro rest ih
    rw [stripString, dropCommentsString, dropTrailingCommasString, ih]
  case inString =>
    intro char rest notEscape notQuote ih
    have stays : stripString (char :: rest) = char :: stripString rest := by
      rw [stripString] <;> assumption
    rw [stays, ih, dropTrailingCommasString_cons notEscape notQuote]
  case unclosedString => rfl

/-- Stripping a text is dropping its comments, and then its trailing commas. -/
theorem strip_eq_dropTrailingCommas_dropComments (text : Text) :
    strip text = dropTrailingCommas (dropComments text) :=
  strip_eq_passes.1 text

/-- The star that begins a comment does not end it, neither ahead of a comma nor behind it. -/
example : strip "[1, /*/ ] */ 2, /*/ */ ]".toList = "[1,  2  ]".toList := by decide

end Jsonc

end Relink
