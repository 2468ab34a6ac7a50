import Mathlib.Data.List.Chain
import Relink.Json.Token

/-!
# JSON documents

The grammar of JSON, apart from any scanner.  A document is a tree; strings and numbers are
kept as they are written.  It is spelled by its lexemes in a row.  Each array and each object
also says whether a comma trails its last member where such commas may stand.
-/

namespace Relink

namespace Json

/-! ## Strings and numbers -/

/-- The characters that a backslash may stand before, but for the `u` of a code unit. -/
def escapeLetters : List Char := ['"', '\\', '/', 'b', 'f', 'n', 'r', 't']

def isHexDigit (char : Char) : Bool :=
  char.isDigit || ('a' ≤ char && char ≤ 'f') || ('A' ≤ char && char ≤ 'F')

/-- A piece of a string as it is written: a character that stands for itself, an escape by a
letter, or one by the four digits of a code unit. -/
inductive Piece
  | plain (char : Char) (allowed : 0x20 ≤ char.toNat ∧ char ≠ '"' ∧ char ≠ '\\')
  | escape (letter : Char) (known : letter ∈ escapeLetters)
  | unit (digits : Text) (four : digits.length = 4) (hex : ∀ digit ∈ digits, isHexDigit digit)

def Piece.text : Piece → Text
  | .plain char _ => [char]
  | .escape letter _ => ['\\', letter]
  | .unit digits _ _ => '\\' :: 'u' :: digits

/-- One or more digits. -/
structure Digits where
  text : Text
  nonempty : text ≠ []
  isDigit : ∀ char ∈ text, char.isDigit

/-- The sign of a power of ten, as far as one is written. -/
inductive Sign
  | unsigned
  | plus
  | minus

def Sign.text : Sign → Text
  | .unsigned => []
  | .plus => ['+']
  | .minus => ['-']

/-- A power of ten behind a number. -/
structure Exponent where
  capital : Bool
  sign : Sign
  digits : Digits

def Exponent.text (exponent : Exponent) : Text :=
  (if exponent.capital then 'E' else 'e') :: (exponent.sign.text ++ exponent.digits.text)

/-- A number as it is written.  A leading zero stands alone. -/
structure Numeral where
  negative : Bool
  whole : Digits
  unpadded : whole.text.head? = some '0' → whole.text = ['0']
  fraction : Option Digits
  exponent : Option Exponent

namespace Numeral

def fractionText (numeral : Numeral) : Text :=
  numeral.fraction.elim [] fun digits => '.' :: digits.text

def exponentText (numeral : Numeral) : Text :=
  numeral.exponent.elim [] Exponent.text

def unsignedText (numeral : Numeral) : Text :=
  numeral.whole.text ++ (numeral.fractionText ++ numeral.exponentText)

def text (numeral : Numeral) : Text :=
  (if numeral.negative then ['-'] else []) ++ numeral.unsignedText

end Numeral

/-! ## Lexemes -/

inductive Mark
  | openBrace
  | closeBrace
  | openBracket
  | closeBracket
  | colon
  | comma
deriving DecidableEq

def Mark.char : Mark → Char
  | .openBrace => '\x7b'
  | .closeBrace => '\x7d'
  | .openBracket => '['
  | .closeBracket => ']'
  | .colon => ':'
  | .comma => ','

/-- The word for a truth value, or for no value. -/
def wordText : Option Bool → Text
  | none => "null".toList
  | some true => "true".toList
  | some false => "false".toList

/-- A token as it is written. -/
inductive Lexeme
  | mark (kind : Mark)
  | string (pieces : List Piece)
  | number (numeral : Numeral)
  | word (value : Option Bool)

namespace Lexeme

def text : Lexeme → Text
  | .mark kind => [kind.char]
  | .string pieces => '"' :: (pieces.flatMap Piece.text ++ ['"'])
  | .number numeral => numeral.text
  | .word value => wordText value

def isMark : Lexeme → Bool
  | .mark _ => true
  | _ => false

end Lexeme

/-- No two lexemes in a row would run together without a blank between them. -/
def Apart (lexemes : List Lexeme) : Prop :=
  lexemes.IsChain fun lexeme next => lexeme.isMark ∨ next.isMark

/-- Whether a closing bracket comes first. -/
def closesFirst : List Lexeme → Bool
  | .mark .closeBrace :: _ => true
  | .mark .closeBracket :: _ => true
  | _ => false

/-- The lexemes without the commas that a closing bracket follows. -/
def withoutTrailing : List Lexeme → List Lexeme
  | [] => []
  | .mark .comma :: rest =>
      if closesFirst rest then withoutTrailing rest else .mark .comma :: withoutTrailing rest
  | lexeme :: rest => lexeme :: withoutTrailing rest

/-! ## Documents -/

/-- A JSON value as it is written.  `comma` says whether a comma trails the last member; it is
of no effect where there are no members. -/
inductive Document
  | word (value : Option Bool)
  | number (numeral : Numeral)
  | string (pieces : List Piece)
  | array (items : List Document) (comma : Bool)
  | object (members : List (List Piece × Document)) (comma : Bool)

/-- The comma behind a member that `rest` follows. -/
def commaBefore {α : Type} (rest : List α) (comma : Bool) : List Lexeme :=
  if rest.isEmpty && !comma then [] else [.mark .comma]

mutual

/-- The lexemes a document is spelled by, with its trailing commas if it is `loose`. -/
def Document.lexemes (loose : Bool) : Document → List Lexeme
  | .word value => [.word value]
  | .number numeral => [.number numeral]
  | .string pieces => [.string pieces]
  | .array items comma =>
      .mark .openBracket ::
        (itemLexemes loose (loose && comma) items ++ [.mark .closeBracket])
  | .object members comma =>
      .mark .openBrace ::
        (memberLexemes loose (loose && comma) members ++ [.mark .closeBrace])

def itemLexemes (loose comma : Bool) : List Document → List Lexeme
  | [] => []
  | item :: rest =>
      item.lexemes loose ++ (commaBefore rest comma ++ itemLexemes loose comma rest)

def memberLexemes (loose comma : Bool) : List (List Piece × Document) → List Lexeme
  | [] => []
  | (key, value) :: rest =>
      .string key :: .mark .colon ::
        (value.lexemes loose ++ (commaBefore rest comma ++ memberLexemes loose comma rest))

end

/-- The JSON text of a document, without any blanks. -/
def Document.text (document : Document) : Text :=
  (document.lexemes false).flatMap Lexeme.text

/-! ## Lexemes of documents -/

theorem apart_mark_cons {kind : Mark} {lexemes : List Lexeme} :
    Apart (.mark kind :: lexemes) ↔ Apart lexemes := by
  simp [Apart, List.isChain_cons, Lexeme.isMark]

/-- Marks come apart from everything. -/
theorem apart_append_mark {lexemes rest : List Lexeme} {kind : Mark} :
    Apart (lexemes ++ .mark kind :: rest) ↔ Apart lexemes ∧ Apart rest := by
  simp [Apart, List.isChain_append, List.isChain_cons, Lexeme.isMark]

theorem withoutTrailing_cons {lexeme : Lexeme} (stays : lexeme ≠ .mark .comma)
    (rest : List Lexeme) : withoutTrailing (lexeme :: rest) = lexeme :: withoutTrailing rest := by
  cases lexeme with
  | mark kind => cases kind <;> simp_all [withoutTrailing]
  | _ => rfl

theorem closesFirst_lexemes_append (loose : Bool) (document : Document) (tail : List Lexeme) :
    closesFirst (document.lexemes loose ++ tail) = false := by
  cases document <;> simp [Document.lexemes, closesFirst]

theorem closesFirst_itemLexemes_append (loose comma : Bool) (items : List Document)
    {tail : List Lexeme} (closed : closesFirst tail = true) :
    closesFirst (itemLexemes loose comma items ++ tail) = items.isEmpty := by
  cases items with
  | nil => simpa [itemLexemes] using closed
  | cons item rest => simp [itemLexemes, closesFirst_lexemes_append]

theorem closesFirst_memberLexemes_append (loose comma : Bool)
    (members : List (List Piece × Document)) {tail : List Lexeme}
    (closed : closesFirst tail = true) :
    closesFirst (memberLexemes loose comma members ++ tail) = members.isEmpty := by
  cases members with
  | nil => simpa [memberLexemes] using closed
  | cons member rest => simp [memberLexemes, closesFirst]

/-- A comma between members stays, and one behind the last of them goes. -/
theorem withoutTrailing_commaBefore {α : Type} {rest : List α} (comma : Bool)
    {following : List Lexeme} (closes : closesFirst following = rest.isEmpty) :
    withoutTrailing (commaBefore rest comma ++ following) =
      commaBefore rest false ++ withoutTrailing following := by
  cases rest <;> cases comma <;> simp_all [commaBefore, withoutTrailing]

mutual

/-- The trailing commas of a document are the commas that a closing bracket follows. -/
theorem withoutTrailing_lexemes_append (loose : Bool) (tail : List Lexeme) : (document : Document) →
    withoutTrailing (document.lexemes loose ++ tail) =
      document.lexemes false ++ withoutTrailing tail
  | .word _ | .number _ | .string _ => by simp [Document.lexemes, withoutTrailing]
  | .array items comma => by
      have inside := withoutTrailing_itemLexemes_append loose (loose && comma)
        (.mark .closeBracket :: tail) rfl items
      simpa [Document.lexemes, withoutTrailing] using inside
  | .object members comma => by
      have inside := withoutTrailing_memberLexemes_append loose (loose && comma)
        (.mark .closeBrace :: tail) rfl members
      simpa [Document.lexemes, withoutTrailing] using inside

theorem withoutTrailing_itemLexemes_append (loose comma : Bool) (tail : List Lexeme)
    (closed : closesFirst tail = true) : (items : List Document) →
    withoutTrailing (itemLexemes loose comma items ++ tail) =
      itemLexemes false false items ++ withoutTrailing tail
  | [] => by simp [itemLexemes]
  | item :: rest => by
      have follows := closesFirst_itemLexemes_append loose comma rest closed
      simp only [itemLexemes, List.append_assoc]
      rw [withoutTrailing_lexemes_append, withoutTrailing_commaBefore comma follows,
        withoutTrailing_itemLexemes_append loose comma tail closed rest]

theorem withoutTrailing_memberLexemes_append (loose comma : Bool) (tail : List Lexeme)
    (closed : closesFirst tail = true) : (members : List (List Piece × Document)) →
    withoutTrailing (memberLexemes loose comma members ++ tail) =
      memberLexemes false false members ++ withoutTrailing tail
  | [] => by simp [memberLexemes]
  | (key, value) :: rest => by
      have follows := closesFirst_memberLexemes_append loose comma rest closed
      simp only [memberLexemes, List.append_assoc, List.cons_append, withoutTrailing]
      rw [withoutTrailing_lexemes_append, withoutTrailing_commaBefore comma follows,
        withoutTrailing_memberLexemes_append loose comma tail closed rest]

end

theorem withoutTrailing_lexemes (loose : Bool) (document : Document) :
    withoutTrailing (document.lexemes loose) = document.lexemes false := by
  simpa [withoutTrailing] using withoutTrailing_lexemes_append loose [] document

theorem apart_append_commaBefore {α : Type} {rest : List α} {comma : Bool}
    {lexemes following : List Lexeme} (first : Apart lexemes) (second : Apart following)
    (ends : rest = [] → following = []) :
    Apart (lexemes ++ (commaBefore rest comma ++ following)) := by
  unfold commaBefore
  split_ifs with last
  · simpa [ends (by simp_all)] using first
  · exact apart_append_mark.2 ⟨first, second⟩

mutual

/-- Between any two words, numbers and strings of a document stands a mark. -/
theorem Document.apart (loose : Bool) : (document : Document) → Apart (document.lexemes loose)
  | .word _ | .number _ | .string _ => List.isChain_singleton _
  | .array items _ =>
      apart_mark_cons.2 (apart_append_mark.2 ⟨apart_itemLexemes loose _ items, List.isChain_nil⟩)
  | .object members _ =>
      apart_mark_cons.2
        (apart_append_mark.2 ⟨apart_memberLexemes loose _ members, List.isChain_nil⟩)

theorem apart_itemLexemes (loose comma : Bool) : (items : List Document) →
    Apart (itemLexemes loose comma items)
  | [] => List.isChain_nil
  | item :: rest =>
      apart_append_commaBefore (item.apart loose) (apart_itemLexemes loose comma rest)
        (by rintro rfl; rfl)

theorem apart_memberLexemes (loose comma : Bool) : (members : List (List Piece × Document)) →
    Apart (memberLexemes loose comma members)
  | [] => List.isChain_nil
  | (key, value) :: rest => by
      have inside : Apart (value.lexemes loose ++ (commaBefore rest comma ++
          memberLexemes loose comma rest)) :=
        apart_append_commaBefore (value.apart loose) (apart_memberLexemes loose comma rest)
          (by rintro rfl; rfl)
      exact apart_append_mark.2 ⟨List.isChain_singleton (.string key), inside⟩

end

end Json

end Relink
