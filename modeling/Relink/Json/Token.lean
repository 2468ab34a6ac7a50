import Relink.Text.Split

/-!
# JSON tokens

A JSON text is read in two steps: it is cut into tokens, and the tokens are
decoded.  Blanks between tokens leave no trace but the positions.

A string or a number can be read in two ways.  It is *kept* when its value is
wanted and *skipped* when it only has to be passed, and skipping is more lenient:
it does not pair surrogate escapes and does not mind the size of a number.
-/

namespace Relink

namespace Json

/-- What is wrong with a document: it ends too early, it is not JSON, or it is not
of the expected shape. -/
inductive Trouble
  | unfinished
  | malformed
  | unfit (reason : Option Text)
deriving DecidableEq, Repr

/-- A trouble with the text that follows the offending character. -/
structure Fault where
  trouble : Trouble
  rest : Text
deriving DecidableEq, Repr

def Fault.atEnd : Fault := ⟨.unfinished, []⟩

/-- The character before `rest` cannot stand where it does. -/
def Fault.before (rest : Text) : Fault := ⟨.malformed, rest⟩

/-- A token by its first character, with what reading it gives. -/
inductive Shape
  | mark (char : Char)
  | quoted (kept : Except Fault Text) (skipped : Except Fault Unit)
  | number (kept skipped : Except Fault Unit)
  | word (value : Option Bool) (spelled : Except Fault Unit)
  | stray

/-- A token with the text that follows its first character. -/
structure Token where
  shape : Shape
  rest : Text

/-- The blanks that may stand between tokens. -/
def isBlank (char : Char) : Bool :=
  char = ' ' || char = '\n' || char = '\t' || char = '\r'

/-! ## Strings -/

def hexDigit? (char : Char) : Option Nat :=
  if '0' ≤ char ∧ char ≤ '9' then some (char.toNat - '0'.toNat)
  else if 'a' ≤ char ∧ char ≤ 'f' then some (char.toNat - 'a'.toNat + 10)
  else if 'A' ≤ char ∧ char ≤ 'F' then some (char.toNat - 'A'.toNat + 10)
  else none

/-- The text without its first characters, as many as `bytes` bytes touch. -/
def dropBytes : Nat → Text → Text
  | 0, text => text
  | _ + 1, [] => []
  | bytes + 1, char :: rest => dropBytes (bytes + 1 - char.utf8Size) rest

/-- The value of the four digits that follow `\u`. -/
def hexQuad (text : Text) : Except Fault Nat :=
  if Text.byteLength (text.take 4) < 4 then
    .error .atEnd
  else
    match (text.take 4).mapM hexDigit? with
    | some digits => .ok (digits.foldl (fun value digit => 16 * value + digit) 0)
    | none => .error (.before (dropBytes 4 text))

/-- The character that a backslash with `char` stands for. -/
def unescape? : Char → Option Char
  | '"' => some '"'
  | '\\' => some '\\'
  | '/' => some '/'
  | 'b' => some '\x08'
  | 'f' => some '\x0c'
  | 'n' => some '\n'
  | 'r' => some '\r'
  | 't' => some '\t'
  | _ => none

/-- Whether a code unit is the first half of a surrogate pair. -/
def isLeading (unit : Nat) : Bool := 0xD800 ≤ unit && unit ≤ 0xDBFF

/-- Whether a code unit is the second half of a surrogate pair. -/
def isTrailing (unit : Nat) : Bool := 0xDC00 ≤ unit && unit ≤ 0xDFFF

/-- The character a surrogate pair stands for. -/
def pairChar (leading trailing : Nat) : Char :=
  Char.ofNat (0x10000 + (leading - 0xD800) * 0x400 + (trailing - 0xDC00))

/-- The text behind a string whose opening quote was read. -/
def skipString : Text → Except Fault Text
  | [] => .error .atEnd
  | '"' :: rest => .ok rest
  | ['\\'] => .error .atEnd
  | '\\' :: 'u' :: rest =>
      match hexQuad rest with
      | .error fault => .error fault
      | .ok _ => skipString (rest.drop 4)
  | '\\' :: char :: rest =>
      if (unescape? char).isSome then skipString rest else .error (.before rest)
  | char :: rest =>
      if char.toNat < 0x20 then .error (.before (char :: rest)) else skipString rest
termination_by text => text.length
decreasing_by all_goals simp_wf; try omega

/-- The value of a string whose opening quote was read. -/
def keepString : Text → Except Fault Text
  | [] => .error .atEnd
  | '"' :: _ => .ok []
  | ['\\'] => .error .atEnd
  | '\\' :: 'u' :: rest =>
      match hexQuad rest with
      | .error fault => .error fault
      | .ok unit =>
          if isTrailing unit then
            .error (.before (rest.drop 4))
          else if isLeading unit then
            match rest.drop 4 with
            | [] => .error .atEnd
            | ['\\'] => .error .atEnd
            | '\\' :: 'u' :: more =>
                match hexQuad more with
                | .error fault => .error fault
                | .ok trailing =>
                    if isTrailing trailing then
                      (keepString (rest.drop 10)).map (pairChar unit trailing :: ·)
                    else
                      .error (.before (rest.drop 10))
            | '\\' :: _ :: more => .error (.before more)
            | _ :: more => .error (.before more)
          else
            (keepString (rest.drop 4)).map (Char.ofNat unit :: ·)
  | '\\' :: char :: rest =>
      match unescape? char with
      | some plain => (keepString rest).map (plain :: ·)
      | none => .error (.before rest)
  | char :: rest =>
      if char.toNat < 0x20 then .error (.before rest) else (keepString rest).map (char :: ·)
termination_by text => text.length
decreasing_by all_goals simp_wf; try omega

/-! ## Numbers -/

/-- The size of a number: its leading digits, and the power of ten they count. -/
structure Magnitude where
  digits : Nat
  exponent : Int

/-- The number of double precision that is nearest to a whole number, an even one of two
that are equally near. -/
def nearestDouble (value : Nat) : Nat :=
  let unit := Nat.pow 2 (value.log2 - 52)
  let count := value / unit
  let twice := 2 * (value % unit)
  if twice > unit || (twice = unit && count % 2 = 1) then (count + 1) * unit else count * unit

/-- The least number that rounds to infinity in double precision. -/
def Magnitude.least : Nat := Nat.pow 2 1024 - Nat.pow 2 970

/-- Whether a magnitude is infinite in double precision, where the digits and the power of
ten are rounded before they are multiplied. -/
def Magnitude.isInfinite (magnitude : Magnitude) : Bool :=
  if magnitude.digits = 0 || magnitude.exponent < 0 then false
  else
    magnitude.exponent > 308 ||
      nearestDouble magnitude.digits * nearestDouble (Nat.pow 10 magnitude.exponent.toNat) ≥
        least

/-- The greatest number that digits are gathered in. -/
def mostDigits : Nat := Nat.pow 2 64 - 1

def digitsValue (digits : Text) : Nat :=
  digits.foldl (fun value digit => 10 * value + (digit.toNat - '0'.toNat)) 0

/-- The number that digits spell behind a number, as far as there is room for them, and
how many digits there was no room for. -/
def gatherDigits (value : Nat) : Text → Nat × Nat
  | [] => (value, 0)
  | digit :: rest =>
      let longer := 10 * value + (digit.toNat - '0'.toNat)
      if longer ≤ mostDigits then gatherDigits longer rest else (value, rest.length + 1)

/-- The size of a number by its digits before and behind the point and its exponent. -/
def Magnitude.ofDigits (whole fraction : Text) (exponent : Int) : Magnitude :=
  let (value, beyond) := gatherDigits 0 whole
  let (longer, unread) := gatherDigits value fraction
  ⟨longer, exponent + beyond - (fraction.length - unread : Nat)⟩

/-- One or more digits; `ended` is the trouble when the text ends before them. -/
def scanDigits (ended : Trouble) (text : Text) : Except Fault (Text × Text) :=
  match text.span Char.isDigit with
  | ([], []) => .error ⟨ended, []⟩
  | ([], _ :: rest) => .error (.before rest)
  | digits => .ok digits

/-- The power of ten behind a number, if there is one. -/
def scanExponent (ended : Trouble) (text : Text) : Except Fault (Int × Text) :=
  match text with
  | 'e' :: rest | 'E' :: rest =>
      match rest with
      | '+' :: more => (scanDigits ended more).map fun (digits, behind) =>
          ((digitsValue digits : Int), behind)
      | '-' :: more => (scanDigits ended more).map fun (digits, behind) =>
          (-(digitsValue digits : Int), behind)
      | more => (scanDigits ended more).map fun (digits, behind) =>
          ((digitsValue digits : Int), behind)
  | _ => .ok (0, text)

/-- The digits of a number before its point.  A leading zero stands alone. -/
def scanWhole (ended : Trouble) (text : Text) : Except Fault (Text × Text) :=
  match text with
  | '0' :: next :: rest =>
      if next.isDigit then .error (.before rest) else .ok (['0'], next :: rest)
  | _ => scanDigits ended text

def scanUnsigned (ended : Trouble) (text : Text) : Except Fault (Magnitude × Text) :=
  match scanWhole ended text with
  | .error fault => .error fault
  | .ok (whole, '.' :: rest) =>
      match scanDigits ended rest with
      | .error fault => .error fault
      | .ok (fraction, behind) =>
          (scanExponent ended behind).map fun (exponent, behind) =>
            (.ofDigits whole fraction exponent, behind)
  | .ok (whole, rest) =>
      (scanExponent ended rest).map fun (exponent, behind) =>
        (.ofDigits whole [] exponent, behind)

def scanNumber (ended : Trouble) : Text → Except Fault (Magnitude × Text)
  | '-' :: rest => scanUnsigned ended rest
  | text => scanUnsigned ended text

/-- Passes a number; it is no fault of the text that it ends early. -/
def skipNumber (text : Text) : Except Fault Text :=
  (scanNumber .malformed text).map Prod.snd

/-- Reads a number that has to be of a size that can be represented. -/
def keepNumber (text : Text) : Except Fault Unit :=
  match scanNumber .unfinished text with
  | .error fault => .error fault
  | .ok (magnitude, rest) =>
      if magnitude.isInfinite then .error (.before rest) else .ok ()

/-! ## Words and texts -/

/-- The text behind `letters`, which have to come next. -/
def scanWord : (letters text : Text) → Except Fault Text
  | [], text => .ok text
  | _ :: _, [] => .error .atEnd
  | letter :: letters, char :: rest =>
      if char = letter then scanWord letters rest else .error (.before rest)

/-- The shape of the token that begins with `char`, and the text behind the token
if it can be passed. -/
def scanShape (char : Char) (rest : Text) : Shape × Option Text :=
  if char = '"' then
    (.quoted (keepString rest) ((skipString rest).map fun _ => ()), (skipString rest).toOption)
  else if char = '-' || char.isDigit then
    let skipped := skipNumber (char :: rest)
    (.number (keepNumber (char :: rest)) (skipped.map fun _ => ()), skipped.toOption)
  else if char = 'n' then
    let spelled := scanWord ['u', 'l', 'l'] rest
    (.word none (spelled.map fun _ => ()), spelled.toOption)
  else if char = 't' then
    let spelled := scanWord ['r', 'u', 'e'] rest
    (.word (some true) (spelled.map fun _ => ()), spelled.toOption)
  else if char = 'f' then
    let spelled := scanWord ['a', 'l', 's', 'e'] rest
    (.word (some false) (spelled.map fun _ => ()), spelled.toOption)
  else if ['{', '}', '[', ']', ':', ','].contains char then
    (.mark char, some rest)
  else
    (.stray, none)

/-- At most `limit` tokens of a text, up to the first that cannot be passed. -/
def tokensUpTo : (limit : Nat) → Text → List Token
  | 0, _ => []
  | limit + 1, text =>
      match text.dropWhile isBlank with
      | [] => []
      | char :: rest =>
          match scanShape char rest with
          | (shape, some behind) => ⟨shape, rest⟩ :: tokensUpTo limit behind
          | (shape, none) => [⟨shape, rest⟩]

/-- The tokens of a text, up to the first that cannot be passed. -/
def tokens (text : Text) : List Token :=
  tokensUpTo text.length text

end Json

end Relink
