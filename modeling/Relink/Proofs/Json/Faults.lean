import Mathlib.Data.List.Infix
import Relink.Json.Decode

/-!
# Where faults lie

Whatever is wrong with a JSON text is wrong at one of its characters: the text behind the
offending character, which a fault keeps, is an ending of the text.  Scanners leave endings of
the text they read, and so the tokens of a text lie behind its first character.
-/

namespace Relink

namespace Json

/-! ## Outcomes -/

/-- The faults of an outcome lie in a text: what follows the offending character ends it. -/
def FaultsIn {α : Type} (text : Text) (outcome : Except Fault α) : Prop :=
  ∀ fault, outcome = .error fault → fault.rest <:+ text

/-- Whatever is left, behind what was read or behind what is wrong, ends a text. -/
def Leaves (text : Text) : Except Fault Text → Prop
  | .ok rest => rest <:+ text
  | .error fault => fault.rest <:+ text

section

variable {α β : Type} {text other : Text} {outcome : Except Fault α}

theorem FaultsIn.mono (faults : FaultsIn text outcome) (ends : text <:+ other) :
    FaultsIn other outcome :=
  fun fault failed => (faults fault failed).trans ends

theorem FaultsIn.map (faults : FaultsIn text outcome) (change : α → β) :
    FaultsIn text (outcome.map change) := by
  cases outcome with
  | error fault =>
      rintro _ ⟨⟩
      exact faults fault rfl
  | ok value => rintro _ ⟨⟩

theorem faultsIn_ok (text : Text) (value : α) : FaultsIn text (.ok value) := by
  rintro _ ⟨⟩

theorem faultsIn_error {fault : Fault} (ends : fault.rest <:+ text) :
    FaultsIn (α := α) text (.error fault) := by
  rintro _ ⟨⟩
  exact ends

@[simp] theorem leaves_ok {rest : Text} : Leaves text (.ok rest) ↔ rest <:+ text := Iff.rfl

theorem Leaves.faultsIn {outcome : Except Fault Text} (leaves : Leaves text outcome) :
    FaultsIn text outcome := by
  cases outcome with
  | error fault => exact faultsIn_error leaves
  | ok rest => exact faultsIn_ok text rest

theorem Leaves.mono {outcome : Except Fault Text} (leaves : Leaves text outcome)
    (ends : text <:+ other) : Leaves other outcome := by
  cases outcome <;> exact List.IsSuffix.trans leaves ends

/-- What is left does not depend on what becomes of the value. -/
theorem Leaves.map_value {outcome : Except Fault (α × Text)}
    (leaves : Leaves text (outcome.map Prod.snd)) (change : α → β) :
    Leaves text ((outcome.map fun read => (change read.1, read.2)).map Prod.snd) := by
  cases outcome <;> exact leaves

end

theorem suffix_cons_cons (first second : Char) (rest : Text) : rest <:+ first :: second :: rest :=
  ⟨[first, second], rfl⟩

theorem suffix_cons_cons_of_drop {count : Nat} {rest behind : Text}
    (dropped : rest.drop count = behind) (first second : Char) :
    behind <:+ first :: second :: rest :=
  dropped ▸ (List.drop_suffix count rest).trans (suffix_cons_cons first second rest)

/-! ## Strings -/

theorem dropBytes_suffix (bytes : Nat) (text : Text) : dropBytes bytes text <:+ text := by
  fun_induction dropBytes bytes text with
  | case1 text => exact List.suffix_rfl
  | case2 bytes => exact List.suffix_rfl
  | case3 bytes char rest ih => exact ih.trans (List.suffix_cons char rest)

theorem faultsIn_hexQuad (text : Text) : FaultsIn text (hexQuad text) := by
  unfold hexQuad
  split_ifs
  · exact faultsIn_error List.nil_suffix
  · split
    · exact faultsIn_ok text _
    · exact faultsIn_error (dropBytes_suffix 4 text)

theorem leaves_skipString (text : Text) : Leaves text (skipString text) := by
  fun_induction skipString text with
  | case1 => exact List.suffix_rfl
  | case2 rest => exact List.suffix_cons _ rest
  | case3 => exact List.nil_suffix
  | case4 rest fault wrong =>
      exact (faultsIn_hexQuad rest fault wrong).trans (suffix_cons_cons _ _ rest)
  | case5 rest unit _ ih => exact ih.mono (suffix_cons_cons_of_drop rfl _ _)
  | case6 char rest _ _ ih => exact ih.mono (suffix_cons_cons _ _ rest)
  | case7 char rest => exact suffix_cons_cons _ char rest
  | case8 char rest => exact List.suffix_rfl
  | case9 char rest _ _ _ _ _ ih => exact ih.mono (List.suffix_cons char rest)

theorem faultsIn_keepString (text : Text) : FaultsIn text (keepString text) := by
  -- The cases in the middle are those of an escaped unit, which may want a second one behind it.
  fun_induction keepString text with
  | case1 => exact faultsIn_error List.suffix_rfl
  | case2 rest => exact faultsIn_ok _ _
  | case3 => exact faultsIn_error List.nil_suffix
  | case4 rest fault wrong =>
      exact faultsIn_error ((faultsIn_hexQuad rest fault wrong).trans (suffix_cons_cons _ _ rest))
  | case5 rest => exact faultsIn_error (suffix_cons_cons_of_drop rfl _ _)
  | case6 rest => exact faultsIn_error List.nil_suffix
  | case7 rest => exact faultsIn_error List.nil_suffix
  | case8 rest unit _ _ _ more behind fault wrong =>
      have ends := (suffix_cons_cons _ _ more).trans (suffix_cons_cons_of_drop behind '\\' 'u')
      exact faultsIn_error ((faultsIn_hexQuad more fault wrong).trans ends)
  | case9 rest _ _ _ _ _ _ _ _ _ ih => exact (ih.mono (suffix_cons_cons_of_drop rfl _ _)).map _
  | case10 rest => exact faultsIn_error (suffix_cons_cons_of_drop rfl _ _)
  | case11 rest _ _ _ _ next more _ behind =>
      exact faultsIn_error
        ((suffix_cons_cons _ _ more).trans (suffix_cons_cons_of_drop behind _ _))
  | case12 rest _ _ _ _ next more _ _ _ behind =>
      exact faultsIn_error ((List.suffix_cons _ more).trans (suffix_cons_cons_of_drop behind _ _))
  | case13 rest _ _ _ _ ih => exact (ih.mono (suffix_cons_cons_of_drop rfl _ _)).map _
  | case14 char rest _ _ _ ih => exact (ih.mono (suffix_cons_cons _ char rest)).map _
  | case15 char rest => exact faultsIn_error (suffix_cons_cons _ char rest)
  | case16 char rest => exact faultsIn_error (List.suffix_cons char rest)
  | case17 char rest _ _ _ _ _ ih => exact (ih.mono (List.suffix_cons char rest)).map _

/-! ## Numbers -/

theorem leaves_scanDigits (ended : Trouble) (text : Text) :
    Leaves text.tail ((scanDigits ended text).map Prod.snd) := by
  have cut : (text.span Char.isDigit).1 ++ (text.span Char.isDigit).2 = text := by
    rw [List.span_eq_takeWhile_dropWhile, List.takeWhile_append_dropWhile]
  unfold scanDigits
  split
  · exact List.nil_suffix
  · rename_i first rest spanned
    rw [spanned] at cut
    rw [← cut]
    exact List.suffix_rfl
  · rename_i notEmpty notStopped
    generalize text.span Char.isDigit = parts at *
    obtain ⟨front, rest⟩ := parts
    subst cut
    cases front with
    | nil => cases rest <;> simp at notEmpty notStopped
    | cons digit digits => exact ⟨digits, rfl⟩

theorem leaves_scanExponent (ended : Trouble) (text : Text) :
    Leaves text ((scanExponent ended text).map Prod.snd) := by
  have digits {more : Text} (ends : more <:+ text) :
      Leaves text ((scanDigits ended more).map Prod.snd) :=
    (leaves_scanDigits ended more).mono ((List.tail_suffix more).trans ends)
  have positive {more : Text} (ends : more <:+ text) :=
    (digits ends).map_value fun digits => (digitsValue digits : Int)
  have negative {more : Text} (ends : more <:+ text) :=
    (digits ends).map_value fun digits => -(digitsValue digits : Int)
  unfold scanExponent
  split
  · split
    · exact positive (suffix_cons_cons _ _ _)
    · exact negative (suffix_cons_cons _ _ _)
    · exact positive (List.suffix_cons _ _)
  · split
    · exact positive (suffix_cons_cons _ _ _)
    · exact negative (suffix_cons_cons _ _ _)
    · exact positive (List.suffix_cons _ _)
  · exact List.suffix_rfl

theorem leaves_scanWhole (ended : Trouble) (text : Text) :
    Leaves text.tail ((scanWhole ended text).map Prod.snd) := by
  unfold scanWhole
  split
  · rename_i next rest
    split_ifs
    · exact List.suffix_cons next rest
    · exact List.suffix_rfl
  · exact leaves_scanDigits ended text

theorem leaves_scanUnsigned (ended : Trouble) (text : Text) :
    Leaves text.tail ((scanUnsigned ended text).map Prod.snd) := by
  have begun := leaves_scanWhole ended text
  have powered {rest : Text} (ends : rest <:+ text.tail) (size : Int → Magnitude) :=
    ((leaves_scanExponent ended rest).mono ends).map_value size
  unfold scanUnsigned
  split
  · rename_i fault wrong
    rw [wrong] at begun
    exact begun
  · rename_i whole rest read
    rw [read] at begun
    have ends : rest <:+ text.tail := (List.suffix_cons '.' rest).trans begun
    have fraction := (leaves_scanDigits ended rest).mono ((List.tail_suffix rest).trans ends)
    split
    · rename_i fault wrong
      rw [wrong] at fraction
      exact fraction
    · rename_i digits behind readDigits
      rw [readDigits] at fraction
      exact powered fraction _
  · rename_i whole rest _ read
    rw [read] at begun
    exact powered begun _

theorem leaves_scanNumber (ended : Trouble) (text : Text) :
    Leaves text.tail ((scanNumber ended text).map Prod.snd) := by
  unfold scanNumber
  split
  · rename_i rest
    exact (leaves_scanUnsigned ended rest).mono (List.tail_suffix rest)
  · exact leaves_scanUnsigned ended text

theorem leaves_skipNumber (text : Text) : Leaves text.tail (skipNumber text) :=
  leaves_scanNumber .malformed text

theorem faultsIn_keepNumber (text : Text) : FaultsIn text.tail (keepNumber text) := by
  have leaves := leaves_scanNumber .unfinished text
  unfold keepNumber
  split
  · rename_i fault wrong
    rw [wrong] at leaves
    exact faultsIn_error leaves
  · rename_i magnitude rest read
    rw [read] at leaves
    split_ifs
    · exact faultsIn_error leaves
    · exact faultsIn_ok _ _

/-! ## Tokens -/

theorem leaves_scanWord (letters text : Text) : Leaves text (scanWord letters text) := by
  fun_induction scanWord letters text with
  | case1 text => exact List.suffix_rfl
  | case2 => exact List.nil_suffix
  | case3 letter letters rest ih => exact ih.mono (List.suffix_cons _ rest)
  | case4 letter letters char rest => exact List.suffix_cons _ rest

/-- The faults of reading a token lie in a text. -/
def Shape.FaultsIn (text : Text) : Shape → Prop
  | .quoted kept skipped => Json.FaultsIn text kept ∧ Json.FaultsIn text skipped
  | .number kept skipped => Json.FaultsIn text kept ∧ Json.FaultsIn text skipped
  | .word _ spelled => Json.FaultsIn text spelled
  | .mark _ => True
  | .stray => True

/-- A token lies in a text: what follows its first character ends the text, and so does what
follows the offending character of its faults. -/
structure Token.LiesIn (text : Text) (token : Token) : Prop where
  rest : token.rest <:+ text
  faults : token.shape.FaultsIn text

theorem Shape.FaultsIn.mono {text other : Text} {shape : Shape} (faults : shape.FaultsIn text)
    (ends : text <:+ other) : shape.FaultsIn other := by
  cases shape with
  | quoted kept skipped => exact ⟨faults.1.mono ends, faults.2.mono ends⟩
  | number kept skipped => exact ⟨faults.1.mono ends, faults.2.mono ends⟩
  | word value spelled => exact Json.FaultsIn.mono faults ends
  | mark char => trivial
  | stray => trivial

theorem Token.LiesIn.mono {text other : Text} {token : Token} (lies : token.LiesIn text)
    (ends : text <:+ other) : token.LiesIn other :=
  ⟨lies.rest.trans ends, lies.faults.mono ends⟩

/-- A token is scanned from what follows its first character, and so is what follows it. -/
theorem scanShape_spec (char : Char) (rest : Text) :
    (scanShape char rest).1.FaultsIn rest ∧
      ∀ behind ∈ (scanShape char rest).2, behind <:+ rest := by
  have left {outcome : Except Fault Text} (leaves : Leaves rest outcome) :
      ∀ behind ∈ outcome.toOption, behind <:+ rest := by
    cases outcome with
    | error fault => simp [Except.toOption]
    | ok behind => simpa [Except.toOption] using leaves
  have word (value : Option Bool) (letters : Text) :
      Shape.FaultsIn rest (.word value ((scanWord letters rest).map fun _ => ())) ∧
        ∀ behind ∈ (scanWord letters rest).toOption, behind <:+ rest :=
    ⟨(leaves_scanWord letters rest).faultsIn.map _, left (leaves_scanWord letters rest)⟩
  unfold scanShape
  split_ifs
  · have leaves := leaves_skipString rest
    exact ⟨⟨faultsIn_keepString rest, leaves.faultsIn.map _⟩, left leaves⟩
  · have leaves := leaves_skipNumber (char :: rest)
    exact ⟨⟨faultsIn_keepNumber (char :: rest), leaves.faultsIn.map _⟩, left leaves⟩
  · exact word none _
  · exact word (some true) _
  · exact word (some false) _
  · exact ⟨trivial, by simp⟩
  · exact ⟨trivial, by simp⟩

theorem suffix_tail_of_cons {char : Char} {rest text : Text} (ends : char :: rest <:+ text) :
    rest <:+ text.tail := by
  obtain ⟨front, rfl⟩ := ends
  cases front with
  | nil => exact List.suffix_rfl
  | cons first more => exact ⟨more ++ [char], by simp⟩

theorem liesIn_tokensUpTo (limit : Nat) (text : Text) :
    ∀ token ∈ tokensUpTo limit text, token.LiesIn text.tail := by
  induction limit generalizing text with
  | zero => simp [tokensUpTo]
  | succ limit ih =>
      have passed : text.dropWhile isBlank <:+ text := List.dropWhile_suffix isBlank
      rw [tokensUpTo]
      cases seen : text.dropWhile isBlank with
      | nil => simp
      | cons char rest =>
          rw [seen] at passed
          have ends := suffix_tail_of_cons passed
          obtain ⟨faults, leaves⟩ := scanShape_spec char rest
          cases scanned : scanShape char rest with
          | mk shape behind? =>
              rw [scanned] at faults leaves
              simp only [scanned]
              have first : Token.LiesIn text.tail ⟨shape, rest⟩ := ⟨ends, faults.mono ends⟩
              cases behind? with
              | none => simpa using first
              | some behind =>
                  have later : behind.tail <:+ text.tail :=
                    (List.tail_suffix behind).trans ((leaves behind rfl).trans ends)
                  exact List.forall_mem_cons.2
                    ⟨first, fun token member => (ih behind token member).mono later⟩

/-- The tokens of a text lie behind its first character. -/
theorem liesIn_tokens (text : Text) : ∀ token ∈ tokens text, token.LiesIn text.tail :=
  liesIn_tokensUpTo text.length text

end Json

end Relink
