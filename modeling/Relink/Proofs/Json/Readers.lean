import Relink.Json.Decode
import Relink.Proofs.Json.Scan

/-!
# Readers do not see blanks

A reader is run on two rows of tokens that are the same but for the texts behind them.  It
gives the same in both runs, or fails in both with the same trouble.  This holds of every
part a reader is put together from, and goes through `bind`; hence it holds of whole
documents.
-/

namespace Relink

namespace Json

/-! ## Runs that agree -/

/-- Two runs give related values and leave tokens that are alike, or fail with the same
trouble. -/
inductive SameEnd {α β : Type} (related : α → β → Prop) :
    Except Fault (α × List Token) → Except Fault (β × List Token) → Prop
  | ok {value : α} {value' : β} {ahead ahead' : List Token} (values : related value value')
      (left : List.Forall₂ Token.Alike ahead ahead') :
      SameEnd related (.ok (value, ahead)) (.ok (value', ahead'))
  | error {fault fault' : Fault} (same : fault.trouble = fault'.trouble) :
      SameEnd related (.error fault) (.error fault')

namespace Reader

/-- Two readers end the same on tokens that are alike. -/
def Agree {α β : Type} (related : α → β → Prop) (first : Reader α) (second : Reader β) : Prop :=
  ∀ ahead ahead', List.Forall₂ Token.Alike ahead ahead' →
    SameEnd related (first ahead) (second ahead')

/-- A reader that ends the same on all tokens that are alike. -/
def Steady {α : Type} (reader : Reader α) : Prop :=
  Agree Eq reader reader

variable {α β α' β' : Type} {related : α → β → Prop} {relatedNext : α' → β' → Prop}

theorem Agree.bind {first : Reader α} {second : Reader β} {next : α → Reader α'}
    {next' : β → Reader β'} (agree : Agree related first second)
    (nexts : ∀ {value value'}, related value value' →
      Agree relatedNext (next value) (next' value')) :
    Agree relatedNext (first >>= next) (second >>= next') := by
  intro ahead ahead' alike
  have ends := agree ahead ahead' alike
  change SameEnd relatedNext ((first ahead).bind fun outcome => next outcome.1 outcome.2)
    ((second ahead').bind fun outcome => next' outcome.1 outcome.2)
  generalize first ahead = run, second ahead' = run' at ends
  cases ends with
  | ok values left => exact nexts values _ _ left
  | error same => exact .error same

theorem Agree.steadily {first second : Reader α} {next next' : α → Reader β}
    (agree : Agree Eq first second) (nexts : ∀ value, Agree Eq (next value) (next' value)) :
    Agree Eq (first >>= next) (second >>= next') :=
  agree.bind fun same => same ▸ nexts _

theorem agree_pure {value : α} {value' : β} (values : related value value') :
    Agree related (pure value) (pure value') :=
  fun _ _ alike => .ok values alike

theorem Agree.map {first second : Reader α} (agree : Agree Eq first second) (change : α → β) :
    Agree Eq (change <$> first) (change <$> second) := by
  rw [map_eq_pure_bind, map_eq_pure_bind]
  exact agree.steadily fun value => agree_pure rfl

theorem steady_pure (value : α) : Steady (pure value) :=
  agree_pure rfl

theorem agree_get : Agree (List.Forall₂ Token.Alike) get get :=
  fun _ _ alike => .ok alike alike

theorem agree_fail {fault fault' : Fault} (same : fault.trouble = fault'.trouble) :
    Agree related (fail fault) (fail fault') :=
  fun _ _ _ => .error same

theorem steady_unfit (reason : Option Text) : Steady (unfit (α := α) reason) :=
  agree_fail rfl

theorem agree_reject (token token' : Token) : Agree related (reject token) (reject token') :=
  agree_fail rfl

theorem agree_peek : Agree Token.Alike peek peek := by
  intro ahead ahead' alike
  cases alike with
  | nil => exact .error rfl
  | cons same left => exact .ok same (.cons same left)

theorem steady_advance : Steady advance := by
  intro ahead ahead' alike
  cases alike with
  | nil => exact .ok rfl .nil
  | cons same left => exact .ok rfl left

theorem agree_accept {outcome outcome' : Except Fault α} (same : Json.Alike outcome outcome') :
    Agree Eq (accept outcome) (accept outcome') := by
  cases outcome <;> cases outcome' <;> simp [Json.Alike, Except.mapError] at same
  · exact agree_fail same
  · exact agree_pure same

theorem steady_mark (char : Char) : Steady (mark char) := by
  refine agree_peek.bind fun {token token'} same => ?_
  cases same with
  | mark found =>
    dsimp only
    split_ifs
    · exact steady_advance
    · exact agree_reject _ _
  | _ => exact agree_reject _ _

theorem agree_refuse {token token' : Token} (same : Token.Alike token token') :
    Agree Eq (refuse (α := α) token) (refuse token') := by
  cases same with
  | quoted sameKept _ => exact (agree_accept sameKept).steadily fun _ => steady_unfit none
  | number sameKept _ => exact (agree_accept sameKept).steadily fun _ => steady_unfit none
  | word _ sameSpelled => exact (agree_accept sameSpelled).steadily fun _ => steady_unfit none
  | stray => exact agree_reject _ _
  | mark char =>
      by_cases array : char = '['
      · subst array
        exact steady_unfit none
      by_cases object : char = '\x7b'
      · subst object
        exact steady_unfit none
      simpa [refuse, array, object] using agree_reject _ _

theorem agree_descend (depth : Nat) (token token' : Token) :
    Agree Eq (descend depth token) (descend depth token') := by
  unfold descend
  split_ifs
  · exact agree_reject _ _
  · exact steady_pure _

end Reader

open Reader

/-! ## Whole values -/

theorem agree_inside (care : Care) (token token' : Token) :
    Agree Eq (care.inside token) (care.inside token') := by
  cases care with
  | skipped => exact steady_pure _
  | kept depth => exact (agree_descend depth token token').steadily fun _ => steady_pure _

theorem steady_passKey (care : Care) : Steady (passKey care) := by
  refine agree_peek.bind fun {token token'} same => ?_
  cases same with
  | quoted sameKept sameSkipped =>
    cases care with
    | kept => exact (agree_accept sameKept).steadily fun _ =>
        steady_advance.steadily fun _ => steady_mark _
    | skipped => exact (agree_accept sameSkipped).steadily fun _ =>
        steady_advance.steadily fun _ => steady_mark _
  | _ => exact agree_reject _ _

mutual

theorem steady_passValue : (limit : Nat) → (care : Care) → Steady (passValue care limit)
  | 0, _ => agree_fail rfl
  | limit + 1, care => by
      rw [passValue]
      refine agree_peek.bind fun {token token'} same => ?_
      cases same with
      | quoted sameKept sameSkipped =>
          cases care with
          | kept => exact (agree_accept sameKept).steadily fun _ => steady_advance
          | skipped => exact (agree_accept sameSkipped).steadily fun _ => steady_advance
      | number sameKept sameSkipped =>
          cases care with
          | kept => exact (agree_accept sameKept).steadily fun _ => steady_advance
          | skipped => exact (agree_accept sameSkipped).steadily fun _ => steady_advance
      | word _ sameSpelled => exact (agree_accept sameSpelled).steadily fun _ => steady_advance
      | stray => exact agree_reject _ _
      | mark char =>
          by_cases array : char = '['
          · subst array
            refine (agree_inside care _ _).steadily fun inner => ?_
            refine steady_advance.steadily fun _ => ?_
            refine agree_peek.bind fun {next next'} same => ?_
            have items := (steady_passValue limit inner).steadily fun _ =>
              steady_passItems limit inner
            cases same with
            | mark char =>
                by_cases close : char = ']'
                · subst close
                  exact steady_advance
                · simpa [close] using items
            | _ => exact items
          by_cases object : char = '\x7b'
          · subst object
            refine (agree_inside care _ _).steadily fun inner => ?_
            refine steady_advance.steadily fun _ => ?_
            refine agree_peek.bind fun {next next'} same => ?_
            have members := (steady_passKey inner).steadily fun _ =>
              (steady_passValue limit inner).steadily fun _ => steady_passMembers limit inner
            cases same with
            | mark char =>
                by_cases close : char = '\x7d'
                · subst close
                  exact steady_advance
                · simpa [close] using members
            | _ => exact members
          simpa [array, object] using agree_reject _ _

theorem steady_passItems : (limit : Nat) → (care : Care) → Steady (passItems care limit)
  | 0, _ => agree_fail rfl
  | limit + 1, care => by
      rw [passItems]
      refine agree_peek.bind fun {token token'} same => ?_
      cases same with
      | mark char =>
          by_cases close : char = ']'
          · subst close
            exact steady_advance
          by_cases comma : char = ','
          · subst comma
            exact steady_advance.steadily fun _ =>
              (steady_passValue limit care).steadily fun _ => steady_passItems limit care
          simpa [close, comma] using agree_reject _ _
      | _ => exact agree_reject _ _

theorem steady_passMembers : (limit : Nat) → (care : Care) → Steady (passMembers care limit)
  | 0, _ => agree_fail rfl
  | limit + 1, care => by
      rw [passMembers]
      refine agree_peek.bind fun {token token'} same => ?_
      cases same with
      | mark char =>
          by_cases close : char = '\x7d'
          · subst close
            exact steady_advance
          by_cases comma : char = ','
          · subst comma
            exact steady_advance.steadily fun _ =>
              (steady_passKey care).steadily fun _ =>
                (steady_passValue limit care).steadily fun _ => steady_passMembers limit care
          simpa [close, comma] using agree_reject _ _
      | _ => exact agree_reject _ _

end

theorem steady_pass (care : Care) : Steady (pass care) := by
  refine agree_get.bind fun {ahead ahead'} alike => ?_
  rw [alike.length_eq]
  exact steady_passValue _ care

/-! ## Records -/

theorem steady_readText? : Steady readText? := by
  refine agree_peek.bind fun {token token'} same => ?_
  cases same with
  | quoted sameKept sameSkipped =>
      exact (agree_accept sameKept).steadily fun value =>
        steady_advance.steadily fun _ => steady_pure _
  | word value sameSpelled =>
      cases value with
      | none =>
          exact (agree_accept sameSpelled).steadily fun _ =>
            steady_advance.steadily fun _ => steady_pure _
      | some value => exact agree_refuse (.word _ sameSpelled)
  | mark char => exact agree_refuse (.mark char)
  | number sameKept sameSkipped => exact agree_refuse (.number sameKept sameSkipped)
  | stray => exact agree_refuse .stray

theorem steady_readOptional {σ : Type} {read : Reader σ} (steady : Steady read) :
    Steady (readOptional read) := by
  refine agree_peek.bind fun {token token'} same => ?_
  have present := Agree.map steady some
  cases same with
  | word value sameSpelled =>
      cases value with
      | none =>
          exact (agree_accept sameSpelled).steadily fun _ =>
            steady_advance.steadily fun _ => steady_pure _
      | some value => exact present
  | _ => exact present

variable {σ : Type} {fields : List (Field σ)}

theorem steady_text (key : String) (set : Option Text → σ → σ) (depth : Nat) :
    Steady ((Field.text key set).read depth) :=
  Agree.map steady_readText? set

/-- The end of an object, or the members that follow one. -/
theorem steady_behindMember {members : List Text → σ → Reader σ}
    (steady : ∀ seen record, Steady (members seen record)) (seen : List Text) (record : σ) :
    Steady (do
      let next ← peek
      match next.shape with
      | .mark '}' => do
          advance
          pure record
      | .mark ',' => do
          advance
          members seen record
      | _ => reject next) := by
  refine agree_peek.bind fun {next next'} same => ?_
  cases same with
  | mark char =>
      by_cases close : char = '\x7d'
      · subst close
        exact steady_advance.steadily fun _ => steady_pure record
      by_cases comma : char = ','
      · subst comma
        exact steady_advance.steadily fun _ => steady seen record
      simpa [close, comma] using agree_reject _ _
  | _ => exact agree_reject _ _

theorem steady_readMembers (depth : Nat)
    (steady : ∀ field ∈ fields, Steady (field.read depth)) (limit : Nat) (seen : List Text)
    (record : σ) : Steady (readMembers fields depth limit seen record) := by
  induction limit generalizing seen record with
  | zero => exact agree_fail rfl
  | succ limit ih =>
      rw [readMembers]
      refine agree_peek.bind fun {token token'} same => ?_
      cases same with
      | quoted sameKept sameSkipped =>
          refine (agree_accept sameKept).steadily fun key => ?_
          refine steady_advance.steadily fun _ => ?_
          have behind := steady_behindMember ih
          cases known : fields.find? (·.key = key) with
          | none =>
              exact (steady_mark ':').steadily fun _ => (steady_pass .skipped).steadily fun _ =>
                (steady_pure (seen, record)).steadily fun state => behind state.1 state.2
          | some field =>
              have read := (steady_mark ':').steadily fun _ =>
                (steady field (List.mem_of_find?_eq_some known)).steadily fun update =>
                  (steady_pure (key :: seen, update record)).steadily fun state =>
                    behind state.1 state.2
              dsimp only
              split_ifs
              · exact (steady_unfit none).steadily fun _ => read
              · exact read
      | _ => exact agree_reject _ _

theorem steady_readElements (complete : Bool) (depth : Nat)
    (steady : ∀ field ∈ fields, Steady (field.read depth)) (first : Bool) (record : σ) :
    Steady (readElements complete depth first fields record) := by
  induction fields generalizing first record with
  | nil =>
      rw [readElements]
      refine agree_peek.bind fun {token token'} same => ?_
      cases same with
      | mark char =>
          by_cases close : char = ']'
          · subst close
            exact steady_advance.steadily fun _ => steady_pure record
          by_cases comma : char = ','
          · subst comma
            refine steady_advance.steadily fun _ => agree_get.bind fun {ahead ahead'} alike => ?_
            cases alike with
            | nil => exact agree_fail rfl
            | cons same left => exact agree_reject _ _
          simpa [close, comma] using agree_reject _ _
      | _ => exact agree_reject _ _
  | cons field fields ih =>
      obtain ⟨steadyField, steadyFields⟩ := List.forall_mem_cons.1 steady
      have element := steadyField.steadily fun update =>
        ih steadyFields false (update record)
      rw [readElements]
      refine agree_peek.bind fun {token token'} same => ?_
      cases same with
      | mark char =>
          by_cases close : char = ']'
          · subst close
            dsimp only
            split_ifs
            · exact steady_unfit none
            · exact steady_advance.steadily fun _ => steady_pure record
          cases first with
          | true => simpa [close] using element
          | false =>
              by_cases comma : char = ','
              · subst comma
                refine steady_advance.steadily fun _ => agree_peek.bind fun {next next'} same => ?_
                cases same with
                | mark char =>
                    by_cases close : char = ']'
                    · subst close
                      exact agree_reject _ _
                    · simpa [close] using element
                | _ => exact element
              simpa [close, comma] using agree_reject _ _
      | _ =>
          cases first with
          | true => exact element
          | false => exact agree_reject _ _

theorem steady_readRecord (complete : Bool) (blank : σ) (depth : Nat)
    (steady : ∀ field ∈ fields, ∀ depth, Steady (field.read depth)) :
    Steady (readRecord fields complete blank depth) := by
  refine agree_peek.bind fun {token token'} same => ?_
  cases same with
  | mark char =>
      by_cases object : char = '\x7b'
      · subst object
        refine (agree_descend depth _ _).steadily fun left => ?_
        refine steady_advance.steadily fun _ => ?_
        refine agree_peek.bind fun {next next'} same => ?_
        have members : Steady (do
            let ahead ← get
            readMembers fields left (ahead.length + 1) [] blank) := by
          refine agree_get.bind fun {ahead ahead'} alike => ?_
          rw [alike.length_eq]
          exact steady_readMembers left (fun field member => steady field member left) _ _ _
        cases same with
        | mark char =>
            by_cases close : char = '\x7d'
            · subst close
              exact steady_advance.steadily fun _ => steady_pure blank
            · simpa [close, Steady] using members
        | _ => exact members
      by_cases array : char = '['
      · subst array
        exact (agree_descend depth _ _).steadily fun left => steady_advance.steadily fun _ =>
          steady_readElements complete left (fun field member => steady field member left) _ _
      simpa [object, array] using agree_refuse (.mark char)
  | quoted sameKept sameSkipped => exact agree_refuse (.quoted sameKept sameSkipped)
  | number sameKept sameSkipped => exact agree_refuse (.number sameKept sameSkipped)
  | word value sameSpelled => exact agree_refuse (.word value sameSpelled)
  | stray => exact agree_refuse .stray

/-! ## Whole documents -/

/-- What is wrong with a document, without the line. -/
def Error.trouble : Error → Trouble
  | .unfinished _ => .unfinished
  | .malformed _ => .malformed
  | .unfit reason => .unfit reason

theorem trouble_toError (text : Text) (fault : Fault) :
    (fault.toError text).trouble = fault.trouble := by
  unfold Fault.toError
  split <;> simp_all [Error.trouble]

/-- Texts that hold the same lexemes are decoded to the same value, or decoding fails with
the same trouble. -/
theorem Spaced.decode_eq {lexemes : List Lexeme} {text other : Text} {α : Type}
    {read : Reader α} (spaced : Spaced lexemes text) (otherSpaced : Spaced lexemes other)
    (apart : Apart lexemes) (steady : Steady read) :
    (decode read text).mapError Error.trouble = (decode read other).mapError Error.trouble := by
  have ends := steady _ _ (spaced.tokens_alike otherSpaced apart)
  unfold decode StateT.run
  generalize read (tokens text) = run, read (tokens other) = run' at ends
  cases ends with
  | error same => simpa [Except.mapError, trouble_toError] using same
  | ok values left =>
      subst values
      cases left with
      | nil => rfl
      | cons same left => simp [Except.mapError, trouble_toError, Fault.before]

end Json

end Relink
