import Relink.Proofs.Json.Faults

/-!
# What readers report

A reader reports a fault that it met in a token, the place of a token, or the end of the text.
So a document that is malformed has an offending character, and the line that is reported is the
line of this character.
-/

namespace Relink

namespace Json

/-! ## Readers -/

namespace Reader

/-- On tokens that lie in a text, a reader returns something of the given kind and leaves tokens
that lie there, or fails with a fault that does. -/
def StaysIn {α : Type} (text : Text) (returns : α → Prop) (reader : Reader α) : Prop :=
  ∀ ahead : List Token, (∀ token ∈ ahead, token.LiesIn text) →
    match reader ahead with
    | .ok (value, left) => returns value ∧ ∀ token ∈ left, token.LiesIn text
    | .error fault => fault.rest <:+ text

/-- A reader that fails only within the text. -/
abbrev FailsIn {α : Type} (text : Text) (reader : Reader α) : Prop :=
  reader.StaysIn text fun _ => True

variable {α β : Type} {text : Text} {returns : α → Prop} {returnsNext : β → Prop}

theorem StaysIn.bind {first : Reader α} {next : α → Reader β} (stays : first.StaysIn text returns)
    (nexts : ∀ {value}, returns value → (next value).StaysIn text returnsNext) :
    (first >>= next).StaysIn text returnsNext := by
  intro ahead lies
  have begun := stays ahead lies
  change match (first ahead).bind fun outcome => next outcome.1 outcome.2 with
    | .ok (value, left) => returnsNext value ∧ ∀ token ∈ left, token.LiesIn text
    | .error fault => fault.rest <:+ text
  cases run : first ahead with
  | error fault =>
      rw [run] at begun
      exact begun
  | ok outcome =>
      obtain ⟨value, left⟩ := outcome
      rw [run] at begun
      exact nexts begun.1 left begun.2

theorem StaysIn.andThen {first : Reader α} {next : α → Reader β} (stays : first.FailsIn text)
    (nexts : ∀ value, (next value).StaysIn text returnsNext) :
    (first >>= next).StaysIn text returnsNext :=
  stays.bind fun {value} _ => nexts value

theorem staysIn_pure {value : α} (returned : returns value) :
    (pure value : Reader α).StaysIn text returns :=
  fun _ lies => ⟨returned, lies⟩

theorem failsIn_pure (value : α) : (pure value : Reader α).FailsIn text :=
  staysIn_pure trivial

theorem StaysIn.map {reader : Reader α} (stays : reader.FailsIn text) (change : α → β) :
    (change <$> reader).FailsIn text := by
  rw [map_eq_pure_bind]
  exact stays.andThen fun value => failsIn_pure _

theorem staysIn_get : (get : Reader (List Token)).StaysIn text
    fun ahead => ∀ token ∈ ahead, token.LiesIn text :=
  fun _ lies => ⟨lies, lies⟩

theorem staysIn_fail {fault : Fault} (ends : fault.rest <:+ text) :
    (fail fault : Reader α).StaysIn text returns :=
  fun _ _ => ends

theorem staysIn_unfit (reason : Option Text) :
    (unfit reason : Reader α).StaysIn text returns :=
  staysIn_fail List.nil_suffix

theorem staysIn_reject {token : Token} (lies : token.LiesIn text) :
    (reject token : Reader α).StaysIn text returns :=
  staysIn_fail lies.rest

theorem staysIn_peek : peek.StaysIn text fun token => token.LiesIn text := by
  intro ahead lies
  cases ahead with
  | nil => exact List.nil_suffix
  | cons token rest => exact ⟨lies token List.mem_cons_self, lies⟩

theorem failsIn_advance : advance.FailsIn text :=
  fun _ lies => ⟨trivial, fun token member => lies token (List.mem_of_mem_tail member)⟩

theorem failsIn_accept {outcome : Except Fault α} (faults : FaultsIn text outcome) :
    (accept outcome).FailsIn text := by
  cases outcome with
  | error fault => exact staysIn_fail (faults fault rfl)
  | ok value => exact failsIn_pure value

theorem failsIn_mark (char : Char) : (mark char).FailsIn text := by
  refine staysIn_peek.bind fun {token} lies => ?_
  split
  · split_ifs
    · exact failsIn_advance
    · exact staysIn_reject lies
  · exact staysIn_reject lies

theorem failsIn_refuse {token : Token} (lies : token.LiesIn text) :
    (refuse token : Reader α).FailsIn text := by
  obtain ⟨shape, rest⟩ := token
  have rejected : (reject ⟨shape, rest⟩ : Reader α).FailsIn text := staysIn_reject lies
  cases shape with
  | quoted kept skipped =>
      exact (failsIn_accept lies.faults.1).andThen fun _ => staysIn_unfit none
  | number kept skipped =>
      exact (failsIn_accept lies.faults.1).andThen fun _ => staysIn_unfit none
  | word value spelled =>
      exact (failsIn_accept lies.faults).andThen fun _ => staysIn_unfit none
  | stray => exact rejected
  | mark char =>
      by_cases array : char = '['
      · subst array
        exact staysIn_unfit none
      by_cases object : char = '\x7b'
      · subst object
        exact staysIn_unfit none
      simpa [refuse, array, object] using rejected

theorem failsIn_descend (depth : Nat) {token : Token} (lies : token.LiesIn text) :
    (descend depth token).FailsIn text := by
  unfold descend
  split_ifs
  · exact staysIn_reject lies
  · exact failsIn_pure _

end Reader

open Reader

/-! ## Whole values -/

variable {text : Text}

theorem failsIn_inside (care : Care) {token : Token} (lies : token.LiesIn text) :
    (care.inside token).FailsIn text := by
  cases care with
  | skipped => exact failsIn_pure _
  | kept depth => exact (failsIn_descend depth lies).andThen fun _ => failsIn_pure _

theorem failsIn_passKey (care : Care) : (passKey care).FailsIn text := by
  refine staysIn_peek.bind fun {token} lies => ?_
  obtain ⟨shape, rest⟩ := token
  cases shape with
  | quoted kept skipped =>
      cases care with
      | kept => exact (failsIn_accept lies.faults.1).andThen fun _ =>
          failsIn_advance.andThen fun _ => failsIn_mark ':'
      | skipped => exact (failsIn_accept lies.faults.2).andThen fun _ =>
          failsIn_advance.andThen fun _ => failsIn_mark ':'
  | _ => exact staysIn_reject lies

mutual

theorem failsIn_passValue : (limit : Nat) → (care : Care) → (passValue care limit).FailsIn text
  | 0, _ => staysIn_fail List.nil_suffix
  | limit + 1, care => by
      rw [passValue]
      refine staysIn_peek.bind fun {token} lies => ?_
      obtain ⟨shape, rest⟩ := token
      cases shape with
      | quoted kept skipped =>
          cases care with
          | kept => exact (failsIn_accept lies.faults.1).andThen fun _ => failsIn_advance
          | skipped => exact (failsIn_accept lies.faults.2).andThen fun _ => failsIn_advance
      | number kept skipped =>
          cases care with
          | kept => exact (failsIn_accept lies.faults.1).andThen fun _ => failsIn_advance
          | skipped => exact (failsIn_accept lies.faults.2).andThen fun _ => failsIn_advance
      | word value spelled => exact (failsIn_accept lies.faults).andThen fun _ => failsIn_advance
      | stray => exact staysIn_reject lies
      | mark char =>
          by_cases array : char = '['
          · subst array
            refine (failsIn_inside care lies).andThen fun inner => ?_
            refine failsIn_advance.andThen fun _ => staysIn_peek.bind fun {next} _ => ?_
            split
            · exact failsIn_advance
            · exact (failsIn_passValue limit inner).andThen fun _ => failsIn_passItems limit inner
          by_cases object : char = '\x7b'
          · subst object
            refine (failsIn_inside care lies).andThen fun inner => ?_
            refine failsIn_advance.andThen fun _ => staysIn_peek.bind fun {next} _ => ?_
            split
            · exact failsIn_advance
            · exact (failsIn_passKey inner).andThen fun _ =>
                (failsIn_passValue limit inner).andThen fun _ => failsIn_passMembers limit inner
          simpa [array, object] using staysIn_reject lies

theorem failsIn_passItems : (limit : Nat) → (care : Care) → (passItems care limit).FailsIn text
  | 0, _ => staysIn_fail List.nil_suffix
  | limit + 1, care => by
      rw [passItems]
      refine staysIn_peek.bind fun {token} lies => ?_
      split
      · exact failsIn_advance
      · exact failsIn_advance.andThen fun _ =>
          (failsIn_passValue limit care).andThen fun _ => failsIn_passItems limit care
      · exact staysIn_reject lies

theorem failsIn_passMembers : (limit : Nat) → (care : Care) →
    (passMembers care limit).FailsIn text
  | 0, _ => staysIn_fail List.nil_suffix
  | limit + 1, care => by
      rw [passMembers]
      refine staysIn_peek.bind fun {token} lies => ?_
      split
      · exact failsIn_advance
      · exact failsIn_advance.andThen fun _ => (failsIn_passKey care).andThen fun _ =>
          (failsIn_passValue limit care).andThen fun _ => failsIn_passMembers limit care
      · exact staysIn_reject lies

end

theorem failsIn_pass (care : Care) : (pass care).FailsIn text :=
  staysIn_get.bind fun {ahead} _ => failsIn_passValue (ahead.length + 1) care

/-! ## Records -/

theorem failsIn_readText? : readText?.FailsIn text := by
  refine staysIn_peek.bind fun {token} lies => ?_
  obtain ⟨shape, rest⟩ := token
  cases shape with
  | quoted kept skipped =>
      exact (failsIn_accept lies.faults.1).andThen fun value =>
        failsIn_advance.andThen fun _ => failsIn_pure _
  | word value spelled =>
      cases value with
      | none =>
          exact (failsIn_accept lies.faults).andThen fun _ =>
            failsIn_advance.andThen fun _ => failsIn_pure _
      | some value => exact failsIn_refuse lies
  | _ => exact failsIn_refuse lies

theorem failsIn_readOptional {σ : Type} {read : Reader σ} (fails : read.FailsIn text) :
    (readOptional read).FailsIn text := by
  refine staysIn_peek.bind fun {token} lies => ?_
  obtain ⟨shape, rest⟩ := token
  have present := StaysIn.map fails some
  cases shape with
  | word value spelled =>
      cases value with
      | none =>
          exact (failsIn_accept lies.faults).andThen fun _ =>
            failsIn_advance.andThen fun _ => failsIn_pure _
      | some value => exact present
  | _ => exact present

variable {σ : Type} {fields : List (Field σ)}

theorem failsIn_text (key : String) (set : Option Text → σ → σ) (depth : Nat) :
    ((Field.text key set).read depth).FailsIn text :=
  StaysIn.map failsIn_readText? set

/-- The end of an object, or the members that follow one. -/
theorem failsIn_behindMember {members : List Text → σ → Reader σ}
    (fails : ∀ seen record, (members seen record).FailsIn text) (seen : List Text) (record : σ) :
    FailsIn text (do
      let next ← peek
      match next.shape with
      | .mark '\x7d' => do
          advance
          pure record
      | .mark ',' => do
          advance
          members seen record
      | _ => reject next) := by
  refine staysIn_peek.bind fun {next} lies => ?_
  split
  · exact failsIn_advance.andThen fun _ => failsIn_pure record
  · exact failsIn_advance.andThen fun _ => fails seen record
  · exact staysIn_reject lies

theorem failsIn_readMembers (depth : Nat)
    (fails : ∀ field ∈ fields, (field.read depth).FailsIn text) (limit : Nat)
    (seen : List Text) (record : σ) :
    (readMembers fields depth limit seen record).FailsIn text := by
  induction limit generalizing seen record with
  | zero => exact staysIn_fail List.nil_suffix
  | succ limit ih =>
      rw [readMembers]
      refine staysIn_peek.bind fun {token} lies => ?_
      obtain ⟨shape, rest⟩ := token
      cases shape with
      | quoted kept skipped =>
          refine (failsIn_accept lies.faults.1).andThen fun key => ?_
          refine failsIn_advance.andThen fun _ => ?_
          have behind := failsIn_behindMember ih
          cases known : fields.find? (·.key = key) with
          | none =>
              exact (failsIn_mark ':').andThen fun _ => (failsIn_pass .skipped).andThen fun _ =>
                (failsIn_pure (seen, record)).andThen fun state => behind state.1 state.2
          | some field =>
              have read := (failsIn_mark ':').andThen fun _ =>
                (fails field (List.mem_of_find?_eq_some known)).andThen fun update =>
                  (failsIn_pure (key :: seen, update record)).andThen fun state =>
                    behind state.1 state.2
              dsimp only
              split_ifs
              · exact (staysIn_unfit none).bind fun {_} (_ : True) => read
              · exact read
      | _ => exact staysIn_reject lies

theorem failsIn_readElements (complete : Bool) (depth : Nat)
    (fails : ∀ field ∈ fields, (field.read depth).FailsIn text) (first : Bool) (record : σ) :
    (readElements complete depth first fields record).FailsIn text := by
  induction fields generalizing first record with
  | nil =>
      rw [readElements]
      refine staysIn_peek.bind fun {token} lies => ?_
      split
      · exact failsIn_advance.andThen fun _ => failsIn_pure _
      · refine failsIn_advance.andThen fun _ => staysIn_get.bind fun {ahead} later => ?_
        split
        · exact staysIn_fail List.nil_suffix
        · exact staysIn_reject (later _ List.mem_cons_self)
      · exact staysIn_reject lies
  | cons field fields ih =>
      obtain ⟨failsField, failsFields⟩ := List.forall_mem_cons.1 fails
      have element := failsField.andThen fun update => ih failsFields false (update record)
      rw [readElements]
      refine staysIn_peek.bind fun {token} lies => ?_
      split
      · split_ifs
        · exact staysIn_unfit none
        · exact failsIn_advance.andThen fun _ => failsIn_pure _
      · refine failsIn_advance.andThen fun _ => staysIn_peek.bind fun {next} lies => ?_
        split
        · exact staysIn_reject lies
        · exact element
      · exact element
      · exact staysIn_reject lies

theorem failsIn_readRecord (complete : Bool) (blank : σ) (depth : Nat)
    (fails : ∀ field ∈ fields, ∀ depth, (field.read depth).FailsIn text) :
    (readRecord fields complete blank depth).FailsIn text := by
  refine staysIn_peek.bind fun {token} lies => ?_
  split
  · refine (failsIn_descend depth lies).andThen fun left => ?_
    refine failsIn_advance.andThen fun _ => staysIn_peek.bind fun {next} _ => ?_
    split
    · exact failsIn_advance.andThen fun _ => failsIn_pure _
    · exact staysIn_get.bind fun {ahead} _ =>
        failsIn_readMembers left (fun field member => fails field member left) _ _ _
  · exact (failsIn_descend depth lies).andThen fun left => failsIn_advance.andThen fun _ =>
      failsIn_readElements complete left (fun field member => fails field member left) _ _
  · exact failsIn_refuse lies

/-! ## Documents -/

/-- The value of a document, or the fault that makes it none. -/
def examine {α : Type} (read : Reader α) (text : Text) : Except Fault α :=
  match read.run (tokens text) with
  | .ok (value, []) => .ok value
  | .ok (_, token :: _) => .error (.before token.rest)
  | .error fault => .error fault

theorem decode_eq_examine {α : Type} (read : Reader α) (text : Text) :
    decode read text = (examine read text).mapError (Fault.toError text) := by
  unfold decode examine
  split <;> simp_all [Except.mapError]

theorem rest_suffix_of_examine {α : Type} {read : Reader α} {fault : Fault}
    (fails : read.FailsIn text.tail) (wrong : examine read text = .error fault) :
    fault.rest <:+ text.tail := by
  have run := fails (tokens text) (liesIn_tokens text)
  unfold examine StateT.run at wrong
  split at wrong
  · cases wrong
  · rename_i value token left read
    rw [read] at run
    obtain rfl := Except.error.inj wrong
    exact (run.2 token List.mem_cons_self).rest
  · rename_i other read
    rw [read] at run
    obtain rfl := Except.error.inj wrong
    exact run

theorem exists_fault_of_decode {α : Type} {read : Reader α} {error : Error}
    (wrong : decode read text = .error error) :
    ∃ fault, examine read text = .error fault ∧ fault.toError text = error := by
  rw [decode_eq_examine] at wrong
  cases examined : examine read text with
  | ok value => simp [examined, Except.mapError] at wrong
  | error fault => exact ⟨fault, rfl, by simpa [examined, Except.mapError] using wrong⟩

/-- The line of a malformed document is that of its offending character, behind which the fault
keeps the text. -/
theorem exists_place_of_malformed {α : Type} {read : Reader α} {line : Nat}
    (fails : read.FailsIn text.tail) (someText : text ≠ [])
    (wrong : decode read text = .error (.malformed line)) :
    ∃ place : Fin text.length,
      examine read text = .error (.before (text.drop (place + 1))) ∧
        line = 1 + lineEnds (text.take (place + 1)) := by
  obtain ⟨⟨trouble, rest⟩, examined, reported⟩ := exists_fault_of_decode wrong
  obtain ⟨front, cut⟩ := rest_suffix_of_examine fails examined
  obtain ⟨first, more, rfl⟩ := List.exists_cons_of_ne_nil someText
  obtain rfl : front ++ rest = more := cut
  cases trouble with
  | unfinished => cases reported
  | unfit reason => cases reported
  | malformed =>
      have within : front.length < (first :: (front ++ rest)).length := by
        rw [List.length_cons, List.length_append]
        omega
      refine ⟨⟨front.length, within⟩, ?_, ?_⟩
      · simpa [Fault.before] using examined
      · have counted : line = 1 + (lineEnds (first :: (front ++ rest)) - lineEnds rest) := by
          simpa [Fault.toError] using reported.symm
        rw [counted]
        simp [lineEnds, List.count_cons]
        omega

theorem line_of_unfinished {α : Type} {read : Reader α} {line : Nat}
    (wrong : decode read text = .error (.unfinished line)) : line = 1 + lineEnds text := by
  obtain ⟨⟨trouble, rest⟩, -, reported⟩ := exists_fault_of_decode wrong
  cases trouble with
  | unfinished => simpa [Fault.toError] using reported.symm
  | malformed => cases reported
  | unfit reason => cases reported

end Json

end Relink
