import Mathlib.Computability.Language
import Relink.Json.Decode
import Relink.Proofs.Json.Lexing

/-!
# Readers accept nothing but JSON

The tokens that a reader takes, when it returns a value, are those of a JSON value.  This is
stated by languages of lexemes: a reader that is run after another takes a word of the product of
their languages.  So the text of a document that is decoded holds the lexemes of a JSON document.
-/

namespace Relink

namespace Json

namespace Reader

variable {α β : Type} {language first second : Language Lexeme} {ahead : List Token}

/-- When the reader returns on the tokens ahead, it could read all tokens it took, and whatever
lexemes made them are a word of the language. -/
def TakesFrom (ahead : List Token) (language : Language Lexeme) (reader : Reader α) : Prop :=
  ∀ value left, reader ahead = .ok (value, left) →
    ∃ taken, taken ++ left = ahead ∧ (∀ token ∈ taken, token.shape.IsRead) ∧
      ∀ lexemes, List.Forall₂ Lexeme.Makes lexemes taken → lexemes ∈ language

def Takes (language : Language Lexeme) (reader : Reader α) : Prop :=
  ∀ ahead, reader.TakesFrom ahead language

theorem TakesFrom.mono {reader : Reader α} (takes : reader.TakesFrom ahead first)
    (within : ∀ lexemes ∈ first, lexemes ∈ second) : reader.TakesFrom ahead second := by
  intro value left returned
  obtain ⟨taken, cut, areRead, word⟩ := takes value left returned
  exact ⟨taken, cut, areRead, fun lexemes makes => within lexemes (word lexemes makes)⟩

theorem TakesFrom.andThen {reader : Reader α} {next : α → Reader β}
    (takes : reader.TakesFrom ahead first) (nexts : ∀ value, (next value).Takes second) :
    (reader >>= next).TakesFrom ahead (first * second) := by
  intro value left returned
  change ((reader ahead).bind fun outcome => next outcome.1 outcome.2) = .ok (value, left)
    at returned
  cases run : reader ahead with
  | error fault => simp [run, Except.bind] at returned
  | ok outcome =>
      obtain ⟨middle, between⟩ := outcome
      rw [run] at returned
      obtain ⟨taken, cut, areRead, word⟩ := takes middle between run
      obtain ⟨later, cutLater, areReadLater, wordLater⟩ :=
        nexts middle between value left returned
      refine ⟨taken ++ later, by rw [List.append_assoc, cutLater, cut],
        List.forall_mem_append.2 ⟨areRead, areReadLater⟩, fun lexemes makes => ?_⟩
      rw [← List.take_append_drop taken.length lexemes]
      exact Language.append_mem_mul
        (word _ (List.forall₂_take_append lexemes taken later makes))
        (wordLater _ (List.forall₂_drop_append lexemes taken later makes))

theorem takesFrom_pure {value : α} (empty : [] ∈ language) :
    (pure value : Reader α).TakesFrom ahead language := by
  rintro _ left ⟨⟩
  refine ⟨[], rfl, List.forall_mem_nil _, fun lexemes makes => ?_⟩
  rwa [List.forall₂_nil_right_iff.1 makes]

theorem takesFrom_fail {fault : Fault} : (fail fault : Reader α).TakesFrom ahead language := by
  rintro _ _ ⟨⟩

theorem takesFrom_reject {token : Token} :
    (reject token : Reader α).TakesFrom ahead language :=
  takesFrom_fail

/-- A reader that takes nothing may follow. -/
theorem TakesFrom.andNothing {reader : Reader α} {next : α → Reader β}
    (takes : reader.TakesFrom ahead language) (nexts : ∀ value, (next value).Takes 1) :
    (reader >>= next).TakesFrom ahead language := by
  simpa using takes.andThen nexts

theorem takes_pure (value : α) : (pure value : Reader α).Takes 1 :=
  fun _ => takesFrom_pure Language.nil_mem_one

theorem Takes.andThen {reader : Reader α} {next : α → Reader β} (takes : reader.Takes first)
    (nexts : ∀ value, (next value).Takes second) : (reader >>= next).Takes (first * second) :=
  fun ahead => (takes ahead).andThen nexts

theorem Takes.andNothing {reader : Reader α} {next : α → Reader β} (takes : reader.Takes language)
    (nexts : ∀ value, (next value).Takes 1) : (reader >>= next).Takes language :=
  fun ahead => (takes ahead).andNothing nexts

theorem Takes.map {reader : Reader α} (takes : reader.Takes language) (change : α → β) :
    (change <$> reader).Takes language := by
  rw [map_eq_pure_bind]
  exact takes.andNothing fun value => takes_pure _

/-- A run that is bound to fail takes words of any language. -/
theorem takesFrom_of_fails {reader : Reader α} {next : α → Reader β}
    (fails : ∀ value left, ∃ fault, next value left = .error fault) :
    (reader >>= next).TakesFrom ahead language := by
  intro value left returned
  change ((reader ahead).bind fun outcome => next outcome.1 outcome.2) = .ok (value, left)
    at returned
  cases run : reader ahead with
  | error fault => simp [run, Except.bind] at returned
  | ok outcome =>
      obtain ⟨fault, failed⟩ := fails outcome.1 outcome.2
      simp [run, Except.bind, failed] at returned

/-- Peeking takes nothing, and shows the first of the tokens ahead. -/
theorem takes_peek {next : Token → Reader α}
    (nexts : ∀ shape text rest, (next ⟨shape, text⟩).TakesFrom (⟨shape, text⟩ :: rest) language) :
    (peek >>= next).Takes language := by
  intro ahead value left returned
  cases ahead with
  | nil => cases returned
  | cons token rest => exact nexts token.shape token.rest rest value left returned

theorem takesFrom_get {next : List Token → Reader α}
    (nexts : (next ahead).TakesFrom ahead language) :
    (get >>= next).TakesFrom ahead language :=
  nexts

theorem takesFrom_accept {outcome : Except Fault α} {next : α → Reader β}
    (nexts : ∀ value, outcome.isOk = true → (next value).TakesFrom ahead language) :
    (accept outcome >>= next).TakesFrom ahead language := by
  cases outcome with
  | error fault => rintro _ _ ⟨⟩
  | ok value => exact nexts value rfl

theorem takesFrom_descend {depth : Nat} {token : Token} {next : Nat → Reader α}
    (nexts : ∀ left, (next left).TakesFrom ahead language) :
    (descend depth token >>= next).TakesFrom ahead language := by
  unfold descend
  split_ifs
  · rintro _ _ ⟨⟩
  · exact nexts _

/-- A token that was looked at is taken. -/
theorem takesFrom_advance {token : Token} {rest : List Token} (isRead : token.shape.IsRead)
    (word : ∀ lexeme : Lexeme, lexeme.Makes token → [lexeme] ∈ language) :
    advance.TakesFrom (token :: rest) language := by
  rintro _ left ⟨⟩
  refine ⟨[token], rfl, by simpa using isRead, fun lexemes makes => ?_⟩
  obtain ⟨lexeme, lexemes, made, none, rfl⟩ := List.forall₂_cons_right_iff.1 makes
  obtain rfl := List.forall₂_nil_right_iff.1 none
  exact word lexeme made

end Reader

open Reader

/-! ## Languages -/

/-- The lexemes of a value. -/
def values : Language Lexeme :=
  {lexemes | ∃ document : Document, document.lexemes false = lexemes}

/-- A mark alone. -/
def lone (kind : Mark) : Language Lexeme :=
  {[.mark kind]}

/-- A string alone. -/
def names : Language Lexeme :=
  {lexemes | ∃ pieces, [.string pieces] = lexemes}

/-- The key of a member, and the colon behind it. -/
def keys : Language Lexeme :=
  names * lone .colon

/-- What may follow an item: more items, and the end of the array. -/
def itemsBehind : Language Lexeme :=
  {lexemes | ∃ rest, commaBefore rest false ++
    (itemLexemes false false rest ++ [.mark .closeBracket]) = lexemes}

/-- An item, and what may follow it. -/
def items : Language Lexeme :=
  values * itemsBehind

/-- What may follow a member: more members, and the end of the object. -/
def membersBehind : Language Lexeme :=
  {lexemes | ∃ rest, commaBefore rest false ++
    (memberLexemes false false rest ++ [.mark .closeBrace]) = lexemes}

/-- A member, and what may follow it. -/
def members : Language Lexeme :=
  keys * (values * membersBehind)

variable {lexemes : List Lexeme}

theorem exists_of_mem_items (word : lexemes ∈ items) :
    ∃ item rest, lexemes = itemLexemes false false (item :: rest) ++ [.mark .closeBracket] := by
  obtain ⟨_, ⟨item, rfl⟩, _, ⟨rest, rfl⟩, rfl⟩ := word
  exact ⟨item, rest, by simp [itemLexemes]⟩

theorem exists_of_mem_members (word : lexemes ∈ members) :
    ∃ member rest, lexemes = memberLexemes false false (member :: rest) ++ [.mark .closeBrace] := by
  obtain ⟨_, ⟨_, ⟨key, rfl⟩, _, rfl, rfl⟩, _, ⟨_, ⟨value, rfl⟩, _, ⟨rest, rfl⟩, rfl⟩, rfl⟩ := word
  exact ⟨(key, value), rest, by simp [memberLexemes]⟩

theorem mem_values_of_array
    (word : lexemes ∈ lone .openBracket * (lone .closeBracket + items)) : lexemes ∈ values := by
  obtain ⟨_, rfl, inside, closed | some, rfl⟩ := word
  · obtain rfl : inside = _ := closed
    exact ⟨.array [] false, rfl⟩
  · obtain ⟨item, rest, rfl⟩ := exists_of_mem_items some
    exact ⟨.array (item :: rest) false, rfl⟩

theorem mem_values_of_object
    (word : lexemes ∈ lone .openBrace * (lone .closeBrace + members)) : lexemes ∈ values := by
  obtain ⟨_, rfl, inside, closed | some, rfl⟩ := word
  · obtain rfl : inside = _ := closed
    exact ⟨.object [] false, rfl⟩
  · obtain ⟨member, rest, rfl⟩ := exists_of_mem_members some
    exact ⟨.object (member :: rest) false, rfl⟩

theorem mem_itemsBehind (word : lexemes ∈ lone .closeBracket + lone .comma * items) :
    lexemes ∈ itemsBehind := by
  obtain rfl | ⟨_, rfl, _, some, rfl⟩ := word
  · exact ⟨[], rfl⟩
  · obtain ⟨item, rest, rfl⟩ := exists_of_mem_items some
    exact ⟨item :: rest, rfl⟩

theorem mem_membersBehind (word : lexemes ∈ lone .closeBrace + lone .comma * members) :
    lexemes ∈ membersBehind := by
  obtain rfl | ⟨_, rfl, _, some, rfl⟩ := word
  · exact ⟨[], rfl⟩
  · obtain ⟨member, rest, rfl⟩ := exists_of_mem_members some
    exact ⟨member :: rest, rfl⟩

/-! ## Whole values -/

theorem Mark.char_injective : Function.Injective Mark.char := by
  intro kind other
  cases kind <;> cases other <;> decide

theorem takesFrom_lone (kind : Mark) (text : Text) (rest : List Token) :
    advance.TakesFrom (⟨.mark kind.char, text⟩ :: rest) (lone kind) := by
  refine takesFrom_advance trivial fun lexeme makes => ?_
  obtain ⟨other, same, rfl⟩ := makes
  obtain rfl := Mark.char_injective same
  rfl

/-! A value that is no array and no object is a single token. -/

theorem takesFrom_name {kept : Except Fault Text} {skipped : Except Fault Unit} {text : Text}
    {rest : List Token} (isRead : kept.isOk = true ∨ skipped.isOk = true) :
    advance.TakesFrom (⟨.quoted kept skipped, text⟩ :: rest) names := by
  refine takesFrom_advance isRead fun lexeme makes => ?_
  obtain ⟨pieces, rfl⟩ := makes
  exact ⟨pieces, rfl⟩

theorem takesFrom_string {kept : Except Fault Text} {skipped : Except Fault Unit} {text : Text}
    {rest : List Token} (isRead : kept.isOk = true ∨ skipped.isOk = true) :
    advance.TakesFrom (⟨.quoted kept skipped, text⟩ :: rest) values := by
  refine (takesFrom_name isRead).mono fun lexemes word => ?_
  obtain ⟨pieces, rfl⟩ := word
  exact ⟨.string pieces, rfl⟩

theorem takesFrom_number {kept skipped : Except Fault Unit} {text : Text} {rest : List Token}
    (isRead : kept.isOk = true ∨ skipped.isOk = true) :
    advance.TakesFrom (⟨.number kept skipped, text⟩ :: rest) values := by
  refine takesFrom_advance isRead fun lexeme makes => ?_
  obtain ⟨numeral, rfl⟩ := makes
  exact ⟨.number numeral, rfl⟩

theorem takesFrom_word {value : Option Bool} {spelled : Except Fault Unit} {text : Text}
    {rest : List Token} (isRead : spelled.isOk = true) :
    advance.TakesFrom (⟨.word value spelled, text⟩ :: rest) values := by
  refine takesFrom_advance isRead fun lexeme makes => ?_
  obtain rfl : lexeme = .word value := makes
  exact ⟨.word value, rfl⟩

theorem takesFrom_inside {α : Type} {care : Care} {token : Token} {ahead : List Token}
    {language : Language Lexeme} {next : Care → Reader α}
    (nexts : ∀ inner, (next inner).TakesFrom ahead language) :
    (care.inside token >>= next).TakesFrom ahead language := by
  cases care with
  | skipped => exact nexts .skipped
  | kept depth =>
      simp only [Care.inside, bind_assoc]
      exact takesFrom_descend fun left => nexts (.kept left)

theorem takes_mark (kind : Mark) : (mark kind.char).Takes (lone kind) := by
  refine takes_peek fun shape text rest => ?_
  cases shape with
  | mark char =>
      dsimp only
      split_ifs with found
      · subst found
        exact takesFrom_lone kind text rest
      · exact takesFrom_reject
  | _ => exact takesFrom_reject

theorem takes_passKey (care : Care) : (passKey care).Takes keys := by
  refine takes_peek fun shape text rest => ?_
  cases shape with
  | quoted kept skipped =>
      cases care with
      | kept depth =>
          exact takesFrom_accept fun _ isOk =>
            (takesFrom_name (Or.inl isOk)).andThen fun _ => takes_mark .colon
      | skipped =>
          exact takesFrom_accept fun _ isOk =>
            (takesFrom_name (Or.inr isOk)).andThen fun _ => takes_mark .colon
  | _ => exact takesFrom_reject

mutual

theorem takes_passValue : (limit : Nat) → (care : Care) → (passValue care limit).Takes values
  | 0, _ => fun _ => takesFrom_fail
  | limit + 1, care => by
      rw [passValue]
      refine takes_peek fun shape text rest => ?_
      cases shape with
      | quoted kept skipped =>
          cases care with
          | kept => exact takesFrom_accept fun _ isOk => takesFrom_string (Or.inl isOk)
          | skipped => exact takesFrom_accept fun _ isOk => takesFrom_string (Or.inr isOk)
      | number kept skipped =>
          cases care with
          | kept => exact takesFrom_accept fun _ isOk => takesFrom_number (Or.inl isOk)
          | skipped => exact takesFrom_accept fun _ isOk => takesFrom_number (Or.inr isOk)
      | word value spelled => exact takesFrom_accept fun _ isOk => takesFrom_word isOk
      | stray => exact takesFrom_reject
      | mark char =>
          by_cases array : char = '['
          · subst array
            refine takesFrom_inside fun inner => ?_
            have inside : Takes (lone .closeBracket + items) (do
                let next ← peek
                match next.shape with
                | .mark ']' => advance
                | _ => do
                    passValue inner limit
                    passItems inner limit) := by
              refine takes_peek fun shape text later => ?_
              dsimp only
              split
              · exact (takesFrom_lone .closeBracket text later).mono fun _ => Or.inl
              · have more := (takes_passValue limit inner).andThen fun _ =>
                  takes_passItems limit inner
                exact (more _).mono fun _ => Or.inr
            exact ((takesFrom_lone .openBracket text rest).andThen fun _ => inside).mono
              fun _ => mem_values_of_array
          by_cases object : char = '\x7b'
          · subst object
            refine takesFrom_inside fun inner => ?_
            have inside : Takes (lone .closeBrace + members) (do
                let next ← peek
                match next.shape with
                | .mark '\x7d' => advance
                | _ => do
                    passKey inner
                    passValue inner limit
                    passMembers inner limit) := by
              refine takes_peek fun shape text later => ?_
              dsimp only
              split
              · exact (takesFrom_lone .closeBrace text later).mono fun _ => Or.inl
              · have more := (takes_passKey inner).andThen fun _ =>
                  (takes_passValue limit inner).andThen fun _ => takes_passMembers limit inner
                exact (more _).mono fun _ => Or.inr
            exact ((takesFrom_lone .openBrace text rest).andThen fun _ => inside).mono
              fun _ => mem_values_of_object
          simpa [array, object] using takesFrom_reject

theorem takes_passItems : (limit : Nat) → (care : Care) → (passItems care limit).Takes itemsBehind
  | 0, _ => fun _ => takesFrom_fail
  | limit + 1, care => by
      rw [passItems]
      refine takes_peek fun shape text rest => ?_
      dsimp only
      split
      · exact (takesFrom_lone .closeBracket text rest).mono fun _ word =>
          mem_itemsBehind (.inl word)
      · have item := (takes_passValue limit care).andThen fun _ => takes_passItems limit care
        exact ((takesFrom_lone .comma text rest).andThen fun _ => item).mono
          fun _ word => mem_itemsBehind (.inr word)
      · exact takesFrom_reject

theorem takes_passMembers : (limit : Nat) → (care : Care) →
    (passMembers care limit).Takes membersBehind
  | 0, _ => fun _ => takesFrom_fail
  | limit + 1, care => by
      rw [passMembers]
      refine takes_peek fun shape text rest => ?_
      dsimp only
      split
      · exact (takesFrom_lone .closeBrace text rest).mono fun _ word =>
          mem_membersBehind (.inl word)
      · have member := (takes_passKey care).andThen fun _ =>
          (takes_passValue limit care).andThen fun _ => takes_passMembers limit care
        exact ((takesFrom_lone .comma text rest).andThen fun _ => member).mono
          fun _ word => mem_membersBehind (.inr word)
      · exact takesFrom_reject

end

theorem takes_pass (care : Care) : (pass care).Takes values :=
  fun ahead => takesFrom_get (takes_passValue (ahead.length + 1) care ahead)

/-! ## Records -/

theorem takesFrom_refuse {α : Type} {token : Token} {ahead : List Token}
    {language : Language Lexeme} : (refuse token : Reader α).TakesFrom ahead language := by
  unfold refuse
  split
  · exact takesFrom_accept fun _ _ => takesFrom_fail
  · exact takesFrom_accept fun _ _ => takesFrom_fail
  · exact takesFrom_accept fun _ _ => takesFrom_fail
  · exact takesFrom_fail
  · exact takesFrom_fail
  · exact takesFrom_reject

theorem takes_readText? : readText?.Takes values := by
  refine takes_peek fun shape text rest => ?_
  dsimp only
  split
  · exact takesFrom_accept fun value isOk =>
      (takesFrom_string (Or.inl isOk)).andNothing fun _ => takes_pure _
  · exact takesFrom_accept fun value isOk =>
      (takesFrom_word isOk).andNothing fun _ => takes_pure _
  · exact takesFrom_refuse

theorem takes_readOptional {σ : Type} {read : Reader σ} (takes : read.Takes values) :
    (readOptional read).Takes values := by
  refine takes_peek fun shape text rest => ?_
  dsimp only
  split
  · exact takesFrom_accept fun value isOk =>
      (takesFrom_word isOk).andNothing fun _ => takes_pure _
  · exact takes.map some _

variable {σ : Type} {fields : List (Field σ)}

theorem takes_text (key : String) (set : Option Text → σ → σ) (depth : Nat) :
    ((Field.text key set).read depth).Takes values :=
  takes_readText?.map set

/-- The end of an object, or the members that follow one. -/
theorem takes_behindMember {later : List Text → σ → Reader σ}
    (takes : ∀ seen record, (later seen record).Takes members)
    (seen : List Text) (record : σ) :
    Takes membersBehind (do
      let next ← peek
      match next.shape with
      | .mark '\x7d' => do
          advance
          pure record
      | .mark ',' => do
          advance
          later seen record
      | _ => reject next) := by
  refine takes_peek fun shape text rest => ?_
  dsimp only
  split
  · exact ((takesFrom_lone .closeBrace text rest).andNothing fun _ => takes_pure record).mono
      fun _ word => mem_membersBehind (.inl word)
  · exact ((takesFrom_lone .comma text rest).andThen fun _ => takes seen record).mono
      fun _ word => mem_membersBehind (.inr word)
  · exact takesFrom_reject

theorem takes_readMembers (depth : Nat) (takes : ∀ field ∈ fields, (field.read depth).Takes values)
    (limit : Nat) (seen : List Text) (record : σ) :
    (readMembers fields depth limit seen record).Takes members := by
  induction limit generalizing seen record with
  | zero => exact fun _ => takesFrom_fail
  | succ limit ih =>
      rw [readMembers]
      refine takes_peek fun shape text rest => ?_
      cases shape with
      | quoted kept skipped =>
          refine takesFrom_accept fun key isOk => ?_
          have behind := takes_behindMember ih
          rw [members, keys, mul_assoc]
          refine (takesFrom_name (Or.inl isOk)).andThen fun _ => ?_
          cases known : fields.find? (·.key = key) with
          | none =>
              exact (takes_mark .colon).andThen fun _ =>
                (takes_pass .skipped).andThen fun _ => behind seen record
          | some field =>
              have isField := List.mem_of_find?_eq_some known
              dsimp only
              split_ifs
              · exact fun _ => takesFrom_fail
              · exact (takes_mark .colon).andThen fun _ =>
                  (takes field isField).andThen fun update => behind (key :: seen) (update record)
      | _ => exact takesFrom_reject

/-- What is left of an array before its first item, or behind one. -/
def elementsFrom (isFirst : Bool) : Language Lexeme :=
  if isFirst then lone .closeBracket + items else itemsBehind

theorem mem_elementsFrom_of_close (isFirst : Bool) {lexemes : List Lexeme}
    (word : lexemes ∈ lone .closeBracket) : lexemes ∈ elementsFrom isFirst := by
  cases isFirst with
  | true => exact Or.inl word
  | false => exact mem_itemsBehind (.inl word)

theorem takes_readElements (complete : Bool) (depth : Nat)
    (takes : ∀ field ∈ fields, (field.read depth).Takes values) (isFirst : Bool) (record : σ) :
    (readElements complete depth isFirst fields record).Takes (elementsFrom isFirst) := by
  induction fields generalizing isFirst record with
  | nil =>
      rw [readElements]
      refine takes_peek fun shape text rest => ?_
      dsimp only
      split
      · exact ((takesFrom_lone .closeBracket text rest).andNothing fun _ => takes_pure record).mono
          fun _ => mem_elementsFrom_of_close isFirst
      · refine takesFrom_of_fails fun _ ahead => ?_
        cases ahead <;> exact ⟨_, rfl⟩
      · exact takesFrom_reject
  | cons field fields ih =>
      obtain ⟨takesField, takesFields⟩ := List.forall_mem_cons.1 takes
      have element : Takes items (do
          let update ← field.read depth
          readElements complete depth false fields (update record)) :=
        takesField.andThen fun update => ih takesFields false (update record)
      rw [readElements]
      refine takes_peek fun shape text rest => ?_
      dsimp only
      split
      · split_ifs
        · exact takesFrom_fail
        · exact ((takesFrom_lone .closeBracket text rest).andNothing
            fun _ => takes_pure record).mono fun _ => mem_elementsFrom_of_close isFirst
      · have next : Takes items (do
            let next ← peek
            match next.shape with
            | .mark ']' => reject next
            | _ => do
                let update ← field.read depth
                readElements complete depth false fields (update record)) := by
          refine takes_peek fun shape text later => ?_
          split
          · exact takesFrom_reject
          · exact element _
        exact ((takesFrom_lone .comma text rest).andThen fun _ => next).mono
          fun _ word => mem_itemsBehind (.inr word)
      · exact (element _).mono fun _ => Or.inr
      · exact takesFrom_reject

theorem takes_readRecord (complete : Bool) (blank : σ) (depth : Nat)
    (takes : ∀ field ∈ fields, ∀ depth, (field.read depth).Takes values) :
    (readRecord fields complete blank depth).Takes values := by
  refine takes_peek fun shape text rest => ?_
  dsimp only
  split
  · refine takesFrom_descend fun left => ?_
    have inside : Takes (lone .closeBrace + members) (do
        let next ← peek
        match next.shape with
        | .mark '\x7d' => do
            advance
            pure blank
        | _ => do
            let ahead ← get
            readMembers fields left (ahead.length + 1) [] blank) := by
      refine takes_peek fun shape text later => ?_
      dsimp only
      split
      · exact ((takesFrom_lone .closeBrace text later).andNothing fun _ => takes_pure blank).mono
          fun _ => Or.inl
      · refine takesFrom_get ?_
        have members := takes_readMembers left (fun field member => takes field member left)
        exact (members _ [] blank _).mono fun _ => Or.inr
    exact ((takesFrom_lone .openBrace text rest).andThen fun _ => inside).mono
      fun _ => mem_values_of_object
  · refine takesFrom_descend fun left => ?_
    have elements := takes_readElements complete left (fun field member => takes field member left)
    exact ((takesFrom_lone .openBracket text rest).andThen fun _ => elements true blank).mono
      fun _ => mem_values_of_array
  · exact takesFrom_refuse

/-! ## Documents -/

/-- A text that is decoded holds the lexemes of a JSON document. -/
theorem exists_document_of_decode {α : Type} {read : Reader α} {text : Text} {value : α}
    (takes : read.Takes values) (decoded : decode read text = .ok value) :
    ∃ document : Document, Spaced (document.lexemes false) text := by
  unfold decode StateT.run at decoded
  split at decoded
  · rename_i returned run
    obtain ⟨taken, cut, areRead, word⟩ := takes _ _ _ run
    rw [List.append_nil] at cut
    subst cut
    obtain ⟨lexemes, makes, spaced⟩ := exists_lexemes areRead
    obtain ⟨document, rfl⟩ := word lexemes makes
    exact ⟨document, spaced⟩
  · cases decoded
  · cases decoded

end Json

end Relink
