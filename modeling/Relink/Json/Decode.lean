import Relink.Json.Token
import Relink.Json.Value

/-!
# Decoding JSON

A record is decoded from an object by its keys or from an array by position.
Unknown keys are skipped, a known key may come once, and the first trouble in
reading order is the one reported.  The same description of a record decodes JSON
text and values that were read elsewhere.
-/

namespace Relink

namespace Json

/-- Why a document could not be decoded, with the line of the offending
character. -/
inductive Error
  | unfinished (line : Nat)
  | malformed (line : Nat)
  | unfit (reason : Option Text)
deriving DecidableEq, Repr

/-- A decoder that reads tokens from the front. -/
abbrev Reader := StateT (List Token) (Except Fault)

namespace Reader

def fail {α : Type} (fault : Fault) : Reader α :=
  fun _ => .error fault

/-- Gives up because the document has the wrong shape. -/
def unfit {α : Type} (reason : Option Text) : Reader α :=
  fail ⟨.unfit reason, []⟩

def peek : Reader Token := fun ahead =>
  match ahead with
  | [] => .error .atEnd
  | token :: _ => .ok (token, ahead)

def advance : Reader Unit := fun ahead =>
  .ok ((), ahead.tail)

def accept {α : Type} : Except Fault α → Reader α
  | .ok value => pure value
  | .error fault => fail fault

/-- Refuses a token that cannot stand where it does. -/
def reject {α : Type} (token : Token) : Reader α :=
  fail (.before token.rest)

def mark (char : Char) : Reader Unit := do
  let token ← peek
  match token.shape with
  | .mark found => if found = char then advance else reject token
  | _ => reject token

/-- Refuses a value of the wrong shape, unless it cannot be read at all. -/
def refuse {α : Type} (token : Token) : Reader α :=
  match token.shape with
  | .quoted kept _ => do
      let _ ← accept kept
      unfit none
  | .number kept _ => do
      accept kept
      unfit none
  | .word _ spelled => do
      accept spelled
      unfit none
  | .mark '[' | .mark '{' => unfit none
  | _ => reject token

/-- The depth that is left inside a nested value. -/
def descend (depth : Nat) (token : Token) : Reader Nat :=
  if depth ≤ 1 then reject token else pure (depth - 1)

end Reader

open Reader

/-! ## Whole values -/

/-- Whether a value is wanted, at what depth at most, or only passed. -/
inductive Care
  | kept (depth : Nat)
  | skipped

/-- The care for what lies inside a nested value. -/
def Care.inside (care : Care) (token : Token) : Reader Care :=
  match care with
  | .kept depth => do
      let left ← descend depth token
      pure (.kept left)
  | .skipped => pure .skipped

/-- Passes the key of a member and the colon behind it. -/
def passKey (care : Care) : Reader Unit := do
  let token ← peek
  match token.shape, care with
  | .quoted kept _, .kept _ => do
      let _ ← accept kept
      advance
      mark ':'
  | .quoted _ skipped, .skipped => do
      accept skipped
      advance
      mark ':'
  | _, _ => reject token

mutual

def passValue (care : Care) : (limit : Nat) → Reader Unit
  | 0 => fail .atEnd
  | limit + 1 => do
      let token ← peek
      match token.shape, care with
      | .quoted kept _, .kept _ => do
          let _ ← accept kept
          advance
      | .quoted _ skipped, .skipped => do
          accept skipped
          advance
      | .number kept _, .kept _ => do
          accept kept
          advance
      | .number _ skipped, .skipped => do
          accept skipped
          advance
      | .word _ spelled, _ => do
          accept spelled
          advance
      | .mark '[', _ => do
          let inner ← care.inside token
          advance
          let next ← peek
          match next.shape with
          | .mark ']' => advance
          | _ => do
              passValue inner limit
              passItems inner limit
      | .mark '{', _ => do
          let inner ← care.inside token
          advance
          let next ← peek
          match next.shape with
          | .mark '}' => advance
          | _ => do
              passKey inner
              passValue inner limit
              passMembers inner limit
      | _, _ => reject token

/-- Passes the items that follow one, and the end of the array. -/
def passItems (care : Care) : (limit : Nat) → Reader Unit
  | 0 => fail .atEnd
  | limit + 1 => do
      let token ← peek
      match token.shape with
      | .mark ']' => advance
      | .mark ',' => do
          advance
          passValue care limit
          passItems care limit
      | _ => reject token

/-- Passes the members that follow one, and the end of the object. -/
def passMembers (care : Care) : (limit : Nat) → Reader Unit
  | 0 => fail .atEnd
  | limit + 1 => do
      let token ← peek
      match token.shape with
      | .mark '}' => advance
      | .mark ',' => do
          advance
          passKey care
          passValue care limit
          passMembers care limit
      | _ => reject token

end

/-- Passes the next value with the given care. -/
def pass (care : Care) : Reader Unit := do
  let ahead ← get
  passValue care (ahead.length + 1)

/-! ## Records -/

/-- A field of a record under construction: its key, and what its value does to
the record, read from tokens within a depth or taken from a value. -/
structure Field (σ : Type) where
  key : Text
  read : (depth : Nat) → Reader (σ → σ)
  take : Json → Except (Option Text) (σ → σ)

def readText? : Reader (Option Text) := do
  let token ← peek
  match token.shape with
  | .quoted kept _ => do
      let value ← accept kept
      advance
      pure (some value)
  | .word none spelled => do
      accept spelled
      advance
      pure none
  | _ => refuse token

def takeText? : Json → Except (Option Text) (Option Text)
  | .null => .ok none
  | .text value => .ok (some value)
  | _ => .error none

def Field.text {σ : Type} (key : String) (set : Option Text → σ → σ) : Field σ where
  key := key.toList
  read := fun _ => set <$> readText?
  take := fun value => set <$> takeText? value

/-- The members of an object up to its end.  `seen` holds the known keys that
came before. -/
def readMembers {σ : Type} (fields : List (Field σ)) (depth : Nat) :
    (limit : Nat) → (seen : List Text) → σ → Reader σ
  | 0, _, _ => fail .atEnd
  | limit + 1, seen, record => do
      let token ← peek
      match token.shape with
      | .quoted kept _ => do
          let key ← accept kept
          advance
          let (seen, record) ←
            match fields.find? (·.key = key) with
            | some field => do
                if seen.contains key then unfit none
                mark ':'
                let update ← field.read depth
                pure (key :: seen, update record)
            | none => do
                mark ':'
                pass .skipped
                pure (seen, record)
          let next ← peek
          match next.shape with
          | .mark '}' => do
              advance
              pure record
          | .mark ',' => do
              advance
              readMembers fields depth limit seen record
          | _ => reject next
      | _ => reject token

/-- The elements of an array, one for each field.  The elements at the end may
miss if `complete` does not hold. -/
def readElements {σ : Type} (complete : Bool) (depth : Nat) :
    (first : Bool) → List (Field σ) → σ → Reader σ
  | _, [], record => do
      let token ← peek
      match token.shape with
      | .mark ']' => do
          advance
          pure record
      | .mark ',' => do
          advance
          let ahead ← get
          match ahead with
          | [] => fail (.before [])
          | next :: _ => reject next
      | _ => reject token
  | first, field :: fields, record => do
      let token ← peek
      match token.shape, first with
      | .mark ']', _ =>
          if complete then
            unfit none
          else do
            advance
            pure record
      | .mark ',', false => do
          advance
          let next ← peek
          match next.shape with
          | .mark ']' => reject next
          | _ => do
              let update ← field.read depth
              readElements complete depth false fields (update record)
      | _, true => do
          let update ← field.read depth
          readElements complete depth false fields (update record)
      | _, false => reject token

def readRecord {σ : Type} (fields : List (Field σ)) (complete : Bool) (blank : σ)
    (depth : Nat) : Reader σ := do
  let token ← peek
  match token.shape with
  | .mark '{' => do
      let left ← descend depth token
      advance
      let next ← peek
      match next.shape with
      | .mark '}' => do
          advance
          pure blank
      | _ => do
          let ahead ← get
          readMembers fields left (ahead.length + 1) [] blank
  | .mark '[' => do
      let left ← descend depth token
      advance
      readElements complete left true fields blank
  | _ => refuse token

/-- The record with one more field set from a value. -/
def Field.set {σ : Type} (field : Field σ) (value : Json) (record : σ) :
    Except (Option Text) σ := do
  let update ← field.take value
  pure (update record)

/-- A record with the given fields, from a value.  No element of an array may be
left over. -/
def takeRecord {σ : Type} (fields : List (Field σ)) (blank : σ) :
    Json → Except (Option Text) σ
  | .object members =>
      members.foldlM (fun record (key, value) =>
        match fields.find? (·.key = key) with
        | some field => field.set value record
        | none => .ok record) blank
  | .array items => do
      let record ← (fields.zip items).foldlM (fun record (field, value) =>
        field.set value record) blank
      if items.length ≤ fields.length then pure record else .error none
  | _ => .error none

def readOptional {σ : Type} (read : Reader σ) : Reader (Option σ) := do
  let token ← peek
  match token.shape with
  | .word none spelled => do
      accept spelled
      advance
      pure none
  | _ => some <$> read

/-! ## Whole documents -/

def depthLimit : Nat := 128

def lineEnds (text : Text) : Nat :=
  text.count '\n'

/-- The error a fault in `text` is reported as. -/
def Fault.toError (text : Text) (fault : Fault) : Error :=
  match fault.trouble with
  | .unfinished => .unfinished (1 + lineEnds text)
  | .malformed => .malformed (1 + (lineEnds text - lineEnds fault.rest))
  | .unfit reason => .unfit reason

/-- The value of a document that holds nothing else. -/
def decode {α : Type} (read : Reader α) (text : Text) : Except Error α :=
  match read.run (tokens text) with
  | .ok (value, []) => .ok value
  | .ok (_, token :: _) => .error ((Fault.before token.rest).toError text)
  | .error fault => .error (fault.toError text)

end Json

end Relink
