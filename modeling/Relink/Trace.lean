import Relink.Host
import Relink.Options.Basic

/-!
# Traces

What happens while specifiers are resolved and replaced is recorded as a list of
events.  The calls a host has answered are among them.
-/

namespace Relink

/-- A call that a host has answered. -/
inductive Call
  | isFile (path : Path) (answer : Bool)
  | read (path : Path) (answered : Bool)
deriving DecidableEq, Repr

/-- Something that happened on the way to a result. -/
inductive Event
  | skipped (specifier : Text)
  | probed (candidate : Path) (isFile : Bool)
  | soughtManifest (path : Path) (isFile : Bool)
  | readManifest (path : Path) (readable : Bool)
  | ignoredManifest (path : Path)
  | followed (field : Text) (target : Path)
  | resolved (specifier : Text) (importer target : Path)
  | unresolved (specifier : Text) (importer : Path) (strategy : Strategy)
  | rewritten (file : Path) (specifier replacement extension : Text)
deriving DecidableEq, Repr

/-- The host call behind an event. -/
def Event.call? : Event → Option Call
  | probed path isFile => some (.isFile path isFile)
  | soughtManifest path isFile => some (.isFile path isFile)
  | readManifest path readable => some (.read path readable)
  | _ => none

/-- A result with what happened on the way to it. -/
structure Traced (α : Type) where
  value : α
  events : List Event

namespace Traced

instance : Monad Traced where
  pure value := ⟨value, []⟩
  bind first next :=
    match next first.value with
    | ⟨value, events⟩ => ⟨value, first.events ++ events⟩

/-- Records an event. -/
def record (event : Event) : Traced Unit := ⟨(), [event]⟩

/-- The host calls made on the way, in order. -/
def calls {α : Type} (result : Traced α) : List Call :=
  result.events.filterMap Event.call?

@[simp] theorem value_pure {α : Type} (value : α) :
    (pure value : Traced α).value = value := rfl

@[simp] theorem events_pure {α : Type} (value : α) :
    (pure value : Traced α).events = [] := rfl

@[simp] theorem value_bind {α β : Type} (first : Traced α) (next : α → Traced β) :
    (first >>= next).value = (next first.value).value := rfl

@[simp] theorem events_bind {α β : Type} (first : Traced α) (next : α → Traced β) :
    (first >>= next).events = first.events ++ (next first.value).events := rfl

@[simp] theorem value_map {α β : Type} (function : α → β) (result : Traced α) :
    (function <$> result).value = function result.value := rfl

instance : LawfulMonad Traced :=
  LawfulMonad.mk' Traced
    (fun result => by cases result; simp [Functor.map])
    (fun value next => by simp [bind, pure])
    (fun result first second => by simp [bind, List.append_assoc])

end Traced

end Relink
