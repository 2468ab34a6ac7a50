import Relink.Path.Basic

/-!
# Normal paths

Normalising collapses `.` and `..` by name alone, without looking at any file.
The relative path from one place to another climbs to the last common step and
descends from there.
-/

namespace Relink

namespace Path

/-- Takes one more step after the steps of `stack`, the latest of which comes
first.  A `..` undoes a name, is lost under the root, and stays elsewhere. -/
def push (stack : List Component) : Component → List Component
  | .current => stack
  | .parent =>
      match stack with
      | .name _ :: rest => rest
      | .root :: _ => stack
      | _ => .parent :: stack
  | step => step :: stack

/-- The steps with `.` and `..` collapsed. -/
def collapse (steps : List Component) : List Component :=
  (steps.foldl push []).reverse

/-- The path that takes the given steps. -/
def ofComponents : List Component → Path
  | .root :: steps => ⟨.char '/' :: Text.joinWith (.char '/') (steps.map Component.letters)⟩
  | steps => ⟨Text.joinWith (.char '/') (steps.map Component.letters)⟩

/-- The path with `.` and `..` collapsed.  A leading `..` stays on a path that
does not begin at the root. -/
def normalize (path : Path) : Path :=
  ofComponents (collapse path.components)

/-- Two step lists without the steps they begin with in common. -/
def dropCommon : List Component → List Component → List Component × List Component
  | first :: firsts, second :: seconds =>
      if first = second then dropCommon firsts seconds
      else (first :: firsts, second :: seconds)
  | firsts, seconds => (firsts, seconds)

/-- The text that leads from the directory `origin` to `target`, empty when they
are the same place.  Names on the way down are written as they are shown. -/
def relative (origin target : Path) : Text :=
  match dropCommon (collapse origin.components) (collapse target.components) with
  | (climbed, descended) =>
      Text.joinWith '/'
        (climbed.map (fun _ => Component.parent.text) ++ descended.map Component.text)

end Path

end Relink
