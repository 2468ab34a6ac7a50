import Relink.Text.Split

/-!
# Comments

Comments are kept beside the tree, at the positions of the tokens they belong to.  A
comment leads the token that follows it or trails the token before it.  Taking the
comments of a position removes them.
-/

namespace Relink

namespace Syntax

/-- How a comment is written. -/
inductive CommentStyle
  | line
  | block
deriving DecidableEq, Repr, Inhabited

/-- A comment without its marks. -/
structure Comment where
  style : CommentStyle
  text : Text
deriving DecidableEq, Repr, Inhabited

/-- The comments of source texts by position, in source order. -/
structure Comments where
  leading : List (Nat × Comment)
  trailing : List (Nat × Comment)
deriving DecidableEq, Repr, Inhabited

namespace Comments

def none : Comments := ⟨[], []⟩

def merge (first second : Comments) : Comments :=
  ⟨first.leading ++ second.leading, first.trailing ++ second.trailing⟩

/-- The store with more comments before a position. -/
def addLeading (comments : Comments) (position : Nat) (more : List Comment) : Comments :=
  { comments with leading := comments.leading ++ more.map fun comment => (position, comment) }

/-- The store with more comments behind a position. -/
def addTrailing (comments : Comments) (position : Nat) (more : List Comment) : Comments :=
  { comments with trailing := comments.trailing ++ more.map fun comment => (position, comment) }

def leads (comments : Comments) (position : Nat) : Bool :=
  comments.leading.any (·.1 = position)

/-- The comments that lead a position, and the store without them. -/
def takeLeading (comments : Comments) (position : Nat) : List Comment × Comments :=
  ((comments.leading.filter (·.1 = position)).map Prod.snd,
    { comments with leading := comments.leading.filter (·.1 ≠ position) })

/-- The comments that trail a position, and the store without them. -/
def takeTrailing (comments : Comments) (position : Nat) : List Comment × Comments :=
  ((comments.trailing.filter (·.1 = position)).map Prod.snd,
    { comments with trailing := comments.trailing.filter (·.1 ≠ position) })

end Comments

end Syntax

end Relink
