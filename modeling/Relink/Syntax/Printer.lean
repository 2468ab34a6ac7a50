import Relink.Syntax.Layout.Program

/-!
# Printing

Pieces are written out one after the other.  Each comment that is written is taken out
of the store, so that it is written once.
-/

namespace Relink

namespace Syntax

/-- A page that is written: its text from the end, the depth, whether nothing stands in
the last line yet, the comments left, and which brackets are open. -/
structure Page where
  reversed : Text
  depth : Nat
  atLineStart : Bool
  comments : Comments
  brackets : List Bool

namespace Page

def blank (comments : Comments) : Page := ⟨[], 0, true, comments, []⟩

def text (page : Page) : Text := page.reversed.reverse

/-- The page with more text in its last line. -/
def write (page : Page) (text : Text) : Page :=
  if text.isEmpty then page
  else
    let indent := if page.atLineStart then List.replicate (4 * page.depth) ' ' else []
    { page with
      reversed := text.reverseAux (indent ++ page.reversed)
      atLineStart := false }

/-- The page with its last line ended, unless nothing stands in it. -/
def endLine (page : Page) : Page :=
  if page.atLineStart then page
  else { page with reversed := '\n' :: page.reversed, atLineStart := true }

def writeComment (page : Page) (spaced : Bool) (comment : Comment) : Page :=
  let page := if spaced then page.write [' '] else page
  match comment.style with
  | .line => ((page.write ['/', '/']).write comment.text).endLine
  | .block =>
      (((page.write ['/', '*']).write comment.text).write ['*', '/']).write [' ']

/-- The page with the comments before a position. -/
def writeLeading (page : Page) (position : Nat) : Page :=
  let (found, left) := page.comments.takeLeading position
  found.foldl (fun page comment => page.writeComment false comment)
    { page with comments := left }

/-- The page with the comments behind a position. -/
def writeTrailing (page : Page) (spaced : Bool) (position : Nat) : Page :=
  let (found, left) := page.comments.takeTrailing position
  found.foldl (fun page comment => page.writeComment spaced comment)
    { page with comments := left }

def add (page : Page) : Piece → Page
  | .text text => page.write text
  | .line => page.endLine
  | .indent => { page with depth := page.depth + 1 }
  | .dedent => { page with depth := page.depth - 1 }
  | .leading position => page.writeLeading position
  | .trailing position => page.writeTrailing true position
  | .closing position => page.writeTrailing false position
  | .lineIfLed position => if page.comments.leads position then page.endLine else page
  | .bracketIfLed position =>
      let led := page.comments.leads position
      { page.write [if led then '(' else ' '] with brackets := led :: page.brackets }
  | .closeBracket =>
      match page.brackets with
      | true :: more => { page.write [')'] with brackets := more }
      | _ => { page with brackets := page.brackets.drop 1 }

end Page

/-- The text of a program with the comments that belong to it, and the comments that
are left. -/
def print (comments : Comments) (program : Program) : Text × Comments :=
  let page := (Layout.ofModule program).foldl Page.add (.blank comments)
  (page.text, page.comments)

end Syntax

end Relink
