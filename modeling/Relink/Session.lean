import Relink.Rewrite
import Relink.Syntax.Parse
import Relink.Syntax.Printer

/-!
# Sessions

A session reads and prints the source files of a compilation.  Its files lie one
behind the other in one range of positions, so that a position tells the file too.
The comments of all files are in one store, from which printing takes them.
-/

namespace Relink

/-- What a session keeps: where the next file begins, and the comments that were not
printed yet. -/
structure Session where
  nextStart : Nat
  comments : Syntax.Comments

/-- A text that could not be read as the program of a file. -/
structure ParseError where
  path : Path
deriving DecidableEq, Repr

/-- How a text that could not be read is reported. -/
def ParseError.message (error : ParseError) : Text :=
  "failed to parse ".toList ++ error.path.text

namespace Session

def empty : Session := ⟨1, .none⟩

/-- The text behind the mark of its byte order, if it begins with one. -/
def withoutByteOrderMark : Text → Text
  | '\ufeff' :: rest => rest
  | text => text

/-- Whether elements may be written in a file. -/
def allowsMarkup (path : Path) : Bool :=
  path.extension? = some (Letters.ofText "tsx".toList)

/-- The source file that a text holds.  The text takes its room in the session whether
it can be read or not. -/
def parse (session : Session) (path : Path) (text : Text) :
    Except ParseError (SourceFile Syntax.Label) × Session :=
  let text := withoutByteOrderMark text
  let after := session.nextStart + Text.byteLength text + 1
  match Syntax.parse? (allowsMarkup path) session.nextStart text with
  | some parsed => (.ok ⟨path, parsed.program⟩, ⟨after, session.comments.merge parsed.comments⟩)
  | none => (.error ⟨path⟩, { session with nextStart := after })

/-- The text of a source file, with those of its comments that are left. -/
def print (session : Session) (source : SourceFile Syntax.Label) : Text × Session :=
  let (text, left) := Syntax.print session.comments source.program
  (text, { session with comments := left })

end Session

/-- Whether two source files have equal paths and the same program. -/
def SourceFile.same (first second : SourceFile Syntax.Label) : Bool :=
  first.path.same second.path && first.program == second.program

/-- The text of a file with its requests rewritten. -/
def Compilation.rewriteText (compilation : Compilation) (path : Path) (text : Text) :
    Except ParseError (Traced Text) :=
  let (source, session) := Session.empty.parse path text
  source.map fun source => do
    let rewritten ← compilation.rewriteFile source
    pure (session.print rewritten).1

end Relink
