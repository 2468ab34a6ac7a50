import Relink.Text.Split

/-!
# Leaving the process

The notice that is printed before the process ends, and the status it leaves.
-/

namespace Relink

namespace Exit

def message (code : Int) : Text :=
  "Process exiting with code '".toList ++ (toString code).toList ++ "'.".toList

/-- Whether output that is no terminal is coloured: only if that is forced by a
value other than `0`. -/
def coloured (forced : Option Text) : Bool :=
  match forced with
  | none => false
  | some value => value ≠ ['0']

/-- A text between the codes that begin and end red colour. -/
def red (text : Text) : Text :=
  "\x1b[31m".toList ++ text ++ "\x1b[0m".toList

def notice (forced : Option Text) (code : Int) : Text :=
  (if coloured forced then red (message code) else message code) ++ ['\n']

/-- The status the process leaves, of which only the low byte is kept. -/
def status (code : Int) : Nat :=
  (code % 256).toNat

end Exit

end Relink
