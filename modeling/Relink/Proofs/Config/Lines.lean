import Relink.Config.Basic
import Relink.Proofs.Json.Reports
import Relink.Proofs.Jsonc.Lines

/-!
# Lines of configuration errors

A configuration is decoded from its stripped text.  Each character of that text is one of the
file, and stands there in the same line.  So the line that an error names is the line of the
offending character in the file, or the last line if the document is not finished.
-/

namespace Relink

open Json Json.Reader

variable {text : Text}

namespace RawOptions

theorem failsIn_readFlag? (depth : Nat) : (readFlag? depth).FailsIn text := by
  refine staysIn_peek.bind fun {token} lies => ?_
  obtain ⟨shape, rest⟩ := token
  have refused : FailsIn (α := Option Bool) text (do
      Json.pass (.kept depth)
      unfit none) :=
    (failsIn_pass _).andThen fun _ => staysIn_unfit none
  cases shape with
  | word value spelled =>
      cases value <;> exact (failsIn_accept lies.faults).andThen fun _ =>
        failsIn_advance.andThen fun _ => failsIn_pure _
  | quoted kept skipped =>
      refine (failsIn_accept lies.faults.1).andThen fun word => ?_
      refine failsIn_advance.andThen fun _ => ?_
      cases flagOfWord? word with
      | some value => exact failsIn_pure _
      | none => exact staysIn_unfit _
  | _ => exact refused

theorem failsIn_flagField (key : String) (set : Option Bool → RawOptions → RawOptions)
    (depth : Nat) : ((flagField key set).read depth).FailsIn text :=
  StaysIn.map (failsIn_readFlag? depth) set

theorem failsIn_fields : ∀ field ∈ fields, ∀ depth, (field.read depth).FailsIn text := by
  simp only [fields, List.forall_mem_cons]
  exact ⟨failsIn_text _ _, failsIn_text _ _, failsIn_flagField _ _, failsIn_flagField _ _,
    List.forall_mem_nil _⟩

end RawOptions

namespace Config

theorem failsIn_fields : ∀ field ∈ fields, ∀ depth, (field.read depth).FailsIn text := by
  simp only [fields, List.forall_mem_cons]
  refine ⟨failsIn_text _ _, fun depth => ?_, List.forall_mem_nil _⟩
  have options : (RawOptions.read depth).FailsIn text :=
    failsIn_readRecord false RawOptions.blank depth RawOptions.failsIn_fields
  exact (failsIn_readOptional options).andThen fun _ => failsIn_pure _

/-- Stripping leaves some of the characters of a file.  Each of them has a source in the file: in
order, in the same line, and with all line ends of the file among them.  A configuration that is
malformed is so at a character of the stripped text, and the line that is named is the line of its
source.  If the document is not finished, the last line is named. -/
theorem exists_source_of_errors (text : Text) :
    (Jsonc.strip text).Sublist text ∧ ∃ source : Fin (Jsonc.strip text).length ↪o Fin text.length,
      (∀ place, text.get (source place) = (Jsonc.strip text).get place) ∧
        (∀ place, text.get place = '\n' → place ∈ Set.range source) ∧
        (∀ place,
          lineEnds (text.take (source place)) = lineEnds ((Jsonc.strip text).take place)) ∧
        (∀ line, parse text = .error (.malformed line) →
          ∃ place : Fin (Jsonc.strip text).length,
            examine (readRecord fields false blank depthLimit) (Jsonc.strip text) =
                .error (.before ((Jsonc.strip text).drop (place + 1))) ∧
              line = 1 + lineEnds (text.take (source place + 1))) ∧
        ∀ line, parse text = .error (.unfinished line) → line = 1 + lineEnds text := by
  have thinned := Jsonc.thinned_strip.1 text
  obtain ⟨source, isSource⟩ := thinned.exists_source
  refine ⟨thinned.sublist, source, isSource.char, isSource.lineEnd, isSource.line,
    ?malformed, ?unfinished⟩
  case malformed =>
    intro line wrong
    have someText : Jsonc.strip text ≠ [] := by
      intro empty
      rw [parse, empty] at wrong
      cases wrong
    have fails : (readRecord fields false blank depthLimit).FailsIn (Jsonc.strip text).tail :=
      failsIn_readRecord false blank depthLimit failsIn_fields
    obtain ⟨place, examined, isLine⟩ := exists_place_of_malformed fails someText wrong
    exact ⟨place, examined, by rw [isLine, isSource.line_behind]⟩
  case unfinished =>
    intro line wrong
    rw [line_of_unfinished wrong, thinned.lineEnds_eq]

/-- A configuration with comments before the character that is wrong. -/
def commented : Text :=
  "\x7b /* a\nb */ // c\n\"extends\" 1\x7d".toList

theorem exists_source_of_errors_commented :
    parse commented = .error (.malformed 3) ∧
      ∃ (source : Fin (Jsonc.strip commented).length ↪o Fin commented.length)
        (place : Fin (Jsonc.strip commented).length),
        commented.get (source place) = (Jsonc.strip commented).get place ∧
          3 = 1 + lineEnds (commented.take (source place + 1)) := by
  have wrong : parse commented = .error (.malformed 3) := by decide +kernel
  obtain ⟨-, source, same, -, -, malformed, -⟩ := exists_source_of_errors commented
  obtain ⟨place, -, isLine⟩ := malformed 3 wrong
  exact ⟨wrong, source, place, same place, isLine⟩

end Config

end Relink
