import Relink.Proofs.Config.Spelling
import Relink.Proofs.Json.Acceptance
import Relink.Proofs.Jsonc.Preimages

/-!
# Which configuration files are accepted

A configuration file is accepted exactly if it is a loose spelling of a JSON document that is
accepted as it stands.  A comment in it counts for its line ends and for nothing else, so that one
without a line end does not keep apart what stands around it.
-/

namespace Relink

open Json Json.Reader

namespace RawOptions

theorem takes_readFlag? (depth : Nat) : (readFlag? depth).Takes values := by
  refine takes_peek fun shape text rest => ?_
  dsimp only
  split
  · exact takesFrom_accept fun _ isOk =>
      (takesFrom_word isOk).andNothing fun _ => takes_pure _
  · exact takesFrom_accept fun _ isOk =>
      (takesFrom_word isOk).andNothing fun _ => takes_pure _
  · refine takesFrom_accept fun word isOk =>
      (takesFrom_string (Or.inl isOk)).andNothing fun _ => ?_
    cases flagOfWord? word with
    | some value => exact takes_pure _
    | none => exact fun _ => takesFrom_fail
  · exact takesFrom_of_fails fun _ _ => ⟨_, rfl⟩

theorem takes_fields : ∀ field ∈ fields, ∀ depth, (field.read depth).Takes values := by
  have flag (key : String) (set : Option Bool → RawOptions → RawOptions) (depth : Nat) :
      ((flagField key set).read depth).Takes values :=
    (takes_readFlag? depth).map set
  simp only [fields, List.forall_mem_cons]
  exact ⟨takes_text _ _, takes_text _ _, flag _ _, flag _ _, List.forall_mem_nil _⟩

end RawOptions

namespace Config

theorem takes_fields : ∀ field ∈ fields, ∀ depth, (field.read depth).Takes values := by
  simp only [fields, List.forall_mem_cons]
  refine ⟨takes_text _ _, fun depth => ?_, List.forall_mem_nil _⟩
  have options := takes_readRecord false RawOptions.blank depth RawOptions.takes_fields
  exact (takes_readOptional options).andNothing fun _ => takes_pure _

/-- A text is accepted, as a certain configuration, exactly if it is a loose spelling of a JSON
document that is accepted as this configuration: with blanks and comments between the lexemes and
comments in one line within words and numbers, with commas before closing brackets, and with a
last comment that may be left open.  A comment counts for its line ends, whatever becomes of the
text. -/
theorem parse_eq_ok_iff (text : Text) (config : Config) :
    (parse text = .ok config ↔
      ∃ (document : Document) (lexemes : List Lexeme), Jsonc.Spelled lexemes text ∧
        withoutTrailing lexemes = document.lexemes false ∧ parse document.text = .ok config) ∧
    ∀ (front rest : Text) (trivium : Jsonc.Trivium), Jsonc.Outside front →
      text = front ++ (trivium.text ++ rest) →
        parse text = parse (front ++ (trivium.left ++ rest)) := by
  have steady := steady_readRecord false blank depthLimit steady_fields
  have takes := takes_readRecord false blank depthLimit takes_fields
  have same {document : Document} (spaced : Spaced (document.lexemes false) (Jsonc.strip text)) :
      (parse text).mapError Error.trouble = (parse document.text).mapError Error.trouble := by
    have plain := spaced_flatMap (document.lexemes false)
    rw [parse, parse, Jsonc.strip_document]
    exact spaced.decode_eq plain (document.apart false) steady
  have ok_of_same {first second : Except Error Config} (accepted : first = .ok config)
      (same : first.mapError Error.trouble = second.mapError Error.trouble) :
      second = .ok config := by
    subst accepted
    cases second with
    | error error => cases same
    | ok other => exact congrArg Except.ok (Except.ok.inj same).symm
  refine ⟨⟨fun accepted => ?_, ?_⟩, ?_⟩
  · obtain ⟨document, spaced⟩ := exists_document_of_decode takes accepted
    obtain ⟨lexemes, spelled, kept⟩ := Jsonc.exists_spelled spaced
    exact ⟨document, lexemes, spelled, kept, ok_of_same accepted (same spaced)⟩
  · rintro ⟨document, lexemes, spelled, kept, accepted⟩
    have spaced := spelled.spaced_strip
    rw [kept] at spaced
    exact ok_of_same accepted (same spaced).symm
  · rintro front rest trivium outside rfl
    rw [parse, parse, outside.strip_eq]

theorem parse_eq_ok_iff_glued :
    Jsonc.Outside "\x7b\"extends\":nu".toList ∧
      parse "\x7b\"extends\":nu/**/ll\x7d".toList = parse "\x7b\"extends\":null\x7d".toList := by
  have outside : Jsonc.Outside "\x7b\"extends\":nu".toList := by
    intro rest
    simp [Jsonc.dropComments, Jsonc.dropCommentsString]
  have unclosed : ¬ ['*', '/'] <:+: ([] : Text) := by decide
  have glued := (parse_eq_ok_iff "\x7b\"extends\":nu/**/ll\x7d".toList blank).2
    "\x7b\"extends\":nu".toList "ll\x7d".toList (.block [] unclosed) outside rfl
  exact ⟨outside, glued⟩

/-- A word with a comment in it is accepted, although it is none with a blank in place of the
comment.  A comma alone in brackets and a comment that is left open are accepted as well. -/
theorem parse_no_json :
    parse "\x7b\"extends\":nu/**/ll\x7d".toList = .ok ⟨none, none⟩ ∧
      parse "\x7b\"extends\":nu ll\x7d".toList = .error (.malformed 1) ∧
      parse "\x7b,\x7d".toList = .ok ⟨none, none⟩ ∧
      parse "[,]".toList = .ok ⟨none, none⟩ ∧
      parse "\x7b\x7d /* ".toList = .ok ⟨none, none⟩ := by
  decide +kernel

end Config

end Relink
