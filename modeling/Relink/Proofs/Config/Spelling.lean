import Relink.Config.Basic
import Relink.Proofs.Jsonc.Spelling

/-!
# Configuration files with comments

What a configuration file says is what its JSON document says, wherever blanks and comments
stand between the tokens and whether commas trail the last members or not.
-/

namespace Relink

open Json Json.Reader

namespace RawOptions

theorem steady_readFlag? (depth : Nat) : Steady (readFlag? depth) := by
  have refused : Steady (α := Option Bool) (do
      Json.pass (.kept depth)
      unfit none) :=
    (steady_pass _).steadily fun _ => steady_unfit none
  refine agree_peek.bind fun {token token'} same => ?_
  cases same with
  | word value sameSpelled =>
      cases value <;> exact (agree_accept sameSpelled).steadily fun _ =>
        steady_advance.steadily fun _ => steady_pure _
  | quoted sameKept sameSkipped =>
      refine (agree_accept sameKept).steadily fun word => ?_
      refine steady_advance.steadily fun _ => ?_
      cases flagOfWord? word with
      | some value => exact steady_pure _
      | none => exact steady_unfit _
  | _ => exact refused

theorem steady_flagField (key : String) (set : Option Bool → RawOptions → RawOptions)
    (depth : Nat) : Steady ((flagField key set).read depth) :=
  Agree.map (steady_readFlag? depth) set

theorem steady_fields : ∀ field ∈ fields, ∀ depth, Steady (field.read depth) := by
  simp only [fields, List.forall_mem_cons]
  exact ⟨steady_text _ _, steady_text _ _, steady_flagField _ _, steady_flagField _ _,
    List.forall_mem_nil _⟩

end RawOptions

namespace Config

theorem steady_fields : ∀ field ∈ fields, ∀ depth, Steady (field.read depth) := by
  simp only [fields, List.forall_mem_cons]
  refine ⟨steady_text _ _, fun depth => ?_, List.forall_mem_nil _⟩
  have options := steady_readRecord false RawOptions.blank depth RawOptions.steady_fields
  exact (steady_readOptional options).steadily fun _ => steady_pure _

/-- A configuration is the same however its document is spelled: with any blanks and comments
between its tokens, and with or without commas behind the last members.  Where it is none, it
is none for the same reason.  It is what the plain document is decoded to. -/
theorem parse_spell (document : Document) (gaps : Nat → Jsonc.Gap) (ending : Jsonc.Ending) :
    (parse (Jsonc.spell gaps ending (document.lexemes true))).mapError Error.trouble =
        (parse document.text).mapError Error.trouble ∧
      parse document.text =
        decode (readRecord fields false blank depthLimit) document.text := by
  have steady := steady_readRecord false blank depthLimit steady_fields
  have plain : parse document.text =
      decode (readRecord fields false blank depthLimit) document.text := by
    rw [parse, Jsonc.strip_document]
  refine ⟨?_, plain⟩
  rw [plain]
  exact Jsonc.decode_strip_spell steady document true gaps ending

example :
    parse "\x7b \"extends\": \"a//b\" /* \" */ , // last\n \x7d //".toList =
      .ok ⟨some "a//b".toList, none⟩ := by
  decide +kernel

end Config

end Relink
