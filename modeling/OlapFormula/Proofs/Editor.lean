import OlapFormula.Editor
import OlapFormula.Proofs.Presentation.Guard

/-!
# What the editor says about canonical text

The editor looks at text as it is shown. With the canonical separators this is the text itself. With a
decimal comma a semicolon is read back as a comma, and a number that ends with a point ends with a comma when
it is shown, which the guard takes for a misplaced one; about all other text the editor and the compiler
agree.
-/

namespace OlapFormula

namespace Compiler

variable {compiler : Compiler} {editing : Option String} {text : String}

lemma exists_parse_of_validate (h : Message.hasErrors (compiler.validate editing text) = false) :
    ∃ e, Expr.parse compiler.settings.limits text = .ok e := by
  unfold validate run at h
  cases hparse : Expr.parse compiler.settings.limits text with
  | ok e => exact ⟨e, rfl⟩
  | error e =>
    rw [hparse] at h
    cases e <;> cases h

/-- Text without errors is made of regular lexemes. -/
lemma isRegular_of_validate (h : Message.hasErrors (compiler.validate editing text) = false) :
    ∀ lexeme ∈ Lexeme.scan text.toList, lexeme.kind.IsRegular := by
  obtain ⟨e, hparse⟩ := exists_parse_of_validate h
  exact fun lexeme hmem => (Expr.derives_of_parse hparse).isRegular lexeme.word (List.mem_map_of_mem hmem)

/-- Shown text has no errors if and only if the guard is silent and there are none in what it is read as. -/
lemma hasErrors_validateDisplay {display : String} :
    Message.hasErrors (compiler.validateDisplay editing display) = false ↔
      compiler.checkSeparators display = [] ∧
        Message.hasErrors (compiler.validate editing (compiler.toCanonical display)) = false := by
  have hguard : Message.hasErrors (compiler.checkSeparators display) = false ↔
      compiler.checkSeparators display = [] := Presentation.hasErrors_checkSeparators
  unfold validateDisplay
  dsimp only
  rw [← hguard]
  by_cases herrors : Message.hasErrors (compiler.checkSeparators display) = true
  · simp [herrors]
  · simp [herrors]

/-- With the canonical separators it makes no difference whether text is looked at as it is shown. -/
lemma hasErrors_validateDisplay_canonical (hlocale : compiler.settings.locale = .canonical) :
    Message.hasErrors (compiler.validateDisplay editing text) =
      Message.hasErrors (compiler.validate editing text) := by
  have hback : compiler.toCanonical text = text := by
    rw [toCanonical, hlocale]
    exact String.ofList_toList
  rw [Bool.eq_iff_iff, ← not_iff_not, Bool.not_eq_true, Bool.not_eq_true, hasErrors_validateDisplay, hback]
  refine ⟨And.right, fun h => ⟨?_, h⟩⟩
  rw [checkSeparators, hlocale]
  exact Presentation.checkSeparators_canonical
    (Presentation.ne_semicolon_of_isRegular (isRegular_of_validate h))

/-- With a decimal comma, text that is read back as it was is found fault with if the compiler does so or
if a number ends with its point. -/
lemma hasErrors_validateDisplay_comma (hlocale : compiler.settings.locale = .comma)
    (hback : compiler.toCanonical (compiler.toDisplay text) = text) :
    Message.hasErrors (compiler.validateDisplay editing (compiler.toDisplay text)) = false ↔
      Message.hasErrors (compiler.validate editing text) = false ∧
        Presentation.HasPlainPoints text.toList := by
  have hcs : Presentation.toCanonical .comma (Presentation.toDisplay .comma text.toList) = text.toList := by
    rw [← String.toList_inj, toCanonical, toDisplay, hlocale] at hback
    simpa only [String.toList_ofList] using hback
  have hguard : compiler.checkSeparators (compiler.toDisplay text) =
      Presentation.checkSeparators .comma (Presentation.toDisplay .comma text.toList) := by
    rw [checkSeparators, toDisplay, hlocale, String.toList_ofList]
  rw [hasErrors_validateDisplay, hback, hguard, and_comm]
  refine and_congr_right fun h => ⟨fun hsilent => ?_, fun hpoints => ?_⟩
  · exact Presentation.hasPlainPoints_of_checkSeparators (isRegular_of_validate h) hcs hsilent
  · exact (Presentation.checkSeparators_toDisplay (isRegular_of_validate h) hpoints).2

end Compiler

namespace Editor

lemma validate_setCanonical (editor : Editor) (text : String) :
    (editor.setCanonical text).validate =
      editor.compiler.validateDisplay editor.editing (editor.compiler.toDisplay text) := rfl

/-- With the canonical separators the editor finds errors where the compiler does. With a decimal comma it
finds errors where the compiler does when semicolons are commas, and where a number has a point without a
digit after it. -/
theorem hasErrors_validate_setCanonical (editor : Editor) (text : String) :
    (editor.compiler.settings.locale = .canonical →
      Message.hasErrors (editor.setCanonical text).validate =
        Message.hasErrors (editor.compiler.validate editor.editing text)) ∧
    (editor.compiler.settings.locale = .comma →
      let read := String.ofList (Presentation.withCommas text.toList)
      (Message.hasErrors (editor.setCanonical text).validate = true ↔
        Message.hasErrors (editor.compiler.validate editor.editing read) = true ∨
          ¬Presentation.HasPlainPoints read.toList) ∧
      ((∀ p ∈ Presentation.exposure text.toList, p.2 → p.1 ≠ ';') → read = text)) := by
  rw [validate_setCanonical]
  refine ⟨fun hlocale => ?_, fun hlocale => ⟨?_, fun h => ?_⟩⟩
  · have hshown : editor.compiler.toDisplay text = text := by
      rw [Compiler.toDisplay, hlocale]
      exact String.ofList_toList
    rw [hshown, Compiler.hasErrors_validateDisplay_canonical hlocale]
  · set read := String.ofList (Presentation.withCommas text.toList) with hread
    have hshown : editor.compiler.toDisplay read = editor.compiler.toDisplay text := by
      rw [Compiler.toDisplay, Compiler.toDisplay, hlocale, hread, String.toList_ofList,
        Presentation.toDisplay_withCommas]
    have hback : editor.compiler.toCanonical (editor.compiler.toDisplay read) = read := by
      rw [hshown, Compiler.toDisplay, Compiler.toCanonical, hlocale, String.toList_ofList,
        Presentation.toCanonical_toDisplay]
    rw [← hshown, ← not_iff_not, not_or, not_not, Bool.not_eq_true, Bool.not_eq_true,
      Compiler.hasErrors_validateDisplay_comma hlocale hback]
  · rw [Presentation.withCommas_eq_self h, String.ofList_toList]

/-- In both locales a point with digits after it is nothing to complain about. -/
theorem hasErrors_validate_setCanonical_of_points :
    let model : Model := .ofMembers .hana [] [{ id := "Sales" }]
    let canonical : Editor := { compiler := { settings := { locale := .canonical }, model } }
    let comma : Editor := { compiler := { settings := { locale := .comma }, model } }
    let text := "MAX([Sales], 1.5, \"a;b\")"
    Message.hasErrors (canonical.setCanonical text).validate =
        Message.hasErrors (canonical.compiler.validate none text) ∧
      (∀ p ∈ Presentation.exposure text.toList, p.2 → p.1 ≠ ';') ∧
      (Message.hasErrors (comma.setCanonical text).validate = true ↔
        Message.hasErrors (comma.compiler.validate none text) = true ∨
          ¬Presentation.HasPlainPoints text.toList) := by
  intro model canonical comma text
  have hcommas : ∀ p ∈ Presentation.exposure text.toList, p.2 → p.1 ≠ ';' := by decide +kernel
  obtain ⟨hiff, hread⟩ := (hasErrors_validate_setCanonical comma text).2 rfl
  rw [hread hcommas] at hiff
  exact ⟨(hasErrors_validate_setCanonical canonical text).1 rfl, hcommas, hiff⟩

/-- With a decimal comma the editor rejects `1.`, which is compiled, and accepts a semicolon, which is not. -/
theorem exists_disagreement :
    let model : Model := .ofMembers .hana [] []
    let editor : Editor := { compiler := { settings := { locale := .comma }, model } }
    (Message.hasErrors (editor.setCanonical "1.").validate = true ∧
        Message.hasErrors (editor.compiler.validate editor.editing "1.") = false) ∧
      Message.hasErrors (editor.setCanonical "MAX(1; 2)").validate = false ∧
        Message.hasErrors (editor.compiler.validate editor.editing "MAX(1; 2)") = true := by
  decide +kernel

end Editor

end OlapFormula
