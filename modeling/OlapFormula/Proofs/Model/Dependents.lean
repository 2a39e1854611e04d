import OlapFormula.Proofs.Expr.Sound
import OlapFormula.Proofs.Lexeme.Fields
import OlapFormula.Proofs.Model.Names

/-!
# Measures that formulas depend on

What a measure depends on is found without parsing its formula. For a formula that can be parsed these are
the measures in its expression: each once, under its id, in the order in which they come first.
-/

namespace OlapFormula

/-- The names of measures in the expression. -/
def Expr.measureNames (e : Expr) : List String := (e.fields.filter (·.kind == .measure)).map (·.id)

namespace Model

lemma withoutRepeats_eq (seen ids : List String) :
    withoutRepeats seen ids = (ids.filter fun id => !seen.contains id).eraseDups := by
  induction ids generalizing seen with
  | nil => rfl
  | cons id ids ih =>
    unfold withoutRepeats
    by_cases hseen : seen.contains id = true
    · rw [if_pos hseen, ih, List.filter_cons_of_neg (by simpa using hseen)]
    · have hlater : (fun other => !(id :: seen).contains other) =
          fun other => (!other == id) && !seen.contains other := by
        funext other
        rw [List.contains_cons, Bool.not_or]
      rw [if_neg hseen, List.filter_cons_of_pos (by simpa using hseen),
        List.eraseDups_cons, List.filter_filter, ih, hlater]

/-- Fields are found where the lexemes have them. So a measure with a formula that can be parsed depends on
the measures that the expression names. -/
theorem dependentIds_of_parse :
    (∀ cs : List Char, (FieldReference.spans cs).map (·.1) =
        ((Lexeme.scan cs).filter (·.kind == .field)).map (·.span)) ∧
      ∀ (limits : NestingLimits) (text : String) (e : Expr), Expr.parse limits text = .ok e →
        (((FieldReference.spans text.toList).filterMap (·.2)).filter (·.kind == .measure)).map (·.id) =
            e.measureNames ∧
          ∀ (model : Model) (name : String), (model.measure? name).bind (·.formula) = some text →
            model.dependentIds name = (e.measureNames.map model.measureId).eraseDups := by
  refine ⟨fun cs => ?_, fun limits text e hparse => ?_⟩
  · rw [FieldReference.spans_eq, List.map_map]
    rfl
  · have hfields : (FieldReference.spans text.toList).filterMap (·.2) = e.fields := by
      rw [FieldReference.filterMap_spans, (Expr.derives_of_parse hparse).fields_eq]
    refine ⟨by rw [hfields, Expr.measureNames], fun model name hformula => ?_⟩
    have hnew (ids : List String) : (ids.filter fun id => !([] : List String).contains id) = ids :=
      List.filter_eq_self.mpr fun _ _ => rfl
    unfold dependentIds
    rw [hformula]
    dsimp only
    rw [hfields, withoutRepeats_eq, hnew, Expr.measureNames, List.map_map]
    rfl

/-- A string with quotes and brackets in it, a measure under two names, and a name that stands for none. -/
theorem dependentIds_of_parse_of_alias :
    let model : Model := .ofMembers .hana []
      [{ id := "Sales", aliasName := some "Turnover" },
        { id := "Margin", formula := some "LENGTH(\"[x]\"\"[y\") + [Turnover] - [Cost] * [Sales]" }]
    (∃ e, Expr.parse {} "LENGTH(\"[x]\"\"[y\") + [Turnover] - [Cost] * [Sales]" = .ok e ∧
        e.measureNames = ["Turnover", "Cost", "Sales"]) ∧
      (model.measure? "Margin").bind (·.formula) =
        some "LENGTH(\"[x]\"\"[y\") + [Turnover] - [Cost] * [Sales]" ∧
      model.dependentIds "Margin" = ["Sales", "Cost"] := by
  intro model
  obtain ⟨e, hparse, hnames⟩ : ∃ e,
      Expr.parse {} "LENGTH(\"[x]\"\"[y\") + [Turnover] - [Cost] * [Sales]" = .ok e ∧
        e.measureNames = ["Turnover", "Cost", "Sales"] := ⟨_, rfl, rfl⟩
  have hformula : (model.measure? "Margin").bind (·.formula) =
      some "LENGTH(\"[x]\"\"[y\") + [Turnover] - [Cost] * [Sales]" := by decide +kernel
  have hids := (dependentIds_of_parse.2 _ _ _ hparse).2 model "Margin" hformula
  refine ⟨⟨e, hparse, hnames⟩, hformula, ?_⟩
  rw [hids, hnames]
  decide +kernel

end Model

end OlapFormula
