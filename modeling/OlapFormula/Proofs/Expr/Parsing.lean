import OlapFormula.Proofs.Expr.Complete
import OlapFormula.Proofs.Expr.Sound

/-!
# The parser and the grammar

A text is parsed as the expression that its words derive, and words derive at most one.
-/

namespace OlapFormula.Expr

open Lexeme (word)

/-- The grammar is unambiguous: the reader of the rule would find both expressions. -/
theorem Derives.unique {rule : Rule} {ws : List Word} {e e' : Expr} (h : Derives rule ws e)
    (h' : Derives rule ws e') : e = e' := by
  let ls : List Lexeme := ws.map fun w => ⟨w.1, 0, w.2⟩
  have hls : ls.map word = ws := by simp [ls, word, Function.comp_def]
  have hcloses : Closes rule.level [] := closes_nil.mono (by cases rule <;> decide)
  obtain ⟨d, hd⟩ := h.isRead
  obtain ⟨d', hd'⟩ := h'.isRead
  have hread := hd.reads 0 0 ws.length ls [] hd.depth_le hls hcloses
  have hread' := hd'.reads 0 0 ws.length ls [] hd'.depth_le hls hcloses
  exact (Prod.mk.inj (Except.ok.inj (hread.symm.trans hread'))).1

/-- The parser accepts exactly the formulas of the grammar, and finds what they derive, if the limits
allow for as many levels as there are lexemes. -/
theorem parse_iff_derives (limits : NestingLimits) (text : String)
    (hdepth : (Lexeme.scan text.toList).length ≤ limits.depth)
    (hheight : (Lexeme.scan text.toList).length ≤ limits.height) :
    (∀ e, parse limits text = .ok e ↔ Derives .disjunction (Lexeme.words text.toList) e) ∧
      ∀ e e', Derives .disjunction (Lexeme.words text.toList) e →
        Derives .disjunction (Lexeme.words text.toList) e' → e = e' := by
  refine ⟨fun e => ⟨derives_of_parse, fun h => h.parse hdepth hheight⟩, ?_⟩
  exact fun e e' h h' => h.unique h'

/-- Names of operators are names of calls where an operand stands, and `NOT` alone is no operand. -/
theorem parse_iff_derives_of_keywords :
    Derives .disjunction (Lexeme.words "in(+1) Not In \x7b-2 ^ 2\x7d or not and()".toList)
        (.binary .or
          (.binary .notIn (.call "IN" [.number "1"])
            (.list [.binary .power (.unary .negate (.number "2")) (.number "2")]))
          (.unary .not (.call "AND" []))) ∧
      ∀ e, ¬Derives .disjunction (Lexeme.words "1 = NOT 2".toList) e := by
  constructor
  · have hlength :
        (Lexeme.scan "in(+1) Not In \x7b-2 ^ 2\x7d or not and()".toList).length ≤ 20 := by
      decide +kernel
    exact ((parse_iff_derives ⟨20, 20⟩ _ hlength hlength).1 _).mp rfl
  · intro e h
    have hlength : (Lexeme.scan "1 = NOT 2".toList).length ≤ 20 := by decide +kernel
    have hparse := ((parse_iff_derives ⟨20, 20⟩ _ hlength hlength).1 e).mpr h
    have herror : parse ⟨20, 20⟩ "1 = NOT 2" = .error (.problemAt 4 (.unknownIdentifier "NOT")) := rfl
    rw [herror] at hparse
    contradiction

end OlapFormula.Expr
