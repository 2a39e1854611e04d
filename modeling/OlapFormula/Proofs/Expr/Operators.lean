import OlapFormula.Proofs.Expr.Reading

/-!
# Operators between operands

The reader of a rule sees the operators of the rule, and an operator ends the operand before it: no rule
further in has it. So in a place where an operator may stand, `AND`, `IN` and `NOT` are no names of calls.
-/

namespace OlapFormula.Expr

open Lexeme (word)

lemma kind_of_isKeyword {keyword : String} {lexeme : Lexeme} (h : lexeme.isKeyword keyword) :
    lexeme.kind = .identifier := by
  simp only [Lexeme.isKeyword, Bool.and_eq_true, beq_iff_eq] at h
  exact h.1

/-- A lexeme is not two keywords. -/
lemma isKeyword_eq_false {keyword other : String} {lexeme : Lexeme} (h : lexeme.isKeyword keyword)
    (hne : Text.lowerAscii keyword.toList ≠ Text.lowerAscii other.toList) :
    lexeme.isKeyword other = false := by
  simp only [Lexeme.isKeyword, Text.equalIgnoringCase, Bool.and_eq_true, beq_iff_eq] at h
  simp [Lexeme.isKeyword, Text.equalIgnoringCase, h.1, h.2, hne]

namespace Rule

/-- The number of the rule among the levels of precedence. -/
def level : Rule → Nat
  | disjunction => 1
  | conjunction => 2
  | negation => 3
  | comparison => 4
  | sum => 5
  | product => 6
  | power => 7
  | signed => 8
  | primary => 9

lemma isChain_level {rule next : Rule} (h : rule.operand? = some next) :
    isChain rule.level ∧ next.level = rule.level + 1 := by
  cases rule <;> cases h <;> exact ⟨rfl, rfl⟩

lemma HasOperator.ne_nil {rule : Rule} {vs : List Word} {op : BinaryOperator}
    (h : rule.HasOperator vs op) : vs ≠ [] := by
  cases h <;> exact List.cons_ne_nil _ _

lemma HasOperator.isChain {rule : Rule} {vs : List Word} {op : BinaryOperator}
    (h : rule.HasOperator vs op) : isChain rule.level := by
  cases h <;> rfl

end Rule

lemma closes_identifier {lexeme : Lexeme} (h : lexeme.kind = .identifier) (ls : List Lexeme) :
    Closes 5 (lexeme :: ls) := by
  have hcloses : Closes 8 (lexeme :: ls) := closes_of_ne_leftParen (by simp [h]) ls
  obtain ⟨kind, start, chars⟩ := lexeme
  cases h
  exact ((hcloses.ofSucc rfl).ofSucc rfl).ofSucc rfl

lemma comparisonOperator_identifier {lexeme : Lexeme} (h : lexeme.kind = .identifier)
    (ls : List Lexeme) : comparisonOperator (lexeme :: ls) =
      if lexeme.isKeyword "IN" then some (.isIn, ls)
      else if lexeme.isKeyword "NOT" && startsWithWord "IN" ls then some (.notIn, ls.tail)
      else none := by
  obtain ⟨kind, start, chars⟩ := lexeme
  cases h
  rfl

/-- A word that is no membership ends comparisons. -/
lemma closes_word {lexeme : Lexeme} (hkind : lexeme.kind = .identifier)
    (hin : lexeme.isKeyword "IN" = false) (hnot : lexeme.isKeyword "NOT" = false) (ls : List Lexeme) :
    Closes 3 (lexeme :: ls) := by
  have hcomparison : operatorAt 4 (lexeme :: ls) = none := by
    simp [operatorAt, comparisonOperator_identifier hkind, hin, hnot]
  exact ((closes_identifier hkind ls).ofSucc hcomparison).ofSucc rfl

/-- The reader of a rule sees its operators, and they end what stands before them. -/
lemma operatorAt_of_hasOperator {rule : Rule} {vs : List Word} {op : BinaryOperator}
    (h : rule.HasOperator vs op) {ls : List Lexeme} (hls : ls.map word = vs) (rest : List Lexeme) :
    operatorAt rule.level (ls ++ rest) = some (op, rest) ∧ Closes (rule.level + 1) (ls ++ rest) := by
  cases h
  case or w hw =>
    obtain ⟨start, rfl⟩ := exists_word hls
    have hor : Lexeme.isKeyword ⟨w.1, start, w.2⟩ "OR" := hw
    have hand : Lexeme.isKeyword ⟨w.1, start, w.2⟩ "AND" = false := isKeyword_eq_false hor (by decide)
    have hcloses : Closes 3 (⟨w.1, start, w.2⟩ :: rest) := closes_word (kind_of_isKeyword hor)
      (isKeyword_eq_false hor (by decide)) (isKeyword_eq_false hor (by decide)) rest
    exact ⟨if_pos hor, hcloses.ofSucc (if_neg (by simp [startsWithWord, hand]))⟩
  case and w hw =>
    obtain ⟨start, rfl⟩ := exists_word hls
    have hand : Lexeme.isKeyword ⟨w.1, start, w.2⟩ "AND" := hw
    exact ⟨if_pos hand, closes_word (kind_of_isKeyword hand) (isKeyword_eq_false hand (by decide))
      (isKeyword_eq_false hand (by decide)) rest⟩
  case isIn w hw =>
    obtain ⟨start, rfl⟩ := exists_word hls
    have hin : Lexeme.isKeyword ⟨w.1, start, w.2⟩ "IN" := hw
    have hkind := kind_of_isKeyword hin
    exact ⟨(comparisonOperator_identifier hkind rest).trans (if_pos hin),
      closes_identifier hkind rest⟩
  case notIn w v hw hv =>
    obtain ⟨⟨kind, start, chars⟩, ls, rfl, rfl, rfl, hnext⟩ := exists_lexeme hls
    obtain ⟨next, rfl⟩ := exists_word hnext
    have hnot : Lexeme.isKeyword ⟨w.1, start, w.2⟩ "NOT" := hw
    have hin : Lexeme.isKeyword ⟨w.1, start, w.2⟩ "IN" = false :=
      isKeyword_eq_false hnot (by decide)
    have hnext : startsWithWord "IN" (⟨v.1, next, v.2⟩ :: rest) = true := hv
    have hkind := kind_of_isKeyword hnot
    refine ⟨(comparisonOperator_identifier hkind _).trans ?_, closes_identifier hkind _⟩
    simp [hin, hnot, hnext]
  case equal w hw | notEqual w hw | less w hw | lessEqual w hw | greater w hw | greaterEqual w hw =>
    obtain ⟨start, rfl⟩ := exists_word hls
    obtain ⟨kind, chars⟩ := w
    obtain rfl : kind = _ := hw
    exact ⟨rfl, (((closes_of_ne_leftParen (by simp) rest).ofSucc rfl).ofSucc rfl).ofSucc rfl⟩
  case add w hw | subtract w hw =>
    obtain ⟨start, rfl⟩ := exists_word hls
    obtain ⟨kind, chars⟩ := w
    obtain rfl : kind = _ := hw
    exact ⟨rfl, ((closes_of_ne_leftParen (by simp) rest).ofSucc rfl).ofSucc rfl⟩
  case multiply w hw | divide w hw =>
    obtain ⟨start, rfl⟩ := exists_word hls
    obtain ⟨kind, chars⟩ := w
    obtain rfl : kind = _ := hw
    exact ⟨rfl, (closes_of_ne_leftParen (by simp) rest).ofSucc rfl⟩

end OlapFormula.Expr
