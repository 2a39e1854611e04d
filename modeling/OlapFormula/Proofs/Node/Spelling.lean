import Mathlib.Data.List.Forall2
import Mathlib.Tactic.Choose
import OlapFormula.Node.Printer
import OlapFormula.Proofs.Decimal.Spelling
import OlapFormula.Proofs.Expr.Operators
import OlapFormula.Proofs.Node.Expression
import OlapFormula.Proofs.Node.Nesting

/-!
# Words of operators, constants and restricted measures

Each of them is read as the expression that it stands for.
-/

namespace OlapFormula

open Lexeme OlapFormula.Expr

/-- The words of an operator between two operands. -/
def FunctionKind.words : FunctionKind → List Word
  | add => [(.plus, ['+'])]
  | subtract => [(.minus, ['-'])]
  | multiply => [(.star, ['*'])]
  | divide => [(.slash, ['/'])]
  | power => [(.caret, ['^'])]
  | equal => [(.equal, ['='])]
  | notEqual => [(.notEqual, ['!', '='])]
  | less => [(.less, ['<'])]
  | lessEqual => [(.lessEqual, ['<', '='])]
  | greater => [(.greater, ['>'])]
  | greaterEqual => [(.greaterEqual, ['>', '='])]
  | isIn => [(.identifier, ['I', 'N'])]
  | notIn => [(.identifier, ['N', 'O', 'T']), (.identifier, ['I', 'N'])]
  | and => [(.identifier, ['A', 'N', 'D'])]
  | or => [(.identifier, ['O', 'R'])]
  | _ => []

lemma words_name_space (cs : List Char) (h : isName cs) (rest : List Char) :
    Lexeme.words (cs ++ ' ' :: rest) = (.identifier, cs) :: Lexeme.words rest := by
  rw [spells_name h _ (delimited_cons (by decide) rest), words_space]
  rfl

lemma words_mark_space {c : Char} {kind : LexemeKind} (body : List Char)
    (hc : Text.isBlank c = false) (rest : List Char)
    (h : classify c (body ++ ' ' :: rest) = (kind, 1 + body.length)) :
    Lexeme.words (c :: (body ++ ' ' :: rest)) = (kind, c :: body) :: Lexeme.words rest := by
  rw [words_lexeme body hc h, words_space]

lemma words_symbol {kind : FunctionKind} {symbol : String} {p : Nat} {ra : Bool}
    (h : kind.spelling = .between symbol p ra) (rest : List Char) :
    Lexeme.words (symbol.toList ++ ' ' :: rest) = kind.words ++ Lexeme.words rest := by
  cases kind <;> simp only [FunctionKind.spelling, Spelling.between.injEq, reduceCtorEq] at h
  all_goals obtain ⟨rfl, rfl, rfl⟩ := h
  case or => exact words_name_space ['O', 'R'] (by decide) rest
  case and => exact words_name_space ['A', 'N', 'D'] (by decide) rest
  case isIn => exact words_name_space ['I', 'N'] (by decide) rest
  case notIn =>
    have hnot := words_name_space ['N', 'O', 'T'] (by decide) ('I' :: 'N' :: ' ' :: rest)
    have hin := words_name_space ['I', 'N'] (by decide) rest
    exact hnot.trans (congrArg _ hin)
  case notEqual | lessEqual | greaterEqual =>
    exact words_mark_space ['='] (by decide) rest rfl
  all_goals exact words_mark_space [] (by decide) rest rfl

/-- The operator is one of a rule that reads from left to right. -/
lemma FunctionKind.exists_rule {kind : FunctionKind} {symbol : String} {p : Nat} {op : BinaryOperator}
    (h : kind.spelling = .between symbol p false) (hop : kind.binaryOperator? = some op) :
    ∃ rule : Rule, rule.level = p ∧ rule.HasOperator kind.words op := by
  cases kind <;> simp only [FunctionKind.spelling, Spelling.between.injEq, reduceCtorEq] at h
  all_goals
    obtain ⟨-, rfl, hra⟩ := h
    obtain rfl := Option.some.inj hop
  case or => exact ⟨.disjunction, rfl, .or (by decide)⟩
  case and => exact ⟨.conjunction, rfl, .and (by decide)⟩
  case equal => exact ⟨.comparison, rfl, .equal rfl⟩
  case notEqual => exact ⟨.comparison, rfl, .notEqual rfl⟩
  case less => exact ⟨.comparison, rfl, .less rfl⟩
  case lessEqual => exact ⟨.comparison, rfl, .lessEqual rfl⟩
  case greater => exact ⟨.comparison, rfl, .greater rfl⟩
  case greaterEqual => exact ⟨.comparison, rfl, .greaterEqual rfl⟩
  case isIn => exact ⟨.comparison, rfl, .isIn (by decide)⟩
  case notIn => exact ⟨.comparison, rfl, .notIn (by decide) (by decide)⟩
  case add => exact ⟨.sum, rfl, .add rfl⟩
  case subtract => exact ⟨.sum, rfl, .subtract rfl⟩
  case multiply => exact ⟨.product, rfl, .multiply rfl⟩
  case divide => exact ⟨.product, rfl, .divide rfl⟩
  case power => cases hra

lemma spells_between {kind : FunctionKind} {symbol : String} {p : Nat} {ra : Bool}
    (h : kind.spelling = .between symbol p ra) {left right : String} {ws us : List Word}
    (hleft : Spells left.toList ws) (hright : Spells right.toList us) :
    Spells (left ++ " " ++ symbol ++ " " ++ right).toList (ws ++ kind.words ++ us) := by
  intro rest hrest
  have hchars : (left ++ " " ++ symbol ++ " " ++ right).toList ++ rest =
      left.toList ++ ' ' :: (symbol.toList ++ ' ' :: (right.toList ++ rest)) := by simp
  rw [hchars, hleft _ (delimited_cons (by decide) _), words_space, words_symbol h, hright rest hrest]
  simp

lemma spells_bracketed {opening closing : Char} {kind kind' : LexemeKind} (hopening : IsSymbol opening kind)
    (hclosing : IsSymbol closing kind') (hends : closing ∈ [' ', ',', '(', ')', '\x7d'])
    {cs : List Char} {ws : List Word} (h : Spells cs ws) :
    Spells (opening :: (cs ++ [closing])) ((kind, [opening]) :: (ws ++ [(kind', [closing])])) := by
  intro rest _
  rw [List.cons_append, hopening.words_cons, List.append_assoc, List.singleton_append,
    h _ (delimited_cons hends rest), hclosing.words_cons]
  simp

lemma spells_call {name cs : List Char} {ws : List Word} (hname : isName name) (h : Spells cs ws) :
    Spells (name ++ '(' :: (cs ++ [')']))
      ((.identifier, name) :: (.leftParen, ['(']) :: (ws ++ [(.rightParen, [')'])])) := by
  intro rest hrest
  have hparens := spells_bracketed isSymbol_leftParen isSymbol_rightParen (by decide) h rest hrest
  rw [List.cons_append] at hparens
  rw [List.append_assoc, List.cons_append,
    spells_name hname _ (delimited_cons (by decide) _), hparens]
  rfl

lemma spells_joined {texts : List String} {wss : List (List Word)}
    (h : List.Forall₂ (fun text ws => Spells text.toList ws) texts wss) :
    Spells (Text.joined ", " texts).toList (listWords wss) := by
  induction h with
  | nil => exact spells_nil
  | @cons text ws texts wss hws hwss ih =>
    cases hwss with
    | nil => simpa [Text.joined, listWords] using hws
    | @cons text' ws' texts wss _ _ =>
      intro rest hrest
      have hchars : (Text.joined ", " (text :: text' :: texts)).toList ++ rest =
          text.toList ++ ',' :: ' ' :: ((Text.joined ", " (text' :: texts)).toList ++ rest) := by
        simp [Text.joined]
      rw [hchars, hws _ (delimited_cons (by decide) _), isSymbol_comma.words_cons, words_space,
        ih rest hrest]
      simp [listWords]

/-- Words for every text of a list, and the words of the whole list. -/
lemma exists_listWords {α : Type} {xs : List α} {text : α → String} {R : α → List Word → Prop}
    (h : ∀ x ∈ xs, ∃ ws, Spells (text x).toList ws ∧ R x ws) :
    ∃ words : α → List Word,
      Spells (Text.joined ", " (xs.map text)).toList (listWords (xs.map words)) ∧
        ∀ x ∈ xs, R x (words x) := by
  choose! words hwords using h
  exact ⟨words, spells_joined (forall₂_map fun x hx => (hwords x hx).1), fun x hx => (hwords x hx).2⟩

/-! ## Texts and their nesting -/

/-- The text is read as the expression wherever an operand of precedence `p` may stand, with room for `d`
levels of nesting and with no less. -/
def IsNested (p d : Nat) (text : String) (e : Expr) : Prop :=
  ∃ ws, Spells text.toList ws ∧ Needs p d ws e

lemma IsNested.mono {p q d : Nat} {text : String} {e : Expr} (h : IsNested q d text e) (hpq : p ≤ q) :
    IsNested p d text e := by
  obtain ⟨ws, hws, hneeds⟩ := h
  exact ⟨ws, hws, hneeds.mono hpq⟩

lemma IsNested.parens {q d : Nat} {text : String} {e : Expr} (h : IsNested q d text e) (hq : 1 ≤ q) :
    IsNested 10 (d + 1) ("(" ++ text ++ ")") e := by
  obtain ⟨ws, hws, hneeds⟩ := h
  refine ⟨_, ?_, hneeds.parens hq⟩
  simpa using spells_bracketed isSymbol_leftParen isSymbol_rightParen (by decide) hws

lemma IsNested.between {kind : FunctionKind} {symbol : String} {p : Nat} {op : BinaryOperator}
    (h : kind.spelling = .between symbol p false) (hop : kind.binaryOperator? = some op) {a b : Nat}
    {left right : String} {x y : Expr} (hleft : IsNested p a left x) (hright : IsNested (p + 1) b right y) :
    IsNested p (max a b) (left ++ " " ++ symbol ++ " " ++ right) (.binary op x y) := by
  obtain ⟨rule, rfl, hoperator⟩ := FunctionKind.exists_rule h hop
  obtain ⟨ws, hws, hx⟩ := hleft
  obtain ⟨us, hus, hy⟩ := hright
  exact ⟨_, spells_between h hws hus, hx.binary hoperator.isChain hy hoperator.ne_nil
    fun ls rest hls => operatorAt_of_hasOperator hoperator hls rest⟩

lemma IsNested.power {a b : Nat} {left right : String} {x y : Expr} (hleft : IsNested 8 a left x)
    (hright : IsNested 7 b right y) :
    IsNested 7 (max a (b + 1)) (left ++ " " ++ "^" ++ " " ++ right) (.binary .power x y) := by
  obtain ⟨ws, hws, hx⟩ := hleft
  obtain ⟨us, hus, hy⟩ := hright
  have hwords := spells_between (show FunctionKind.power.spelling = _ from rfl) hws hus
  refine ⟨_, hwords, ?_⟩
  simpa [FunctionKind.words] using hx.power hy

lemma IsNested.negate {d : Nat} {text : String} {e : Expr} (h : IsNested 8 d text e) :
    IsNested 8 (d + 1) ("-" ++ text) (.unary .negate e) := by
  obtain ⟨ws, hws, hneeds⟩ := h
  refine ⟨(.minus, ['-']) :: ws, ?_, hneeds.negate⟩
  intro rest hrest
  have hchars : ("-" ++ text).toList ++ rest = '-' :: (text.toList ++ rest) := by simp
  rw [hchars, isSymbol_minus.words_cons, hws rest hrest]
  rfl

lemma IsNested.not {d : Nat} {text : String} {e : Expr} (h : IsNested 3 d text e) :
    IsNested 3 (d + 1) ("NOT " ++ text) (.unary .not e) := by
  obtain ⟨ws, hws, hneeds⟩ := h
  refine ⟨(.identifier, ['N', 'O', 'T']) :: ws, ?_, hneeds.not (by decide)⟩
  intro rest hrest
  have hchars : ("NOT " ++ text).toList ++ rest =
      ['N', 'O', 'T'] ++ ' ' :: (text.toList ++ rest) := by simp
  rw [hchars, words_name_space _ (by decide), hws rest hrest]
  rfl

structure IsCallName (name : String) : Prop where
  is_name : isName name.toList
  no_not : isKeyword "NOT" (.identifier, name.toList) = false
  upper_eq : Text.upper name.toList = name.toList

section

variable {α : Type} {xs : List α} {text : α → String} {nesting : α → Nat} {expr : α → Expr}
  (h : ∀ x ∈ xs, IsNested 1 (nesting x) (text x) (expr x))

include h

lemma isNested_list :
    IsNested 10 (deepest (xs.map nesting) + 1) ("\x7b" ++ Text.joined ", " (xs.map text) ++ "\x7d")
      (.list (xs.map expr)) := by
  obtain ⟨words, hwords, hneeds⟩ := exists_listWords h
  refine ⟨_, ?_, needs_list hneeds⟩
  simpa using spells_bracketed isSymbol_leftBrace isSymbol_rightBrace (by decide) hwords

lemma isNested_call {name : String} (hname : IsCallName name) :
    IsNested 10 (deepest (xs.map nesting) + 1) (name ++ "(" ++ Text.joined ", " (xs.map text) ++ ")")
      (.call name (xs.map expr)) := by
  obtain ⟨words, hwords, hneeds⟩ := exists_listWords h
  have hcall := needs_call hneeds hname.no_not
  rw [hname.upper_eq, String.ofList_toList] at hcall
  refine ⟨_, ?_, hcall⟩
  simpa using spells_call hname.is_name hwords

end

lemma Decimal.isNested (a : Decimal) :
    IsNested (Node.precedence (.const (.number a))) (Literal.number a).nesting a.text a.expr := by
  have hdigits : IsNested 10 0 (String.ofList a.digits) (.number (String.ofList a.digits)) := by
    refine ⟨[(.number, a.digits)], ?_, (readable_number a.digits).needs_zero⟩
    rw [String.toList_ofList]
    exact spells_number (isNumeral_pointed _ _)
  unfold expr Node.precedence Literal.nesting
  by_cases hneg : (a.negative && !a.isZero) = true
  · have habs : a.abs.text = String.ofList a.digits := by
      rw [← String.toList_inj, text_toList, String.toList_ofList]
      rfl
    have htext : a.text = "-" ++ String.ofList a.digits := by
      rw [← String.toList_inj, text_toList, if_pos hneg]
      simp
    simp only [if_pos hneg, habs, htext]
    exact (hdigits.mono (by decide)).negate
  · have htext : a.text = String.ofList a.digits := by
      rw [← String.toList_inj, text_toList, if_neg hneg, String.toList_ofList]
    simp only [if_neg hneg, htext]
    exact hdigits

lemma isNested_keyword {text : String} {e : Expr} (hname : isName text.toList)
    (h : ofName? ⟨.identifier, 0, text.toList⟩ = some e)
    (hnot : isKeyword "NOT" (.identifier, text.toList) = false) (hheight : e.height ≤ 1) :
    IsNested 10 0 text e :=
  ⟨_, spells_name hname, (readable_name h hnot hheight).needs_zero⟩

lemma Literal.isNested (value : Literal) :
    IsNested (Node.precedence (.const value)) value.nesting value.text value.expr := by
  cases value with
  | number value => exact value.isNested
  | string value =>
    have hread := readable_string (Text.quote value.toList)
    rw [Text.unquote_quote, String.ofList_toList] at hread
    refine ⟨[(.string, Text.quote value.toList)], ?_, hread.needs_zero⟩
    simpa [text] using spells_string value.toList
  | boolean value =>
    cases value with
    | true => exact isNested_keyword (by decide) rfl rfl le_rfl
    | false => exact isNested_keyword (by decide) rfl rfl le_rfl
  | null => exact isNested_keyword (by decide) rfl rfl le_rfl

lemma FieldReference.IsWellFormed.isNested {r : FieldReference} (h : r.IsWellFormed) :
    IsNested 10 0 r.text (.field r) :=
  ⟨_, spells_field h, (readable_field (parse?_text h)).needs_zero⟩

lemma Literal.five_le_precedence (value : Literal) : 5 ≤ Node.precedence (.const value) := by
  cases value with
  | number value =>
    simp only [Node.precedence]
    split <;> decide
  | string _ => exact (by decide : 5 ≤ atomPrecedence)
  | boolean _ => exact (by decide : 5 ≤ atomPrecedence)
  | null => decide

lemma isNested_literals (values : List Literal) :
    IsNested 10 (deepest (values.map Literal.nesting) + 1)
      ("\x7b" ++ Text.joined ", " (values.map Literal.text) ++ "\x7d")
      (.list (values.map Literal.expr)) :=
  isNested_list fun value _ =>
    value.isNested.mono (le_trans (by decide) value.five_le_precedence)

lemma MemberFilter.isNested {filter : MemberFilter} (h : filter.dimension.reference.IsWellFormed) :
    IsNested 4 filter.nesting filter.text filter.expr := by
  have hdimension := h.isNested.mono (show 4 ≤ 10 by decide)
  by_cases hone : ∃ value, filter.values = [value]
  · obtain ⟨value, hvalue⟩ := hone
    have hequal := hdimension.between (show FunctionKind.equal.spelling = _ from rfl) rfl
      (value.isNested.mono value.five_le_precedence)
    have htext : filter.text = filter.dimension.reference.text ++ " " ++ "=" ++ " " ++ value.text := by
      rw [← String.toList_inj]
      simp [text, hvalue]
    rw [htext]
    simpa [nesting, expr, hvalue] using hequal
  · have hin := hdimension.between (show FunctionKind.isIn.spelling = _ from rfl) rfl
      ((isNested_literals filter.values).mono (by decide))
    have htext : filter.text = filter.dimension.reference.text ++ " " ++ "IN" ++ " " ++
        ("\x7b" ++ Text.joined ", " (filter.values.map Literal.text) ++ "\x7d") := by
      rw [← String.toList_inj]
      unfold text
      split
      · exact absurd ⟨_, ‹_›⟩ hone
      · simp
    have hnesting : filter.nesting = max 0 (deepest (filter.values.map Literal.nesting) + 1) := by
      unfold nesting
      split
      · exact absurd ⟨_, ‹_›⟩ hone
      · exact (Nat.zero_max _).symm
    have hexpr : filter.expr = .binary .isIn (.field filter.dimension.reference)
        (.list (filter.values.map Literal.expr)) := by
      unfold expr
      split
      · exact absurd ⟨_, ‹_›⟩ hone
      · rfl
    rw [htext, hnesting, hexpr]
    exact hin

lemma isCallName_restrict : IsCallName "RESTRICT" := ⟨by decide, by decide, by decide⟩

lemma RestrictedMeasure.isNested {r : RestrictedMeasure} (hbase : r.base.reference.IsWellFormed)
    (hfilters : ∀ f ∈ r.filters, f.dimension.reference.IsWellFormed) :
    IsNested 10 r.nesting r.text r.expr := by
  -- The base and the filters are the arguments of a call, each as a text, its nesting and its expression.
  let args : List (String × Nat × Expr) := (r.base.reference.text, 0, .field r.base.reference) ::
    r.filters.map fun f => (f.text, f.nesting, f.expr)
  have hargs : ∀ arg ∈ args, IsNested 1 arg.2.1 arg.1 arg.2.2 := by
    refine List.forall_mem_cons.mpr ⟨hbase.isNested.mono (by decide), ?_⟩
    exact List.forall_mem_map.mpr fun f hf => (MemberFilter.isNested (hfilters f hf)).mono (by decide)
  have hcall := isNested_call hargs isCallName_restrict
  simpa [args, nesting, text, expr, deepest_cons, Function.comp_def] using hcall

end OlapFormula
