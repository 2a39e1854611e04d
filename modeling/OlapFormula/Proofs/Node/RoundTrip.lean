import OlapFormula.Proofs.Node.Induction
import OlapFormula.Proofs.Node.Spelling

/-!
# Formula text is read back

The text of a node is read as the expression that the node stands for.
-/

namespace OlapFormula

open Lexeme OlapFormula.Expr

lemma IsNested.inParentheses {o : Operand} {d : Nat} {e : Expr} (h : IsNested o.precedence d o.text e)
    (hpos : 1 ≤ o.precedence) {needed : Bool} {p : Nat} (hp : needed = false → p ≤ o.precedence)
    (hp10 : p ≤ 10) :
    IsNested p ((NestedOperand.mk o.precedence d).inParentheses needed) (o.inParentheses needed) e := by
  cases needed with
  | false => exact h.mono (hp rfl)
  | true => exact (h.parens hpos).mono hp10

namespace FunctionKind

lemma isCallName {kind : FunctionKind} (h : kind.spelling = .call ∨ kind = .and ∨ kind = .or) :
    IsCallName kind.name := by
  cases kind <;> simp only [spelling, reduceCtorEq, or_self, or_true, or_false] at h
  all_goals exact ⟨by decide, by decide, by decide⟩

lemma operators_of_call {kind : FunctionKind} (h : kind.spelling = .call) :
    kind.binaryOperator? = none ∧ kind.unaryOperator? = none := by
  cases kind <;> simp only [spelling, reduceCtorEq] at h
  all_goals exact ⟨rfl, rfl⟩

lemma exists_binaryOperator {kind : FunctionKind} {symbol : String} {p : Nat} {ra : Bool}
    (h : kind.spelling = .between symbol p ra) :
    (∃ op, kind.binaryOperator? = some op) ∧ kind.unaryOperator? = none := by
  cases kind <;> simp only [spelling, reduceCtorEq] at h
  all_goals exact ⟨⟨_, rfl⟩, rfl⟩

lemma precedence_le {kind : FunctionKind} {symbol : String} {p : Nat} {ra : Bool}
    (h : kind.spelling = .between symbol p ra) : p ≤ 7 := by
  cases kind <;> simp only [spelling, Spelling.between.injEq, reduceCtorEq] at h
  all_goals omega

lemma eq_power {kind : FunctionKind} {symbol : String} {p : Nat}
    (h : kind.spelling = .between symbol p true) : kind = .power ∧ symbol = "^" ∧ p = 7 := by
  cases kind <;> simp [spelling] at h
  exact ⟨rfl, h.1.symm, h.2.symm⟩

lemma one_le_precedence (kind : FunctionKind) : 1 ≤ kind.precedence := by
  cases kind <;> decide

end FunctionKind

namespace Node

lemma one_le_precedence (node : Node) : 1 ≤ node.precedence := by
  cases node with
  | const value => exact le_trans (by decide) value.five_le_precedence
  | call kind args => exact kind.one_le_precedence
  | constList _ => exact (by decide : 1 ≤ atomPrecedence)
  | dimension _ => exact (by decide : 1 ≤ atomPrecedence)
  | measure _ => exact (by decide : 1 ≤ atomPrecedence)
  | array _ => exact (by decide : 1 ≤ atomPrecedence)
  | restricted _ => exact (by decide : 1 ≤ atomPrecedence)

end Node

lemma isNested_callText_between {kind : FunctionKind} {symbol : String} {p : Nat} {ra : Bool}
    (h : kind.spelling = .between symbol p ra) {l r : Operand} {m n : Nat} {a b : Expr}
    (hleft : IsNested l.precedence m l.text a) (hleft1 : 1 ≤ l.precedence)
    (hright : IsNested r.precedence n r.text b) (hright1 : 1 ≤ r.precedence) :
    IsNested p (callNesting kind [⟨l.precedence, m⟩, ⟨r.precedence, n⟩]) (callText kind [l, r])
      (callExpr kind [a, b]) := by
  obtain ⟨⟨op, hop⟩, -⟩ := FunctionKind.exists_binaryOperator h
  have htext : callText kind [l, r] =
      l.inParentheses (l.precedence < p || (l.precedence == p && ra)) ++ " " ++ symbol ++ " " ++
        r.inParentheses (r.precedence < p || (r.precedence == p && !ra)) := by
    unfold callText
    rw [h]
  have hexpr : callExpr kind [a, b] = .binary op a b := by
    unfold callExpr
    rw [hop]
  rw [htext, hexpr]
  unfold callNesting
  simp only [h]
  have hp := FunctionKind.precedence_le h
  cases ra with
  | false =>
    apply IsNested.between h hop
    · exact hleft.inParentheses hleft1 (fun hneeded => by simpa using hneeded) (by omega)
    · exact hright.inParentheses hright1 (fun hneeded => by simp at hneeded; omega) (by omega)
  | true =>
    obtain ⟨rfl, rfl, rfl⟩ := FunctionKind.eq_power h
    obtain rfl := Option.some.inj hop
    apply IsNested.power
    · exact hleft.inParentheses hleft1 (fun hneeded => by simp at hneeded; omega) (by omega)
    · exact hright.inParentheses hright1 (fun hneeded => by simpa using hneeded) (by omega)

lemma isNested_callText_before {kind : FunctionKind} {symbol : String} {p : Nat}
    (h : kind.spelling = .before symbol p) {o : Operand} {d : Nat} {e : Expr}
    (hoperand : IsNested o.precedence d o.text e) (hpos : 1 ≤ o.precedence) :
    IsNested p (callNesting kind [⟨o.precedence, d⟩]) (callText kind [o]) (callExpr kind [e]) := by
  have htext : callText kind [o] = symbol ++ o.inParentheses (o.precedence < p) := by
    unfold callText
    rw [h]
  have hnesting : callNesting kind [⟨o.precedence, d⟩] =
      (NestedOperand.mk o.precedence d).inParentheses (o.precedence < p) + 1 := by
    unfold callNesting
    rw [h]
  rw [htext, hnesting]
  cases kind <;> simp only [FunctionKind.spelling, Spelling.before.injEq, reduceCtorEq] at h
  case negate =>
    obtain ⟨rfl, rfl⟩ := h
    exact (hoperand.inParentheses hpos (fun hneeded => by simpa using hneeded) (by omega)).negate
  case not =>
    obtain ⟨rfl, rfl⟩ := h
    exact (hoperand.inParentheses hpos (fun hneeded => by simpa using hneeded) (by omega)).not

/-- What is no operator, or has not the operands of one, is written as a call. -/
lemma callText_eq {kind : FunctionKind} {operands : List Operand}
    (h : kind.spelling = .call ∨ (kind = .and ∨ kind = .or) ∧ operands.length ≠ 2) :
    callText kind operands =
      kind.name ++ "(" ++ Text.joined ", " (operands.map (·.text)) ++ ")" := by
  unfold callText
  rcases h with h | ⟨rfl | rfl, hlength⟩
  · rw [h]
  all_goals
    split
    · exact absurd rfl hlength
    · contradiction
    · rfl

lemma callNesting_eq {kind : FunctionKind} {operands : List NestedOperand}
    (h : kind.spelling = .call ∨ (kind = .and ∨ kind = .or) ∧ operands.length ≠ 2) :
    callNesting kind operands = deepest (operands.map (·.nesting)) + 1 := by
  unfold callNesting
  rcases h with h | ⟨rfl | rfl, hlength⟩
  · rw [h]
  all_goals
    split
    · exact absurd rfl hlength
    · contradiction
    · rfl

lemma callExpr_eq {kind : FunctionKind} {es : List Expr}
    (h : kind.spelling = .call ∨ (kind = .and ∨ kind = .or) ∧ es.length ≠ 2) :
    callExpr kind es = .call kind.name es := by
  unfold callExpr
  rcases h with h | ⟨rfl | rfl, hlength⟩
  · obtain ⟨hbinary, hunary⟩ := FunctionKind.operators_of_call h
    rw [hbinary, hunary]
  · split <;> simp_all [FunctionKind.unaryOperator?]
  · split <;> simp_all [FunctionKind.unaryOperator?]

/-- The text of the node is read as its expression wherever an operand of its precedence may stand, and takes
as much room as the node nests. -/
def Node.IsRead (node : Node) : Prop := IsNested node.precedence node.nesting node.text node.expr

lemma isNested_callText {kind : FunctionKind} {args : List Node}
    (h : kind.spelling = .call ∨ (kind = .and ∨ kind = .or) ∧ args.length ≠ 2)
    (hargs : ∀ arg ∈ args, arg.IsRead) :
    IsNested 10 (callNesting kind (args.map fun node => ⟨node.precedence, node.nesting⟩))
      (callText kind (args.map fun node => ⟨node.precedence, node.text⟩))
      (callExpr kind (args.map Node.expr)) := by
  rw [callText_eq (by simpa using h), callExpr_eq (by simpa using h), callNesting_eq (by simpa using h),
    List.map_map, List.map_map]
  apply isNested_call (fun arg harg => (hargs arg harg).mono arg.one_le_precedence)
  rcases h with h | ⟨h, -⟩
  · exact FunctionKind.isCallName (Or.inl h)
  · exact FunctionKind.isCallName (Or.inr h)

lemma FunctionKind.and_or_of_takes {kind : FunctionKind} {symbol : String} {p : Nat} {ra : Bool}
    (h : kind.spelling = .between symbol p ra) {count : Nat} (htakes : kind.takes count)
    (hcount : count ≠ 2) : kind = .and ∨ kind = .or := by
  cases kind <;> simp_all [takes, spelling]

lemma FunctionKind.takes_one {kind : FunctionKind} {symbol : String} {p : Nat}
    (h : kind.spelling = .before symbol p) {count : Nat} (htakes : kind.takes count) : count = 1 := by
  cases kind <;> simp_all [takes, spelling]

lemma FunctionKind.precedence_of_call {kind : FunctionKind} (h : kind.spelling = .call) :
    kind.precedence = 10 := by
  unfold precedence
  rw [h]
  rfl

lemma FunctionKind.precedence_of_between {kind : FunctionKind} {symbol : String} {p : Nat}
    {ra : Bool} (h : kind.spelling = .between symbol p ra) : kind.precedence = p := by
  unfold precedence
  rw [h]

lemma FunctionKind.precedence_of_before {kind : FunctionKind} {symbol : String} {p : Nat}
    (h : kind.spelling = .before symbol p) : kind.precedence = p := by
  unfold precedence
  rw [h]

/-- If the operands of a call are read back, so is the call. -/
lemma isNested_node {kind : FunctionKind} {args : List Node} (htakes : kind.takes args.length)
    (hargs : ∀ arg ∈ args, arg.IsRead) :
    IsNested kind.precedence (callNesting kind (args.map fun node => ⟨node.precedence, node.nesting⟩))
      (callText kind (args.map fun node => ⟨node.precedence, node.text⟩))
      (callExpr kind (args.map Node.expr)) := by
  cases hspelling : kind.spelling with
  | call =>
    rw [FunctionKind.precedence_of_call hspelling]
    exact isNested_callText (Or.inl hspelling) hargs
  | before symbol p =>
    obtain ⟨arg, rfl⟩ := List.length_eq_one_iff.mp (FunctionKind.takes_one hspelling htakes)
    rw [FunctionKind.precedence_of_before hspelling]
    have harg := hargs arg (List.mem_singleton_self arg)
    exact isNested_callText_before hspelling (o := ⟨arg.precedence, arg.text⟩) harg
      arg.one_le_precedence
  | between symbol p ra =>
    rw [FunctionKind.precedence_of_between hspelling]
    by_cases hlength : args.length = 2
    · obtain ⟨left, right, rfl⟩ := List.length_eq_two.mp hlength
      have hleft := hargs left (by simp)
      have hright := hargs right (by simp)
      exact isNested_callText_between hspelling (l := ⟨left.precedence, left.text⟩)
        (r := ⟨right.precedence, right.text⟩) hleft left.one_le_precedence hright
        right.one_le_precedence
    · -- Only `AND` and `OR` take other numbers of operands, and are then written as calls.
      have hkind := FunctionKind.and_or_of_takes hspelling htakes hlength
      have hp := FunctionKind.precedence_le hspelling
      exact (isNested_callText (Or.inr ⟨hkind, hlength⟩) hargs).mono (by omega)

/-- The text of a node is read back. -/
theorem Node.isRead {node : Node} (h : node.Everywhere HasShape) : node.IsRead := by
  induction node using Node.induction with
  | const value => exact value.isNested
  | constList values => exact isNested_literals values
  | dimension ref =>
    obtain ⟨cs, hcs⟩ := everywhere_dimension.mp h
    exact (FieldReference.isWellFormed_of_parse? hcs).isNested
  | measure ref =>
    obtain ⟨cs, hcs⟩ := everywhere_measure.mp h
    exact (FieldReference.isWellFormed_of_parse? hcs).isNested
  | array items ih =>
    rw [everywhere_array] at h
    unfold IsRead text nesting expr
    rw [operands_eq_map, nestedOperands_eq_map, exprs_eq_map, List.map_map, List.map_map]
    exact isNested_list fun item hitem => (ih item hitem (h.2 item hitem)).mono item.one_le_precedence
  | restricted r =>
    obtain ⟨⟨cs, hcs⟩, hfilters⟩ := everywhere_restricted.mp h
    refine r.isNested (FieldReference.isWellFormed_of_parse? hcs) fun f hf => ?_
    obtain ⟨cs, hcs⟩ := hfilters f hf
    exact FieldReference.isWellFormed_of_parse? hcs
  | call kind args ih =>
    obtain ⟨htakes, hshape⟩ := everywhere_call.mp h
    unfold IsRead text nesting expr
    rw [operands_eq_map, nestedOperands_eq_map, exprs_eq_map]
    exact isNested_node htakes fun arg harg => ih arg harg (hshape arg harg)

/-- What the parser makes of the text of a node: the expression of the node, or an error that tells which of
the limits the text does not keep. -/
theorem Node.parse_text_eq {node : Node} (h : node.Everywhere HasShape) (limits : NestingLimits) :
    Expr.parse limits node.text =
      if limits.depth < node.nesting then .error (.nestingTooDeep limits.depth)
      else if limits.height < node.expr.height then .error (.nestingTooDeep limits.height)
      else .ok node.expr := by
  obtain ⟨ws, hws, hneeds⟩ := isRead h
  obtain ⟨w, ws, rfl, -⟩ := hneeds.begins
  have hpos := node.one_le_precedence
  split
  · next hdeep => exact parse_of_fails hws.words_eq (hneeds.fails 1 le_rfl hpos (by decide)) hdeep
  · next hdepth =>
    exact parse_eq_of_reads hws.words_eq (hneeds.reads 1 le_rfl hpos (by decide)) (Nat.not_lt.mp hdepth)

/-- The text is read as the expression wherever an operand of precedence `p` may stand, if nesting is
limited by nothing but the number of words. -/
def IsWritten (p : Nat) (text : String) (e : Expr) : Prop :=
  ∃ ws, Spells text.toList ws ∧ Readable p ws.length ws e

lemma IsNested.isWritten {p d : Nat} {text : String} {e : Expr} (h : IsNested p d text e) :
    IsWritten p text e := by
  obtain ⟨ws, hws, hneeds⟩ := h
  exact ⟨ws, hws, hneeds.toReadable.mono le_rfl hneeds.depth_le⟩

theorem Node.isWritten {node : Node} (h : node.Everywhere HasShape) :
    IsWritten node.precedence node.text node.expr :=
  (isRead h).isWritten

/-- A text that spells what is readable is parsed, if the limits leave room for it. -/
lemma Expr.Readable.parse {limits : NestingLimits} {p d : Nat} (hp : 1 ≤ p) {text : String}
    {ws : List Word} {e : Expr} (h : Readable p d ws e) (hws : Spells text.toList ws)
    (hdepth : d ≤ limits.depth) (hheight : e.height ≤ limits.height) :
    Expr.parse limits text = .ok e := by
  obtain ⟨w, ws, rfl, -⟩ := h.begins
  exact parse_of_reads hws.words_eq (h.reads 1 le_rfl hp (by decide)) hdepth hheight

/-- Parsing the text of a node gives the expression of the node. -/
theorem Node.parse_text {node : Node} (h : node.Everywhere HasShape) {limits : NestingLimits}
    (hdepth : (scan node.text.toList).length ≤ limits.depth)
    (hheight : (scan node.text.toList).length ≤ limits.height) :
    Expr.parse limits node.text = .ok node.expr := by
  obtain ⟨ws, hws, hread⟩ := isWritten h
  have hlength : ws.length = (scan node.text.toList).length := by
    rw [← hws.words_eq, length_words]
  have hle := hread.height
  exact hread.parse node.one_le_precedence hws (by omega) (by omega)

theorem Node.parse_text_power :
    let node : Node := .call .power [.number ⟨true, 25, 1, by decide, by decide⟩,
      .call .subtract [.number .one, .measure ⟨.measure "Sales", none⟩]]
    node.Everywhere HasShape ∧ Expr.parse ⟨8, 8⟩ node.text =
      .ok (.binary .power (.unary .negate (.number "2.5"))
        (.binary .subtract (.number "1") (.field (.measure "Sales")))) := by
  intro node
  have hshape : node.Everywhere HasShape := by
    simp [node, everywhere_call, everywhere_measure, everywhere_const, Node.number, HasShape,
      FunctionKind.takes, FunctionKind.spelling]
    exact ⟨"[Sales]".toList, by decide⟩
  exact ⟨hshape, parse_text hshape (by decide +kernel) (by decide +kernel)⟩

end OlapFormula
