import OlapFormula.Expr.Reader
import OlapFormula.Proofs.Lexeme.Words

/-!
# The grammar of formulas

What formulas there are, in terms of words and without a reader:

* disjunction: conjunction (`OR` conjunction)*
* conjunction: negation (`AND` negation)*
* negation: `NOT` negation | comparison that does not begin with `NOT`
* comparison: sum ((`=` | `!=` | `<>` | `<` | `<=` | `>` | `>=` | `IN` | `NOT IN`) sum)*
* sum: product ((`+` | `-`) product)*
* product: power ((`*` | `/`) power)*
* power: signed (`^` power)?
* signed: `-` signed | `+` signed | primary
* primary: number | string | field | `(` disjunction `)` | `TRUE` | `FALSE` | `NULL` |
  `{` items `}` | name `(` items `)`
* items: (disjunction (`,` disjunction)*)?
-/

namespace OlapFormula.Expr

/-- The word is an identifier, and this one in upper or lower case. -/
def isKeyword (keyword : String) (w : Word) : Bool :=
  w.1 == .identifier && Text.equalIgnoringCase w.2 keyword.toList

inductive Rule
  | disjunction
  | conjunction
  | negation
  | comparison
  | sum
  | product
  | power
  | signed
  | primary
deriving Repr, DecidableEq

namespace Rule

/-- What the operators of a rule stand between, if they are read from left to right. -/
def operand? : Rule → Option Rule
  | disjunction => some conjunction
  | conjunction => some negation
  | comparison => some sum
  | sum => some product
  | product => some power
  | _ => none

/-- The words of the operators that a rule reads from left to right. -/
inductive HasOperator : Rule → List Word → BinaryOperator → Prop
  | or {w : Word} : isKeyword "OR" w → HasOperator disjunction [w] .or
  | and {w : Word} : isKeyword "AND" w → HasOperator conjunction [w] .and
  | equal {w : Word} : w.1 = .equal → HasOperator comparison [w] .equal
  | notEqual {w : Word} : w.1 = .notEqual → HasOperator comparison [w] .notEqual
  | less {w : Word} : w.1 = .less → HasOperator comparison [w] .less
  | lessEqual {w : Word} : w.1 = .lessEqual → HasOperator comparison [w] .lessEqual
  | greater {w : Word} : w.1 = .greater → HasOperator comparison [w] .greater
  | greaterEqual {w : Word} : w.1 = .greaterEqual → HasOperator comparison [w] .greaterEqual
  | isIn {w : Word} : isKeyword "IN" w → HasOperator comparison [w] .isIn
  | notIn {w v : Word} : isKeyword "NOT" w → isKeyword "IN" v → HasOperator comparison [w, v] .notIn
  | add {w : Word} : w.1 = .plus → HasOperator sum [w] .add
  | subtract {w : Word} : w.1 = .minus → HasOperator sum [w] .subtract
  | multiply {w : Word} : w.1 = .star → HasOperator product [w] .multiply
  | divide {w : Word} : w.1 = .slash → HasOperator product [w] .divide

end Rule

/-- The words of items after others, each after a comma. -/
inductive AreMoreItems : List (List Word) → List Word → Prop
  | nil : AreMoreItems [] []
  | cons {comma : Word} {ws vs : List Word} {wss : List (List Word)} : comma.1 = .comma →
    AreMoreItems wss vs → AreMoreItems (ws :: wss) (comma :: ws ++ vs)

/-- The words of items with commas between them. -/
inductive AreItems : List (List Word) → List Word → Prop
  | nil : AreItems [] []
  | cons {ws vs : List Word} {wss : List (List Word)} : AreMoreItems wss vs →
    AreItems (ws :: wss) (ws ++ vs)

lemma AreMoreItems.length_le {wss : List (List Word)} {ws : List Word} (h : AreMoreItems wss ws) :
    wss.length ≤ ws.length := by
  induction h with
  | nil => exact le_rfl
  | cons _ _ ih =>
    simp only [List.length_cons, List.length_append]
    omega

lemma AreMoreItems.length_le_of_mem {wss : List (List Word)} {ws us : List Word}
    (h : AreMoreItems wss ws) (hus : us ∈ wss) : us.length ≤ ws.length := by
  induction h with
  | nil => cases hus
  | cons _ _ ih =>
    simp only [List.length_cons, List.length_append]
    rcases List.mem_cons.mp hus with rfl | hus
    · omega
    · exact (ih hus).trans (by omega)

lemma AreItems.length_le_of_mem {wss : List (List Word)} {ws us : List Word} (h : AreItems wss ws)
    (hus : us ∈ wss) : us.length ≤ ws.length := by
  obtain - | hmore := h
  · cases hus
  · rw [List.length_append]
    rcases List.mem_cons.mp hus with rfl | hus
    · omega
    · exact (hmore.length_le_of_mem hus).trans (by omega)

/-- Between the items there are commas only. -/
lemma AreItems.forall_mem {p : Word → Prop} (hcomma : ∀ w : Word, w.1 = .comma → p w)
    {wss : List (List Word)} {ws : List Word} (h : AreItems wss ws)
    (hp : ∀ us ∈ wss, ∀ w ∈ us, p w) : ∀ w ∈ ws, p w := by
  have hmore {wss : List (List Word)} {ws : List Word} (h : AreMoreItems wss ws)
      (hp : ∀ us ∈ wss, ∀ w ∈ us, p w) : ∀ w ∈ ws, p w := by
    induction h with
    | nil => exact fun w hw => nomatch hw
    | cons hw _ ih =>
      rw [List.forall_mem_cons] at hp
      exact List.forall_mem_append.mpr ⟨List.forall_mem_cons.mpr ⟨hcomma _ hw, hp.1⟩, ih hp.2⟩
  cases h with
  | nil => exact fun w hw => nomatch hw
  | cons h =>
    rw [List.forall_mem_cons] at hp
    exact List.forall_mem_append.mpr ⟨hp.1, hmore h hp.2⟩

/-- The rule derives the expression from the words. -/
inductive Derives : Rule → List Word → Expr → Prop
  | operand {rule next : Rule} {ws : List Word} {e : Expr} : rule.operand? = some next →
    Derives next ws e → Derives rule ws e
  | binary {rule next : Rule} {ws vs us : List Word} {op : BinaryOperator} {left right : Expr} :
    rule.operand? = some next → Derives rule ws left → rule.HasOperator vs op →
    Derives next us right → Derives rule (ws ++ vs ++ us) (.binary op left right)
  | not {w : Word} {ws : List Word} {e : Expr} : isKeyword "NOT" w → Derives .negation ws e →
    Derives .negation (w :: ws) (.unary .not e)
  | comparison {w : Word} {ws : List Word} {e : Expr} : isKeyword "NOT" w = false →
    Derives .comparison (w :: ws) e → Derives .negation (w :: ws) e
  | base {ws : List Word} {e : Expr} : Derives .signed ws e → Derives .power ws e
  | power {w : Word} {ws us : List Word} {base exponent : Expr} : Derives .signed ws base →
    w.1 = .caret → Derives .power us exponent →
    Derives .power (ws ++ w :: us) (.binary .power base exponent)
  | negate {w : Word} {ws : List Word} {e : Expr} : w.1 = .minus → Derives .signed ws e →
    Derives .signed (w :: ws) (.unary .negate e)
  /-- A plus sign leaves no trace. -/
  | plus {w : Word} {ws : List Word} {e : Expr} : w.1 = .plus → Derives .signed ws e →
    Derives .signed (w :: ws) e
  | primary {ws : List Word} {e : Expr} : Derives .primary ws e → Derives .signed ws e
  | number (cs : List Char) : Derives .primary [(.number, cs)] (.number (String.ofList cs))
  | string (cs : List Char) :
    Derives .primary [(.string, cs)] (.string (String.ofList (Text.unquote cs)))
  | field {cs : List Char} {reference : FieldReference} : FieldReference.parse? cs = some reference →
    Derives .primary [(.field, cs)] (.field reference)
  | parens {opening closing : Word} {ws : List Word} {e : Expr} : opening.1 = .leftParen →
    Derives .disjunction ws e → closing.1 = .rightParen →
    Derives .primary (opening :: (ws ++ [closing])) e
  | true {w : Word} : isKeyword "TRUE" w → Derives .primary [w] (.boolean true)
  | false {w : Word} : isKeyword "FALSE" w → Derives .primary [w] (.boolean false)
  | null {w : Word} : isKeyword "NULL" w → Derives .primary [w] .null
  | list {opening closing : Word} {ws : List Word} {items : List (List Word × Expr)} :
    opening.1 = .leftBrace → (∀ item ∈ items, Derives .disjunction item.1 item.2) →
    AreItems (items.map (·.1)) ws → closing.1 = .rightBrace →
    Derives .primary (opening :: (ws ++ [closing])) (.list (items.map (·.2)))
  | call {name : List Char} {opening closing : Word} {ws : List Word}
    {items : List (List Word × Expr)} : opening.1 = .leftParen →
    (∀ item ∈ items, Derives .disjunction item.1 item.2) → AreItems (items.map (·.1)) ws →
    closing.1 = .rightParen → Derives .primary ((.identifier, name) :: opening :: (ws ++ [closing]))
      (.call (String.ofList (Text.upper name)) (items.map (·.2)))

lemma Derives.ne_nil {rule : Rule} {ws : List Word} {e : Expr} (h : Derives rule ws e) : ws ≠ [] := by
  induction h with
  | operand _ _ ih | comparison _ _ ih | base _ ih | primary _ ih => exact ih
  | binary _ _ _ _ ih _ | power _ _ _ ih _ => simp [ih]
  | _ => exact List.cons_ne_nil _ _

lemma kind_of_word {keyword : String} {w : Word} (h : isKeyword keyword w) : w.1 = .identifier := by
  unfold isKeyword at h
  rw [Bool.and_eq_true, beq_iff_eq] at h
  exact h.1

lemma Rule.HasOperator.isRegular {rule : Rule} {ws : List Word} {op : BinaryOperator}
    (h : rule.HasOperator ws op) : ∀ w ∈ ws, w.1.IsRegular := by
  cases h with
  | or hw | and hw | isIn hw =>
    rw [List.forall_mem_singleton, kind_of_word hw]
    decide
  | notIn hw hv =>
    rw [List.forall_mem_cons, List.forall_mem_singleton, kind_of_word hw, kind_of_word hv]
    decide
  | equal hw | notEqual hw | less hw | lessEqual hw | greater hw | greaterEqual hw | add hw
  | subtract hw | multiply hw | divide hw =>
    rw [List.forall_mem_singleton, hw]
    decide

/-- Formulas have no open strings or brackets, and no characters that begin no word. -/
lemma Derives.isRegular {rule : Rule} {ws : List Word} {e : Expr} (h : Derives rule ws e) :
    ∀ w ∈ ws, w.1.IsRegular := by
  have hkind {kind : LexemeKind} {w : Word} (hw : w.1 = kind) (hregular : kind.IsRegular) :
      w.1.IsRegular := hw ▸ hregular
  have hitems {items : List (List Word × Expr)} {ws : List Word} (h : AreItems (items.map (·.1)) ws)
      (ih : ∀ item ∈ items, ∀ w ∈ item.1, w.1.IsRegular) : ∀ w ∈ ws, w.1.IsRegular := by
    refine h.forall_mem (fun w hw => hkind hw (by decide)) fun us hus => ?_
    obtain ⟨item, hitem, rfl⟩ := List.mem_map.mp hus
    exact ih item hitem
  have hliteral {kind : LexemeKind} {cs : List Char} (hregular : kind.IsRegular) :
      ∀ w ∈ [((kind, cs) : Word)], w.1.IsRegular := List.forall_mem_singleton.mpr hregular
  have hwrapped {opening closing : Word} {ws : List Word} (hopening : opening.1.IsRegular)
      (hws : ∀ w ∈ ws, w.1.IsRegular) (hclosing : closing.1.IsRegular) :
      ∀ w ∈ opening :: (ws ++ [closing]), w.1.IsRegular :=
    List.forall_mem_cons.mpr
      ⟨hopening, List.forall_mem_append.mpr ⟨hws, List.forall_mem_singleton.mpr hclosing⟩⟩
  induction h with
  | operand _ _ ih | comparison _ _ ih | base _ ih | primary _ ih => exact ih
  | binary _ _ hop _ ihleft ihright =>
    exact List.forall_mem_append.mpr ⟨List.forall_mem_append.mpr ⟨ihleft, hop.isRegular⟩, ihright⟩
  | not hw _ ih => exact List.forall_mem_cons.mpr ⟨hkind (kind_of_word hw) (by decide), ih⟩
  | power _ hw _ ihbase ihexponent =>
    exact List.forall_mem_append.mpr
      ⟨ihbase, List.forall_mem_cons.mpr ⟨hkind hw (by decide), ihexponent⟩⟩
  | negate hw _ ih | plus hw _ ih => exact List.forall_mem_cons.mpr ⟨hkind hw (by decide), ih⟩
  | number _ | string _ | field _ => exact hliteral (by decide)
  | true hw | false hw | null hw =>
    exact List.forall_mem_singleton.mpr (hkind (kind_of_word hw) (by decide))
  | parens hopening _ hclosing ih =>
    exact hwrapped (hkind hopening (by decide)) ih (hkind hclosing (by decide))
  | list hopening _ hlist hclosing ih =>
    exact hwrapped (hkind hopening (by decide)) (hitems hlist ih) (hkind hclosing (by decide))
  | call hopening _ hlist hclosing ih =>
    refine List.forall_mem_cons.mpr ⟨show LexemeKind.IsRegular .identifier by decide, ?_⟩
    exact hwrapped (hkind hopening (by decide)) (hitems hlist ih) (hkind hclosing (by decide))

end OlapFormula.Expr
