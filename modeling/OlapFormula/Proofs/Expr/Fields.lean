import OlapFormula.Proofs.Expr.Grammar
import OlapFormula.Proofs.Expr.Induction

/-!
# References in formulas

The references in an expression are those among the words of the formula, in the same order.
-/

namespace OlapFormula.Expr

/-- The reference that a word is. -/
def reference? (w : Word) : Option FieldReference :=
  if w.1 = .field then FieldReference.parse? w.2 else none

def references (ws : List Word) : List FieldReference := ws.filterMap reference?

lemma references_append (ws vs : List Word) : references (ws ++ vs) = references ws ++ references vs :=
  List.filterMap_append

/-- Words of other kinds are passed over. -/
lemma references_cons {w : Word} {kind : LexemeKind} (hw : w.1 = kind) (hkind : kind ≠ .field)
    (ws : List Word) : references (w :: ws) = references ws :=
  List.filterMap_cons_none (if_neg (hw ▸ hkind))

lemma references_keyword {w : Word} {keyword : String} (hw : isKeyword keyword w) (ws : List Word) :
    references (w :: ws) = references ws :=
  references_cons (kind_of_word hw) (by decide) ws

lemma Rule.HasOperator.references_eq {rule : Rule} {vs : List Word} {op : BinaryOperator}
    (h : rule.HasOperator vs op) : references vs = [] := by
  cases h with
  | or hw | and hw | isIn hw => exact references_keyword hw []
  | notIn hw hv => rw [references_keyword hw, references_keyword hv]; rfl
  | equal hw | notEqual hw | less hw | lessEqual hw | greater hw | greaterEqual hw | add hw | subtract hw
  | multiply hw | divide hw => exact references_cons hw (by decide) []

lemma AreItems.references_eq {wss : List (List Word)} {ws : List Word} (h : AreItems wss ws) :
    references ws = wss.flatMap references := by
  have hmore {wss : List (List Word)} {ws : List Word} (h : AreMoreItems wss ws) :
      references ws = wss.flatMap references := by
    induction h with
    | nil => rfl
    | cons hcomma _ ih =>
      rw [List.cons_append, references_cons hcomma (by decide), references_append, ih, List.flatMap_cons]
  cases h with
  | nil => rfl
  | cons h => rw [references_append, hmore h, List.flatMap_cons]

/-- The references are in the order of the text. -/
theorem Derives.fields_eq {rule : Rule} {ws : List Word} {e : Expr} (h : Derives rule ws e) :
    e.fields = references ws := by
  have hitems {items : List (List Word × Expr)} {ws : List Word}
      (hlist : AreItems (items.map (·.1)) ws) (ih : ∀ item ∈ items, item.2.fields = references item.1) :
      fieldsOfAll (items.map (·.2)) = references ws := by
    rw [fieldsOfAll_eq, hlist.references_eq, List.flatMap_map, List.flatMap_map]
    exact List.flatMap_congr ih
  induction h with
  | operand _ _ ih | comparison _ _ ih | base _ ih | primary _ ih => exact ih
  | binary _ _ hop _ ihleft ihright =>
    rw [fields, ihleft, ihright, references_append, references_append, hop.references_eq, List.append_nil]
  | not hw _ ih => rw [fields, ih, references_keyword hw]
  | power _ hw _ ihbase ihexponent =>
    rw [fields, ihbase, ihexponent, references_append, references_cons hw (by decide)]
  | negate hw _ ih => rw [fields, ih, references_cons hw (by decide)]
  | plus hw _ ih => rw [ih, references_cons hw (by decide)]
  | number _ | string _ => rfl
  | @field cs reference hreference =>
    have hword : reference? (.field, cs) = some reference := hreference
    rw [fields, references, List.filterMap_cons_some hword, List.filterMap_nil]
  | parens hopening _ hclosing ih =>
    rw [ih, references_cons hopening (by decide), references_append, references_cons hclosing (by decide)]
    exact (List.append_nil _).symm
  | true hw | false hw | null hw => exact (references_keyword hw []).symm
  | list hopening _ hlist hclosing ih =>
    rw [fields, hitems hlist ih, references_cons hopening (by decide), references_append,
      references_cons hclosing (by decide)]
    exact (List.append_nil _).symm
  | call hopening _ hlist hclosing ih =>
    have hname : LexemeKind.identifier ≠ .field := by decide
    rw [fields, hitems hlist ih, references_cons rfl hname, references_cons hopening (by decide),
      references_append, references_cons hclosing (by decide)]
    exact (List.append_nil _).symm

end OlapFormula.Expr
