import OlapFormula.Proofs.Expr.Grammar
import OlapFormula.Proofs.Expr.Induction
import OlapFormula.Proofs.FieldReference.WellFormed

/-!
# What is read is derived

A reader gives back the lexemes that it has not used. The words of those that it has used derive, by the
rule of the reader, the expression that is read. So what every construct of the grammar passes on from its
parts holds of everything that is read.
-/

namespace OlapFormula.Expr

open Lexeme (word)

/-- What the reader reads is derived by the rule from what it takes away. -/
def Parses (rule : Rule) (reader : Reader) : Prop :=
  ∀ ls e rest, reader ls = .ok (e, rest) →
    ∃ used, ls = used ++ rest ∧ Derives rule (used.map word) e

def Level.rule : Level → Rule
  | formula => .disjunction
  | negation => .negation
  | power => .power
  | sign => .signed

def ParsesWithin (nested : Nested) : Prop :=
  ∀ read, nested = .ok read → ∀ level : Level, Parses level.rule (read level)

/-- What is taken for an operator is one of the rule. -/
def ReadsOperator (rule : Rule) (operator : List Lexeme → Option (BinaryOperator × List Lexeme)) :
    Prop :=
  ∀ ls op rest, operator ls = some (op, rest) →
    ∃ used, ls = used ++ rest ∧ rule.HasOperator (used.map word) op

lemma exists_of_bind_eq_ok {ε α β : Type} {x : Except ε α} {f : α → Except ε β} {b : β}
    (h : (x >>= f) = .ok b) : ∃ a, x = .ok a ∧ f a = .ok b := by
  cases x with
  | error e => cases h
  | ok a => exact ⟨a, rfl, h⟩

lemma exists_cons_of_startsWith {kind : LexemeKind} {ls : List Lexeme} (h : startsWith kind ls) :
    ∃ lexeme, ls = lexeme :: ls.tail ∧ (word lexeme).1 = kind := by
  cases ls with
  | nil => cases h
  | cons lexeme ls => exact ⟨lexeme, rfl, by simpa [startsWith, word] using h⟩

lemma exists_cons_of_startsWithWord {keyword : String} {ls : List Lexeme}
    (h : startsWithWord keyword ls) :
    ∃ lexeme, ls = lexeme :: ls.tail ∧ isKeyword keyword (word lexeme) := by
  cases ls with
  | nil => cases h
  | cons lexeme ls => exact ⟨lexeme, rfl, h⟩

lemma exists_cons_of_expect {size : Nat} {kind : LexemeKind} {what : String} {ls rest : List Lexeme}
    (h : expect size kind what ls = .ok rest) :
    ∃ lexeme, ls = lexeme :: rest ∧ (word lexeme).1 = kind := by
  unfold expect at h
  split at h
  · next lexeme ls =>
    split at h
    · next hkind =>
      cases h
      exact ⟨lexeme, rfl, hkind⟩
    · cases h
  · cases h

lemma exists_word_of_symbolOperator {operator? : LexemeKind → Option BinaryOperator}
    {ls rest : List Lexeme} {op : BinaryOperator} (h : symbolOperator operator? ls = some (op, rest)) :
    ∃ lexeme, ls = lexeme :: rest ∧ operator? lexeme.kind = some op := by
  cases ls with
  | nil => cases h
  | cons lexeme ls =>
    obtain ⟨_, hop, heq⟩ := Option.map_eq_some_iff.mp h
    cases heq
    exact ⟨lexeme, rfl, hop⟩

lemma readsOperator_symbol {rule : Rule} {operator? : LexemeKind → Option BinaryOperator}
    (h : ∀ (w : Word) (op : BinaryOperator), operator? w.1 = some op → rule.HasOperator [w] op) :
    ReadsOperator rule (symbolOperator operator?) := by
  intro ls op rest hread
  obtain ⟨lexeme, rfl, hop⟩ := exists_word_of_symbolOperator hread
  exact ⟨[lexeme], rfl, h (word lexeme) op hop⟩

lemma readsOperator_product : ReadsOperator .product (symbolOperator ofProduct?) :=
  readsOperator_symbol fun
    | (.star, _), _, rfl => .multiply rfl
    | (.slash, _), _, rfl => .divide rfl

lemma readsOperator_sum : ReadsOperator .sum (symbolOperator ofSum?) :=
  readsOperator_symbol fun
    | (.plus, _), _, rfl => .add rfl
    | (.minus, _), _, rfl => .subtract rfl

lemma readsOperator_comparison : ReadsOperator .comparison comparisonOperator := by
  have hsymbol : ReadsOperator .comparison (symbolOperator ofComparison?) :=
    readsOperator_symbol fun
      | (.equal, _), _, rfl => .equal rfl
      | (.notEqual, _), _, rfl => .notEqual rfl
      | (.less, _), _, rfl => .less rfl
      | (.lessEqual, _), _, rfl => .lessEqual rfl
      | (.greater, _), _, rfl => .greater rfl
      | (.greaterEqual, _), _, rfl => .greaterEqual rfl
  intro ls op rest h
  unfold comparisonOperator at h
  split at h
  · next hfound =>
    cases h
    exact hsymbol ls op rest hfound
  · split at h
    · next hin =>
      cases h
      obtain ⟨lexeme, hls, hlexeme⟩ := exists_cons_of_startsWithWord hin
      exact ⟨[lexeme], hls, .isIn hlexeme⟩
    · split at h
      · next hboth =>
        cases h
        rw [Bool.and_eq_true] at hboth
        obtain ⟨lexeme, hls, hlexeme⟩ := exists_cons_of_startsWithWord hboth.1
        obtain ⟨next, htail, hnext⟩ := exists_cons_of_startsWithWord hboth.2
        exact ⟨[lexeme, next], hls.trans (congrArg _ htail), .notIn hlexeme hnext⟩
      · cases h

lemma readsOperator_word {rule : Rule} {keyword : String} {op : BinaryOperator}
    (hop : ∀ w, isKeyword keyword w → rule.HasOperator [w] op) :
    ReadsOperator rule (wordOperator keyword op) := by
  intro ls op' rest h
  unfold wordOperator at h
  split at h
  · next hword =>
    cases h
    obtain ⟨lexeme, hls, hlexeme⟩ := exists_cons_of_startsWithWord hword
    exact ⟨[lexeme], hls, hop _ hlexeme⟩
  · cases h

section

variable {rule next : Rule} (hnext : rule.operand? = some next)
  {operator : List Lexeme → Option (BinaryOperator × List Lexeme)} (hoperator : ReadsOperator rule operator)
  {operand : Reader} (hoperand : Parses next operand)

include hnext hoperator hoperand

/-- The words before are those of the left operand. -/
lemma chain_parses (count : Nat) {before ls rest : List Lexeme} {left e : Expr}
    (hleft : Derives rule (before.map word) left)
    (h : chain operator operand count left ls = .ok (e, rest)) :
    ∃ used, ls = used ++ rest ∧ Derives rule ((before ++ used).map word) e := by
  induction count generalizing before left ls with
  | zero =>
    cases h
    exact ⟨[], rfl, by simpa using hleft⟩
  | succ count ih =>
    unfold chain at h
    split at h
    · cases h
      exact ⟨[], rfl, by simpa using hleft⟩
    · next op _ hop =>
      obtain ⟨⟨right, _⟩, hright, hrest⟩ := exists_of_bind_eq_ok h
      obtain ⟨lsop, rfl, hword⟩ := hoperator _ _ _ hop
      obtain ⟨lsright, rfl, hderives⟩ := hoperand _ _ _ hright
      have hbinary : Derives rule ((before ++ lsop ++ lsright).map word) (.binary op left right) := by
        simpa using Derives.binary hnext hleft hword hderives
      obtain ⟨used, rfl, hused⟩ := ih hbinary hrest
      exact ⟨lsop ++ lsright ++ used, by simp, by simpa using hused⟩

lemma parses_leftAssociative : Parses rule (leftAssociative operator operand) := by
  intro ls e rest h
  obtain ⟨⟨left, _⟩, hleft, hrest⟩ := exists_of_bind_eq_ok h
  obtain ⟨before, rfl, hderives⟩ := hoperand _ _ _ hleft
  obtain ⟨used, rfl, hused⟩ := chain_parses hnext hoperator hoperand _ (.operand hnext hderives) hrest
  exact ⟨before ++ used, by simp, hused⟩

end

section

variable {item : Reader} (hitem : Parses .disjunction item)

include hitem

lemma moreItems_parses {count : Nat} {ls rest : List Lexeme} {es : List Expr}
    (h : moreItems item count ls = .ok (es, rest)) :
    ∃ used, ∃ items : List (List Word × Expr), ls = used ++ rest ∧
      (∀ item ∈ items, Derives .disjunction item.1 item.2) ∧
      AreMoreItems (items.map (·.1)) (used.map word) ∧ items.map (·.2) = es := by
  induction count generalizing ls es with
  | zero =>
    cases h
    exact ⟨[], [], rfl, by simp, .nil, rfl⟩
  | succ count ih =>
    unfold moreItems at h
    split at h
    · next hcomma =>
      obtain ⟨⟨first, ls'⟩, hfirst, h⟩ := exists_of_bind_eq_ok h
      obtain ⟨⟨others, ls''⟩, hothers, h⟩ := exists_of_bind_eq_ok h
      cases h
      obtain ⟨comma, hls, hkind⟩ := exists_cons_of_startsWith hcomma
      obtain ⟨lsfirst, htail, hderives⟩ := hitem _ _ _ hfirst
      obtain ⟨used, items, rfl, hitems, hmore, rfl⟩ := ih hothers
      refine ⟨comma :: lsfirst ++ used, (lsfirst.map word, first) :: items, ?_, ?_, ?_, rfl⟩
      · rw [hls, htail]
        simp
      · exact List.forall_mem_cons.mpr ⟨hderives, hitems⟩
      · simpa using AreMoreItems.cons hkind hmore
    · cases h
      exact ⟨[], [], rfl, by simp, .nil, rfl⟩

lemma items_parses {size : Nat} {closing : LexemeKind} {what : String} {ls rest : List Lexeme}
    {es : List Expr} (h : items size item closing what ls = .ok (es, rest)) :
    ∃ used last, ∃ items : List (List Word × Expr), ls = used ++ last :: rest ∧
      (word last).1 = closing ∧ (∀ item ∈ items, Derives .disjunction item.1 item.2) ∧
      AreItems (items.map (·.1)) (used.map word) ∧ items.map (·.2) = es := by
  unfold items at h
  split at h
  · next hclosing =>
    cases h
    obtain ⟨last, hls, hlast⟩ := exists_cons_of_startsWith hclosing
    exact ⟨[], last, [], hls, hlast, by simp, .nil, rfl⟩
  · obtain ⟨⟨first, ls'⟩, hfirst, h⟩ := exists_of_bind_eq_ok h
    obtain ⟨⟨others, ls''⟩, hothers, h⟩ := exists_of_bind_eq_ok h
    obtain ⟨closed, hclosed, h⟩ := exists_of_bind_eq_ok h
    cases h
    obtain ⟨lsfirst, rfl, hderives⟩ := hitem _ _ _ hfirst
    obtain ⟨used, items, rfl, hitems, hmore, rfl⟩ := moreItems_parses hitem hothers
    obtain ⟨last, rfl, hlast⟩ := exists_cons_of_expect hclosed
    refine ⟨lsfirst ++ used, last, (lsfirst.map word, first) :: items, by simp, hlast, ?_, ?_, rfl⟩
    · exact List.forall_mem_cons.mpr ⟨hderives, hitems⟩
    · simpa using AreItems.cons hmore

end

/-! ## From level to level -/

lemma derives_of_ofName? {lexeme : Lexeme} {e : Expr} (h : ofName? lexeme = some e) :
    Derives .primary [word lexeme] e := by
  unfold ofName? at h
  split at h
  · next htrue =>
    cases h
    exact .true htrue
  · split at h
    · next hfalse =>
      cases h
      exact .false hfalse
    · split at h
      · next hnull =>
        cases h
        exact .null hnull
      · cases h

variable {size : Nat} {nested : Nested} (hnested : ParsesWithin nested)

include hnested

lemma parses_primary : Parses .primary (primary size nested) := by
  intro ls e rest h
  cases ls with
  | nil => cases h
  | cons lexeme ls =>
    obtain ⟨kind, start, chars⟩ := lexeme
    unfold primary at h
    dsimp only at h
    split at h
    · cases h
      exact ⟨[_], rfl, .number chars⟩
    · cases h
      exact ⟨[_], rfl, .string chars⟩
    · split at h
      · next hreference =>
        cases h
        exact ⟨[_], rfl, .field hreference⟩
      · cases h
    · obtain ⟨read, hread, h⟩ := exists_of_bind_eq_ok h
      obtain ⟨⟨inner, _⟩, hinner, h⟩ := exists_of_bind_eq_ok h
      obtain ⟨_, hclosed, h⟩ := exists_of_bind_eq_ok h
      cases h
      obtain ⟨used, rfl, hderives⟩ := hnested read hread .formula _ _ _ hinner
      obtain ⟨last, rfl, hlast⟩ := exists_cons_of_expect hclosed
      refine ⟨_ :: (used ++ [last]), by simp; rfl, ?_⟩
      simpa using Derives.parens rfl hderives hlast
    · obtain ⟨read, hread, h⟩ := exists_of_bind_eq_ok h
      obtain ⟨⟨elements, _⟩, helements, h⟩ := exists_of_bind_eq_ok h
      cases h
      obtain ⟨used, last, items, rfl, hlast, hderives, hitems, rfl⟩ :=
        items_parses (hnested read hread .formula) helements
      refine ⟨_ :: (used ++ [last]), by simp; rfl, ?_⟩
      simpa using Derives.list rfl hderives hitems hlast
    · split at h
      · next hparen =>
        obtain ⟨read, hread, h⟩ := exists_of_bind_eq_ok h
        obtain ⟨⟨args, _⟩, hargs, h⟩ := exists_of_bind_eq_ok h
        cases h
        obtain ⟨opening, hls, hopening⟩ := exists_cons_of_startsWith hparen
        obtain ⟨used, last, items, htail, hlast, hderives, hitems, rfl⟩ :=
          items_parses (hnested read hread .formula) hargs
        refine ⟨_ :: opening :: (used ++ [last]), by rw [hls, htail]; simp; rfl, ?_⟩
        simpa [word] using Derives.call hopening hderives hitems hlast
      · split at h
        · next hname =>
          cases h
          exact ⟨[_], rfl, derives_of_ofName? hname⟩
        · cases h
    · cases h
    · cases h

lemma parses_signed : Parses .signed (signed size nested) := by
  intro ls e rest h
  unfold signed at h
  split at h
  · next hminus =>
    obtain ⟨read, hread, h⟩ := exists_of_bind_eq_ok h
    obtain ⟨⟨operand, _⟩, hoperand, h⟩ := exists_of_bind_eq_ok h
    cases h
    obtain ⟨minus, hls, hkind⟩ := exists_cons_of_startsWith hminus
    obtain ⟨used, htail, hderives⟩ := hnested read hread .sign _ _ _ hoperand
    exact ⟨minus :: used, hls.trans (congrArg _ htail), .negate hkind hderives⟩
  · split at h
    · next hplus =>
      obtain ⟨read, hread, h⟩ := exists_of_bind_eq_ok h
      obtain ⟨plus, hls, hkind⟩ := exists_cons_of_startsWith hplus
      obtain ⟨used, htail, hderives⟩ := hnested read hread .sign _ _ _ h
      exact ⟨plus :: used, hls.trans (congrArg _ htail), .plus hkind hderives⟩
    · obtain ⟨used, hls, hderives⟩ := parses_primary hnested _ _ _ h
      exact ⟨used, hls, .primary hderives⟩

lemma parses_power : Parses .power (power size nested) := by
  intro ls e rest h
  obtain ⟨⟨base, _⟩, hbase, hrest⟩ := exists_of_bind_eq_ok h
  obtain ⟨used, rfl, hderives⟩ := parses_signed hnested _ _ _ hbase
  dsimp only at hrest
  split at hrest
  · next hcaret =>
    obtain ⟨read, hread, hrest⟩ := exists_of_bind_eq_ok hrest
    obtain ⟨⟨exponent, _⟩, hexponent, hrest⟩ := exists_of_bind_eq_ok hrest
    cases hrest
    obtain ⟨caret, hls, hkind⟩ := exists_cons_of_startsWith hcaret
    obtain ⟨after, htail, hright⟩ := hnested read hread .power _ _ _ hexponent
    refine ⟨used ++ caret :: after, ?_, ?_⟩
    · rw [hls, htail]
      simp
    · simpa using Derives.power hderives hkind hright
  · cases hrest
    exact ⟨used, rfl, .base hderives⟩

lemma parses_comparison : Parses .comparison (comparison size nested) :=
  parses_leftAssociative rfl readsOperator_comparison <|
    parses_leftAssociative rfl readsOperator_sum <|
      parses_leftAssociative rfl readsOperator_product (parses_power hnested)

lemma parses_negation : Parses .negation (negation size nested) := by
  intro ls e rest h
  unfold negation at h
  split at h
  · next hnot =>
    obtain ⟨read, hread, h⟩ := exists_of_bind_eq_ok h
    obtain ⟨⟨operand, _⟩, hoperand, h⟩ := exists_of_bind_eq_ok h
    cases h
    obtain ⟨not, hls, hword⟩ := exists_cons_of_startsWithWord hnot
    obtain ⟨used, htail, hderives⟩ := hnested read hread .negation _ _ _ hoperand
    exact ⟨not :: used, hls.trans (congrArg _ htail), .not hword hderives⟩
  · next hnot =>
    obtain ⟨used, rfl, hderives⟩ := parses_comparison hnested _ _ _ h
    obtain ⟨lexeme, used, rfl⟩ := List.exists_cons_of_ne_nil (List.map_eq_nil_iff.not.mp hderives.ne_nil)
    exact ⟨lexeme :: used, rfl, .comparison (Bool.eq_false_iff.mpr hnot) hderives⟩

lemma parses_disjunction : Parses .disjunction (disjunction size nested) :=
  parses_leftAssociative rfl (readsOperator_word fun _ => .or) <|
    parses_leftAssociative rfl (readsOperator_word fun _ => .and) (parses_negation hnested)

omit hnested

lemma parsesWithin_nestedWithin (size limit budget : Nat) :
    ParsesWithin (nestedWithin size limit budget) := by
  induction budget with
  | zero => exact fun _ h => by cases h
  | succ budget ih =>
    rintro _ ⟨⟩ level
    cases level with
    | formula => exact parses_disjunction ih
    | negation => exact parses_negation ih
    | power => exact parses_power ih
    | sign => exact parses_signed ih

/-- It can be computed whether a text is parsed. -/
lemma exists_parse {limits : NestingLimits} {text : String} (h : (parse limits text).isOk = true) :
    ∃ e, parse limits text = .ok e := by
  cases hparse : parse limits text with
  | ok e => exact ⟨e, rfl⟩
  | error problem =>
    rw [hparse] at h
    cases h

/-- The words of a text that is parsed derive what is found. -/
theorem derives_of_parse {limits : NestingLimits} {text : String} {e : Expr}
    (h : parse limits text = .ok e) : Derives .disjunction (Lexeme.words text.toList) e := by
  unfold parse at h
  dsimp only at h
  split at h
  · cases h
  · obtain ⟨⟨found, rest⟩, hfound, h⟩ := exists_of_bind_eq_ok h
    obtain ⟨used, hls, hderives⟩ := parses_disjunction (parsesWithin_nestedWithin _ _ _) _ _ _ hfound
    cases rest with
    | cons lexeme rest => cases h
    | nil =>
      dsimp only at h
      split at h
      · cases h
      · cases h
        rwa [Lexeme.words, hls, List.append_nil]

lemma Derives.isWellFormed {rule : Rule} {ws : List Word} {e : Expr} (h : Derives rule ws e) :
    ∀ r ∈ e.fields, r.IsWellFormed := by
  have hall {items : List (List Word × Expr)}
      (ih : ∀ item ∈ items, ∀ r ∈ item.2.fields, r.IsWellFormed) :
      ∀ r ∈ fieldsOfAll (items.map (·.2)), r.IsWellFormed :=
    forall_fieldsOfAll.mpr (List.forall_mem_map.mpr ih)
  induction h with
  | operand _ _ ih | comparison _ _ ih | base _ ih | plus _ _ ih | primary _ ih => exact ih
  | parens _ _ _ ih | not _ _ ih | negate _ _ ih => exact ih
  | binary _ _ _ _ ihleft ihright | power _ _ _ ihleft ihright =>
    exact List.forall_mem_append.mpr ⟨ihleft, ihright⟩
  | field hreference =>
    exact List.forall_mem_singleton.mpr (FieldReference.isWellFormed_of_parse? hreference)
  | number _ | string _ | true _ | false _ | null _ => exact fun _ hr => by cases hr
  | list _ _ _ _ ih | call _ _ _ _ ih => exact hall ih

/-- The references in what is read are well formed. -/
theorem isWellFormed_of_parse {limits : NestingLimits} {text : String} {e : Expr}
    (h : parse limits text = .ok e) : ∀ r ∈ e.fields, r.IsWellFormed :=
  (derives_of_parse h).isWellFormed

end OlapFormula.Expr
