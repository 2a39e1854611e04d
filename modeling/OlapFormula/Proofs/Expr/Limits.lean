import OlapFormula.Proofs.Expr.Weight

/-!
# Limits only reject

Where there is room for fewer levels of nesting, a reader gives what it gives with more room, or it says
that the nesting is too deep. It says so only if there are more lexemes than levels, because every level is
opened by a lexeme of its own.
-/

namespace OlapFormula.Expr

open Lexeme (word)

def IsTooDeep {α : Type} (result : Except ParseError α) : Prop :=
  ∃ limit, result = .error (.nestingTooDeep limit)

/-- The first result is the second one, unless it is that the nesting is too deep, which it is only if
that is allowed. -/
def SameUnlessDeep {α : Type} (allowed : Prop) (result result' : Except ParseError α) : Prop :=
  result = result' ∧ ¬IsTooDeep result ∨ allowed ∧ IsTooDeep result

namespace SameUnlessDeep

variable {α β : Type} {allowed allowed' : Prop} {x y : Except ParseError α}

lemma ok (a : α) : SameUnlessDeep allowed (.ok a) (.ok a) :=
  Or.inl ⟨rfl, fun ⟨_, h⟩ => by cases h⟩

lemma problem (place : Nat) (problem : ParseProblem) :
    SameUnlessDeep allowed (.error (.problemAt place problem) : Except ParseError α)
      (.error (.problemAt place problem)) :=
  Or.inl ⟨rfl, fun ⟨_, h⟩ => by cases h⟩

lemma mono (h : SameUnlessDeep allowed x y) (hallowed : allowed → allowed') :
    SameUnlessDeep allowed' x y :=
  h.imp id (And.imp_left hallowed)

/-- One step after the other. The second step may use what the first one has found. -/
lemma bind (h : SameUnlessDeep allowed x y) {f g : α → Except ParseError β}
    (hfg : ∀ a, x = .ok a → SameUnlessDeep allowed (f a) (g a)) :
    SameUnlessDeep allowed (x >>= f) (y >>= g) := by
  rcases h with ⟨rfl, hx⟩ | ⟨hallowed, limit, rfl⟩
  · cases x with
    | ok a => exact hfg a rfl
    | error e =>
      refine Or.inl ⟨rfl, ?_⟩
      rintro ⟨limit, h⟩
      exact hx ⟨limit, by rw [Except.error.inj h]⟩
  · exact Or.inr ⟨hallowed, limit, rfl⟩

end SameUnlessDeep

/-- With room for `budget` levels the first reader reads what the second one reads. -/
def ReadsAlike (budget : Nat) (reader reader' : Reader) : Prop :=
  ∀ ls, SameUnlessDeep (budget < ls.length) (reader ls) (reader' ls)

/-- The readers one level further in, where there is room for `budget` levels at this place. -/
inductive NestAlike : Nat → Nested → Nested → Prop
  | none (limit : Nat) (nested : Nested) : NestAlike 0 (.error (.nestingTooDeep limit)) nested
  | some {budget : Nat} {read read' : Level → Reader} :
    (∀ level, ReadsAlike budget (read level) (read' level)) →
    NestAlike (budget + 1) (.ok read) (.ok read')

lemma Parses.length_le {rule : Rule} {reader : Reader} (h : Parses rule reader) {ls rest : List Lexeme}
    {e : Expr} (hread : reader ls = .ok (e, rest)) : rest.length ≤ ls.length := by
  obtain ⟨used, rfl, -⟩ := h ls e rest hread
  simp

lemma sameUnlessDeep_expect {allowed : Prop} (size : Nat) (kind : LexemeKind) (what : String)
    (ls : List Lexeme) :
    SameUnlessDeep allowed (expect size kind what ls) (expect size kind what ls) := by
  unfold expect
  split
  · split
    · exact .ok _
    · exact .problem ..
  · exact .problem ..

section

variable {rule next : Rule} {operator : List Lexeme → Option (BinaryOperator × List Lexeme)}
  (hoperator : ReadsOperator rule operator) {budget : Nat} {operand operand' : Reader}
  (hparses : Parses next operand) (hoperand : ReadsAlike budget operand operand')

include hoperator hparses hoperand

lemma sameUnlessDeep_chain (count : Nat) (left : Expr) {ls : List Lexeme} {n : Nat}
    (hn : ls.length ≤ n) :
    SameUnlessDeep (budget < n) (chain operator operand count left ls)
      (chain operator operand' count left ls) := by
  induction count generalizing left ls with
  | zero => exact .ok _
  | succ count ih =>
    unfold chain
    split
    · exact .ok _
    · next op rest hop =>
      obtain ⟨used, rfl, -⟩ := hoperator _ _ _ hop
      rw [List.length_append] at hn
      apply ((hoperand rest).mono (by omega)).bind
      rintro ⟨right, rest'⟩ hright
      have hlength := hparses.length_le hright
      exact ih _ (by omega)

lemma readsAlike_leftAssociative :
    ReadsAlike budget (leftAssociative operator operand) (leftAssociative operator operand') := by
  intro ls
  apply (hoperand ls).bind
  rintro ⟨left, rest⟩ hleft
  exact sameUnlessDeep_chain hoperator hparses hoperand _ _ (hparses.length_le hleft)

end

section

variable {rule : Rule} {budget : Nat} {item item' : Reader} (hparses : Parses rule item)
  (hitem : ReadsAlike budget item item')

include hparses hitem

lemma sameUnlessDeep_moreItems (count : Nat) {ls : List Lexeme} {n : Nat} (hn : ls.length ≤ n) :
    SameUnlessDeep (budget < n) (moreItems item count ls) (moreItems item' count ls) := by
  induction count generalizing ls with
  | zero => exact .ok _
  | succ count ih =>
    unfold moreItems
    split
    · have htail : ls.tail.length ≤ n := (List.tail_sublist ls).length_le.trans hn
      apply ((hitem ls.tail).mono (by omega)).bind
      rintro ⟨first, rest⟩ hfirst
      have hlength := hparses.length_le hfirst
      apply (ih (by omega)).bind
      rintro ⟨others, rest'⟩ -
      exact .ok _
    · exact .ok _

lemma sameUnlessDeep_items (size : Nat) (closing : LexemeKind) (what : String) {ls : List Lexeme}
    {n : Nat} (hn : ls.length ≤ n) :
    SameUnlessDeep (budget < n) (items size item closing what ls)
      (items size item' closing what ls) := by
  unfold items
  split
  · exact .ok _
  · apply ((hitem ls).mono (by omega)).bind
    rintro ⟨first, rest⟩ hfirst
    have hlength := hparses.length_le hfirst
    apply (sameUnlessDeep_moreItems hparses hitem _ (by omega)).bind
    rintro ⟨others, rest'⟩ -
    apply (sameUnlessDeep_expect size closing what rest').bind
    intro last _
    exact .ok _

end

/-! ## From level to level -/

/-- A lexeme that opens a level pays for it. -/
lemma NestAlike.enter {budget n : Nat} {nested nested' : Nested} (h : NestAlike budget nested nested')
    (hn : 0 < n) {α : Type} {f g : (Level → Reader) → Except ParseError α}
    (hfg : ∀ deeper read read', budget = deeper + 1 → nested = .ok read →
      (∀ level, ReadsAlike deeper (read level) (read' level)) →
      SameUnlessDeep (budget < n) (f read) (g read')) :
    SameUnlessDeep (budget < n) (nested >>= f) (nested' >>= g) := by
  cases h with
  | none limit nested' => exact Or.inr ⟨hn, limit, rfl⟩
  | some hread => exact hfg _ _ _ rfl rfl hread

variable {size budget : Nat} {nested nested' : Nested} (hparses : ParsesWithin nested)
  (hnested : NestAlike budget nested nested')

include hparses hnested

lemma readsAlike_primary : ReadsAlike budget (primary size nested) (primary size nested') := by
  intro ls
  cases ls with
  | nil => exact .problem ..
  | cons lexeme ls =>
    unfold primary
    dsimp only
    split
    · exact .ok _
    · exact .ok _
    · split
      · exact .ok _
      · exact .problem ..
    · refine hnested.enter (Nat.succ_pos _) fun deeper read read' hbudget _ hread => ?_
      apply ((hread .formula ls).mono (by simp; omega)).bind
      rintro ⟨inner, rest⟩ -
      exact (sameUnlessDeep_expect size .rightParen "')'" rest).bind fun _ _ => .ok _
    · refine hnested.enter (Nat.succ_pos _) fun deeper read read' hbudget hok hread => ?_
      have hitems := sameUnlessDeep_items (hparses read hok .formula) (hread .formula) size
        .rightBrace "',' or '\x7d' in list" (le_refl ls.length)
      exact (hitems.mono (by simp; omega)).bind fun _ _ => .ok _
    · split
      · refine hnested.enter (Nat.succ_pos _) fun deeper read read' hbudget hok hread => ?_
        have hitems := sameUnlessDeep_items (hparses read hok .formula) (hread .formula) size
          .rightParen "',' or ')'" (List.tail_sublist ls).length_le
        exact (hitems.mono (by simp; omega)).bind fun _ _ => .ok _
      · split
        · exact .ok _
        · exact .problem ..
    · exact .problem ..
    · exact .problem ..

lemma readsAlike_signed : ReadsAlike budget (signed size nested) (signed size nested') := by
  intro ls
  unfold signed
  split
  · next hminus =>
    obtain ⟨minus, hls, -⟩ := exists_cons_of_startsWith hminus
    rw [hls]
    refine hnested.enter (Nat.succ_pos _) fun deeper read read' hbudget _ hread => ?_
    exact ((hread .sign ls.tail).mono (by simp; omega)).bind fun _ _ => .ok _
  · split
    · next hplus =>
      obtain ⟨plus, hls, -⟩ := exists_cons_of_startsWith hplus
      rw [hls]
      refine hnested.enter (Nat.succ_pos _) fun deeper read read' hbudget _ hread => ?_
      exact (hread .sign ls.tail).mono (by simp; omega)
    · exact readsAlike_primary hparses hnested ls

lemma readsAlike_power : ReadsAlike budget (power size nested) (power size nested') := by
  intro ls
  apply (readsAlike_signed hparses hnested ls).bind
  rintro ⟨base, rest⟩ hbase
  have hlength := (parses_signed hparses).length_le hbase
  dsimp only
  split
  · next hcaret =>
    obtain ⟨caret, hrest, -⟩ := exists_cons_of_startsWith hcaret
    have htail := congrArg List.length hrest
    rw [List.length_cons] at htail
    refine hnested.enter (by omega) fun deeper read read' hbudget _ hread => ?_
    exact ((hread .power rest.tail).mono (by omega)).bind fun _ _ => .ok _
  · exact .ok _

lemma readsAlike_comparison : ReadsAlike budget (comparison size nested) (comparison size nested') := by
  have hpower : Parses .power (power size nested) := parses_power hparses
  have hproduct := parses_leftAssociative rfl readsOperator_product hpower
  have hsum := parses_leftAssociative rfl readsOperator_sum hproduct
  exact readsAlike_leftAssociative readsOperator_comparison hsum <|
    readsAlike_leftAssociative readsOperator_sum hproduct <|
      readsAlike_leftAssociative readsOperator_product hpower (readsAlike_power hparses hnested)

lemma readsAlike_negation : ReadsAlike budget (negation size nested) (negation size nested') := by
  intro ls
  unfold negation
  split
  · next hnot =>
    obtain ⟨not, hls, -⟩ := exists_cons_of_startsWithWord hnot
    rw [hls]
    refine hnested.enter (Nat.succ_pos _) fun deeper read read' hbudget _ hread => ?_
    exact ((hread .negation ls.tail).mono (by simp; omega)).bind fun _ _ => .ok _
  · exact readsAlike_comparison hparses hnested ls

lemma readsAlike_disjunction : ReadsAlike budget (disjunction size nested) (disjunction size nested') := by
  have hnegation : Parses .negation (negation size nested) := parses_negation hparses
  have hand : ReadsOperator .conjunction (wordOperator "AND" .and) := readsOperator_word fun _ => .and
  have hor : ReadsOperator .disjunction (wordOperator "OR" .or) := readsOperator_word fun _ => .or
  have hconjunction := parses_leftAssociative rfl hand hnegation
  exact readsAlike_leftAssociative hor hconjunction <|
    readsAlike_leftAssociative hand hnegation (readsAlike_negation hparses hnested)

omit hparses hnested

lemma nestAlike_nestedWithin (size limit limit' : Nat) {budget budget' : Nat} (h : budget ≤ budget') :
    NestAlike budget (nestedWithin size limit budget) (nestedWithin size limit' budget') := by
  induction budget generalizing budget' with
  | zero => exact .none limit _
  | succ budget ih =>
    obtain ⟨budget', rfl⟩ : ∃ fewer, budget' = fewer + 1 := ⟨budget' - 1, by omega⟩
    have hparses := parsesWithin_nestedWithin size limit budget
    have hnested : NestAlike budget (nestedWithin size limit budget) (nestedWithin size limit' budget') :=
      ih (by omega)
    refine .some fun level => ?_
    cases level with
    | formula => exact readsAlike_disjunction hparses hnested
    | negation => exact readsAlike_negation hparses hnested
    | power => exact readsAlike_power hparses hnested
    | sign => exact readsAlike_signed hparses hnested

mutual

/-- Every level of an expression takes a word. -/
lemma height_le_weight : (e : Expr) → e.height ≤ e.weight
  | binary _ left right => by
    have hleft := left.height_le_weight
    have hright := right.height_le_weight
    simp only [height, weight]
    omega
  | unary _ operand => by
    have hoperand := operand.height_le_weight
    simp only [height, weight]
    omega
  | call _ args => by
    have hargs := maxHeight_le_weights args
    simp only [height, weight]
    omega
  | list items => by
    have hitems := maxHeight_le_weights items
    simp only [height, weight]
    omega
  | number _ | string _ | boolean _ | null | field _ => le_rfl

lemma maxHeight_le_weights : (es : List Expr) → maxHeight es ≤ weights es
  | [] => le_rfl
  | e :: es => by
    have he := e.height_le_weight
    have hes := maxHeight_le_weights es
    simp only [maxHeight, weights]
    omega

end

lemma height_le_of_parse {limits : NestingLimits} {text : String} {e : Expr}
    (h : parse limits text = .ok e) : e.height ≤ limits.height := by
  unfold parse at h
  dsimp only at h
  split at h
  · cases h
  · obtain ⟨⟨found, rest⟩, -, h⟩ := exists_of_bind_eq_ok h
    cases rest with
    | cons lexeme rest => cases h
    | nil =>
      dsimp only at h
      split at h
      · cases h
      · next hlow =>
        cases h
        exact Nat.le_of_not_lt hlow

/-- Formulas are parsed alike under narrower and under wider limits, unless the narrower ones reject them,
and these reject only what has more lexemes than one of them allows for. -/
theorem parse_alike {limits limits' : NestingLimits} (hdepth : limits.depth ≤ limits'.depth)
    (hheight : limits.height ≤ limits'.height) (text : String) :
    SameUnlessDeep
      (limits.depth < (Lexeme.scan text.toList).length ∨ limits.height < (Lexeme.scan text.toList).length)
      (parse limits text) (parse limits' text) := by
  unfold parse
  dsimp only
  split
  · exact .problem ..
  · set size := Text.byteLength text.toList
    set ls := Lexeme.scan text.toList
    have hparses := parsesWithin_nestedWithin size limits.depth limits.depth
    have hnested := nestAlike_nestedWithin size limits.depth limits'.depth hdepth
    have hlexemes : SameUnlessDeep (limits.depth < ls.length) (ofLexemes size limits.depth ls)
        (ofLexemes size limits'.depth ls) := readsAlike_disjunction hparses hnested ls
    apply (hlexemes.mono Or.inl).bind
    rintro ⟨e, rest⟩ hread
    cases rest with
    | cons lexeme rest => exact .problem ..
    | nil =>
      obtain ⟨used, hls, hderives⟩ := parses_disjunction hparses _ _ _ hread
      have hweight := hderives.weight_le
      rw [List.append_nil] at hls
      rw [← hls, List.length_map] at hweight
      have hlevels := e.height_le_weight
      dsimp only
      split
      · next htall => exact Or.inr ⟨Or.inr (by omega), _, rfl⟩
      · next hlow =>
        rw [if_neg (by omega)]
        exact .ok _

/-- Limits only reject: what a formula is parsed as, or what is wrong with it, is the same under wider
limits; no expression is higher than the limit; and limits that allow for a level and for a step of
height with every lexeme reject nothing. -/
theorem parse_of_wider {limits limits' : NestingLimits} (hdepth : limits.depth ≤ limits'.depth)
    (hheight : limits.height ≤ limits'.height) (text : String) :
    (¬IsTooDeep (parse limits text) → parse limits' text = parse limits text) ∧
      (∀ e, parse limits text = .ok e → e.height ≤ limits.height) ∧
      ((Lexeme.scan text.toList).length ≤ limits.depth →
        (Lexeme.scan text.toList).length ≤ limits.height → ¬IsTooDeep (parse limits text)) := by
  have halike := parse_alike hdepth hheight text
  refine ⟨fun hshallow => ?_, fun e => height_le_of_parse, fun hroom hroom' => ?_⟩
  · rcases halike with ⟨hsame, -⟩ | ⟨-, hdeep⟩
    · exact hsame.symm
    · exact absurd hdeep hshallow
  · rcases halike with ⟨-, hshallow⟩ | ⟨hmore, -⟩
    · exact hshallow
    · omega

/-- The sign in the list and the parentheses after it are both at the third level. With two levels the
text is rejected for them, with three for its end, and so it is with more. -/
theorem parse_of_wider_of_unclosed :
    IsTooDeep (parse ⟨2, 4⟩ "NOT \x7b-2 ^ 3, (1 = 1)\x7d + F(") ∧
      parse ⟨3, 4⟩ "NOT \x7b-2 ^ 3, (1 = 1)\x7d + F(" = .error (.problemAt 26 .unexpectedEnd) ∧
      parse {} "NOT \x7b-2 ^ 3, (1 = 1)\x7d + F(" = .error (.problemAt 26 .unexpectedEnd) := by
  have hread : parse ⟨3, 4⟩ "NOT \x7b-2 ^ 3, (1 = 1)\x7d + F(" =
      .error (.problemAt 26 .unexpectedEnd) := rfl
  have hwider := @parse_of_wider ⟨3, 4⟩ {} (by decide) (by decide)
    "NOT \x7b-2 ^ 3, (1 = 1)\x7d + F("
  refine ⟨⟨2, rfl⟩, hread, (hwider.1 ?_).trans hread⟩
  rw [hread]
  rintro ⟨limit, h⟩
  cases h

end OlapFormula.Expr
