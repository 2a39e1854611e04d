import OlapFormula.Proofs.Expr.Complete
import OlapFormula.Proofs.Expr.Induction
import OlapFormula.Token.Calls

/-!
# Calls in formulas

The calls of an expression, and where they stand among the words that derive it: a name in front of
parentheses, unless it is the word of an operator, and inside them arguments that are formulas of their
own.
-/

namespace OlapFormula.Expr

mutual

/-- The calls in an expression with their arguments, the outer ones before those in their arguments. -/
def calls : Expr → List (String × List Expr)
  | binary _ left right => calls left ++ calls right
  | unary _ operand => calls operand
  | call name args => (name, args) :: callsOfAll args
  | list items => callsOfAll items
  | _ => []

def callsOfAll : List Expr → List (String × List Expr)
  | [] => []
  | e :: es => calls e ++ callsOfAll es

end

lemma callsOfAll_eq (es : List Expr) : callsOfAll es = es.flatMap calls := by
  induction es with
  | nil => rfl
  | cons e es ih => rw [callsOfAll, List.flatMap_cons, ih]

/-- The arguments of calls are less high than what they are in. -/
lemma height_lt_of_mem_calls {e : Expr} {call : String × List Expr} (hcall : call ∈ e.calls)
    {arg : Expr} (harg : arg ∈ call.2) : arg.height < e.height := by
  have hmax {e : Expr} {es : List Expr} (he : e ∈ es) : e.height ≤ maxHeight es := by
    induction es with
    | nil => cases he
    | cons first rest ih =>
      rcases List.mem_cons.mp he with rfl | he
      · exact le_max_left ..
      · exact (ih he).trans (le_max_right ..)
  have hparts {es : List Expr} (ih : ∀ e ∈ es, call ∈ e.calls → arg.height < e.height)
      (hcall : call ∈ callsOfAll es) : arg.height < 1 + maxHeight es := by
    rw [callsOfAll_eq] at hcall
    obtain ⟨e, he, hcall⟩ := List.mem_flatMap.mp hcall
    have hlt := ih e he hcall
    have hle := hmax he
    omega
  induction e using Expr.induction with
  | number spelling | string value | boolean value | null | field reference => cases hcall
  | binary op left right ihleft ihright =>
    rw [height]
    rcases List.mem_append.mp hcall with hcall | hcall
    · have hlt := ihleft hcall
      omega
    · have hlt := ihright hcall
      omega
  | unary op operand ih =>
    rw [height]
    have hlt := ih hcall
    omega
  | call name args ih =>
    rcases List.mem_cons.mp hcall with rfl | hcall
    · exact Nat.lt_one_add_iff.mpr (hmax harg)
    · exact hparts ih hcall
  | list items ih => exact hparts ih hcall

/-- A call among words: its name as it is written, and the words of each argument with what they
derive. -/
structure CallWords where
  name : List Char
  args : List (List Word × Expr)

/-- The call as a part of an expression. -/
def CallWords.parsed (call : CallWords) : String × List Expr :=
  (String.ofList (Text.upper call.name), call.args.map (·.2))

/-- The word is that of an operator, even in front of a parenthesis. -/
def isOperatorWord (w : Word) : Bool := ["AND", "OR", "NOT", "IN"].any fun keyword => isKeyword keyword w

def startsParen : List Word → Bool
  | [] => false
  | w :: _ => w.1 == .leftParen

/-- The word is neither a bracket nor a comma. -/
def IsPlain (kind : LexemeKind) : Prop :=
  kind ∉ [.leftParen, .rightParen, .leftBrace, .rightBrace, .comma]

/-- Brackets that belong together. -/
def AreBrackets (opening closing : LexemeKind) : Prop :=
  (opening = .leftParen ∧ closing = .rightParen) ∨ (opening = .leftBrace ∧ closing = .rightBrace)

/-- All brackets are closed, commas are inside brackets only, and these are the calls from left to
right. -/
inductive HasCalls : List Word → List CallWords → Prop
  | nil : HasCalls [] []
  | word {w : Word} {ws : List Word} {calls : List CallWords} : IsPlain w.1 →
    (w.1 = .identifier → isOperatorWord w = false → startsParen ws = false) →
    HasCalls ws calls → HasCalls (w :: ws) calls
  | group {opening closing : Word} {ws vs : List Word} {items : List (List Word × List CallWords)}
    {calls : List CallWords} : AreBrackets opening.1 closing.1 →
    (∀ item ∈ items, HasCalls item.1 item.2) → AreItems (items.map (·.1)) ws → HasCalls vs calls →
    HasCalls (opening :: (ws ++ closing :: vs)) (items.flatMap (·.2) ++ calls)
  | call {name : List Char} {opening closing : Word} {ws vs : List Word}
    {args : List (List Word × Expr)} {calls : List CallWords} : opening.1 = .leftParen →
    closing.1 = .rightParen → (∀ arg ∈ args, Derives .disjunction arg.1 arg.2) →
    AreItems (args.map (·.1)) ws → HasCalls (opening :: (ws ++ closing :: vs)) calls →
    HasCalls ((.identifier, name) :: opening :: (ws ++ closing :: vs)) (⟨name, args⟩ :: calls)

namespace HasCalls

lemma append {ws vs : List Word} {calls more : List CallWords} (h : HasCalls ws calls)
    (hvs : startsParen vs = false) (hmore : HasCalls vs more) : HasCalls (ws ++ vs) (calls ++ more) := by
  induction h with
  | nil => exact hmore
  | @word w ws calls hplain hparen _ ih =>
    refine .word hplain (fun hkind hword => ?_) ih
    cases ws with
    | nil => exact hvs
    | cons v ws => exact hparen hkind hword
  | group hbrackets hitems hlist _ _ ih =>
    rw [List.cons_append, List.append_assoc, List.cons_append, List.append_assoc]
    exact .group hbrackets hitems hlist ih
  | call hopening hclosing hargs hlist _ ih =>
    simp only [List.cons_append, List.append_assoc] at ih ⊢
    exact .call hopening hclosing hargs hlist ih

lemma single {w : Word} (hplain : IsPlain w.1) : HasCalls [w] [] := .word hplain (fun _ _ => rfl) .nil

/-- After the word of an operator anything may follow. -/
lemma operator {w : Word} (hplain : IsPlain w.1) (hword : w.1 = .identifier → isOperatorWord w = true)
    {ws : List Word} {calls : List CallWords} (h : HasCalls ws calls) : HasCalls (w :: ws) calls :=
  .word hplain (fun hkind hno => by rw [hword hkind] at hno; cases hno) h

lemma keyword {keyword : String} (hkeyword : keyword ∈ ["AND", "OR", "NOT", "IN"]) {w : Word}
    (hw : isKeyword keyword w) {ws : List Word} {calls : List CallWords} (h : HasCalls ws calls) :
    HasCalls (w :: ws) calls :=
  h.operator (by rw [kind_of_word hw]; simp [IsPlain])
    fun _ => List.any_eq_true.mpr ⟨keyword, hkeyword, hw⟩

lemma symbol {kind : LexemeKind} {w : Word} (hw : w.1 = kind) (hplain : IsPlain kind)
    (hkind : kind ≠ .identifier) {ws : List Word} {calls : List CallWords} (h : HasCalls ws calls) :
    HasCalls (w :: ws) calls :=
  h.operator (hw ▸ hplain) fun hname => absurd (hw.symm.trans hname) hkind

/-- An operator of a rule in front of an operand. -/
lemma hasOperator {rule : Rule} {vs us : List Word} {op : BinaryOperator}
    (hop : rule.HasOperator vs op) {calls : List CallWords} (h : HasCalls us calls) :
    HasCalls (vs ++ us) calls ∧ startsParen (vs ++ us) = false := by
  have hstart {kind : LexemeKind} {w : Word} (hw : w.1 = kind) (hkind : kind ≠ .leftParen)
      (ws : List Word) : startsParen (w :: ws) = false := by
    simp [startsParen, hw, hkind]
  cases hop with
  | or hw | and hw | isIn hw =>
    exact ⟨h.keyword (by decide) hw, hstart (kind_of_word hw) (by decide) _⟩
  | notIn hw hv =>
    exact ⟨(h.keyword (by decide) hv).keyword (by decide) hw, hstart (kind_of_word hw) (by decide) _⟩
  | equal hw | notEqual hw | less hw | lessEqual hw | greater hw | greaterEqual hw | add hw
  | subtract hw | multiply hw | divide hw =>
    exact ⟨h.symbol hw (by unfold IsPlain; decide) (by decide), hstart hw (by decide) _⟩

/-- One formula in brackets is a list of one item. -/
lemma parens {opening closing : Word} (hopening : opening.1 = .leftParen)
    (hclosing : closing.1 = .rightParen) {ws : List Word} {calls : List CallWords}
    (h : HasCalls ws calls) : HasCalls (opening :: (ws ++ [closing])) calls := by
  have hitems : AreItems [ws] (ws ++ []) := .cons .nil
  rw [List.append_nil] at hitems
  have hgroup : HasCalls (opening :: (ws ++ closing :: [])) ([(ws, calls)].flatMap (·.2) ++ []) :=
    .group (Or.inl ⟨hopening, hclosing⟩) (by simpa using h) hitems .nil
  simpa using hgroup

lemma items {opening closing : Word} (hbrackets : AreBrackets opening.1 closing.1)
    {parts : List (List Word × Expr)} {calls : List Word × Expr → List CallWords}
    (h : ∀ item ∈ parts, HasCalls item.1 (calls item)) {ws : List Word}
    (hlist : AreItems (parts.map (·.1)) ws) :
    HasCalls (opening :: (ws ++ [closing])) (parts.flatMap calls) := by
  have hgroup : HasCalls (opening :: (ws ++ closing :: []))
      ((parts.map fun item => (item.1, calls item)).flatMap (·.2) ++ []) :=
    .group hbrackets (List.forall_mem_map.mpr h)
      (by simpa [List.map_map, Function.comp_def] using hlist) .nil
  simpa [List.flatMap_map, List.append_nil] using hgroup

end HasCalls

/-- The arguments of a call are read with less room for nesting. -/
def CallWords.IsWithin (d : Nat) (call : CallWords) : Prop :=
  ∀ arg ∈ call.args, ∃ depth < d, IsRead .disjunction depth arg.1 arg.2

/-- The calls of what words derive, given how deep reading it nests. -/
structure AreCalls (d : Nat) (ws : List Word) (e : Expr) (calls : List CallWords) : Prop where
  among : HasCalls ws calls
  parsed : e.calls = calls.map CallWords.parsed
  within : ∀ call ∈ calls, call.IsWithin d

lemma CallWords.IsWithin.mono {a b : Nat} (hab : a ≤ b) {call : CallWords} (h : call.IsWithin a) :
    call.IsWithin b :=
  fun arg harg => (h arg harg).imp fun _ h => ⟨h.1.trans_le hab, h.2⟩

namespace AreCalls

lemma none {w : Word} (hplain : IsPlain w.1) {e : Expr} (he : e.calls = []) : AreCalls 0 [w] e [] :=
  ⟨.single hplain, he, fun _ h => nomatch h⟩

/-- Something is put around or in front of a formula. -/
lemma wrap {d : Nat} {ws vs : List Word} {e e' : Expr} {calls : List CallWords} (h : AreCalls d ws e calls)
    (hvs : HasCalls vs calls) (he : e'.calls = e.calls) : AreCalls (d + 1) vs e' calls :=
  ⟨hvs, he.trans h.parsed, fun call hcall => (h.within call hcall).mono (Nat.le_succ d)⟩

lemma binary {a b d : Nat} (ha : a ≤ d) (hb : b ≤ d) {ws vs us : List Word} {op : BinaryOperator}
    {left right : Expr} {calls more : List CallWords} (hleft : AreCalls a ws left calls)
    (hright : AreCalls b us right more) (hvs : HasCalls (vs ++ us) more)
    (hstart : startsParen (vs ++ us) = false) :
    AreCalls d (ws ++ (vs ++ us)) (.binary op left right) (calls ++ more) where
  among := hleft.among.append hstart hvs
  parsed := by rw [Expr.calls, hleft.parsed, hright.parsed, List.map_append]
  within := List.forall_mem_append.mpr
    ⟨fun call hcall => (hleft.within call hcall).mono ha,
      fun call hcall => (hright.within call hcall).mono hb⟩

variable {items : List (List Word × Expr)} {depth : List Word × Expr → Nat}
  {calls : List Word × Expr → List CallWords}
  (h : ∀ item ∈ items, AreCalls (depth item) item.1 item.2 (calls item))

include h

lemma parsed_items : callsOfAll (items.map (·.2)) = (items.flatMap calls).map CallWords.parsed := by
  rw [callsOfAll_eq, List.flatMap_map, List.map_flatMap]
  exact List.flatMap_congr fun item hitem => (h item hitem).parsed

lemma within_items : ∀ call ∈ items.flatMap calls, call.IsWithin (deepest (items.map depth) + 1) := by
  intro call hcall
  obtain ⟨item, hitem, hcall⟩ := List.mem_flatMap.mp hcall
  refine ((h item hitem).within call hcall).mono (Nat.le_succ_of_le ?_)
  exact le_deepest (List.mem_map_of_mem hitem)

end AreCalls

/-- Every call of a formula stands among its words. -/
theorem Derives.exists_calls {rule : Rule} {ws : List Word} {e : Expr} (h : Derives rule ws e) :
    ∃ d calls, IsRead rule d ws e ∧ AreCalls d ws e calls := by
  have hplain {kind : LexemeKind} {w : Word} (hw : w.1 = kind) (hkind : IsPlain kind) : IsPlain w.1 :=
    hw ▸ hkind
  induction h with
  | operand hnext _ ih =>
    obtain ⟨d, calls, hread, hcalls⟩ := ih
    exact ⟨d, calls, hread.operand hnext, hcalls⟩
  | binary hnext _ hop _ ihleft ihright =>
    obtain ⟨a, calls, hleft, hcalls⟩ := ihleft
    obtain ⟨b, more, hright, hmore⟩ := ihright
    obtain ⟨hamong, hstart⟩ := hmore.among.hasOperator hop
    refine ⟨_, calls ++ more, hleft.binary hnext hop hright, ?_⟩
    rw [List.append_assoc]
    exact hcalls.binary (le_max_left a b) (le_max_right a b) hmore hamong hstart
  | not hw _ ih =>
    obtain ⟨d, calls, hread, hcalls⟩ := ih
    exact ⟨_, calls, hread.not hw, hcalls.wrap (hcalls.among.keyword (by decide) hw) rfl⟩
  | comparison hw _ ih =>
    obtain ⟨d, calls, hread, hcalls⟩ := ih
    exact ⟨d, calls, hread.comparison hw, hcalls⟩
  | base _ ih =>
    obtain ⟨d, calls, hread, hcalls⟩ := ih
    exact ⟨d, calls, hread.base, hcalls⟩
  | @power w _ us _ _ _ hw _ ihbase ihexponent =>
    obtain ⟨a, calls, hbase, hcalls⟩ := ihbase
    obtain ⟨b, more, hexponent, hmore⟩ := ihexponent
    have hamong : HasCalls ([w] ++ us) more :=
      hmore.among.symbol hw (by unfold IsPlain; decide) (by decide)
    have hstart : startsParen ([w] ++ us) = Bool.false := by simp [startsParen, hw]
    refine ⟨_, calls ++ more, hbase.power hw hexponent, ?_⟩
    exact hcalls.binary (le_max_left ..) ((Nat.le_succ b).trans (le_max_right ..)) hmore hamong hstart
  | negate hw _ ih =>
    obtain ⟨d, calls, hread, hcalls⟩ := ih
    have hamong := hcalls.among.symbol hw (by unfold IsPlain; decide) (by decide)
    exact ⟨_, calls, hread.negate hw, hcalls.wrap hamong rfl⟩
  | plus hw _ ih =>
    obtain ⟨d, calls, hread, hcalls⟩ := ih
    have hamong := hcalls.among.symbol hw (by unfold IsPlain; decide) (by decide)
    exact ⟨_, calls, hread.plus hw, hcalls.wrap hamong rfl⟩
  | primary _ ih =>
    obtain ⟨d, calls, hread, hcalls⟩ := ih
    exact ⟨d, calls, hread.primary, hcalls⟩
  | number cs =>
    exact ⟨0, [], isRead_word (by simp) (reads_number cs) le_rfl, .none (by simp [IsPlain]) rfl⟩
  | string cs =>
    exact ⟨0, [], isRead_word (by simp) (reads_string cs) le_rfl, .none (by simp [IsPlain]) rfl⟩
  | field hreference =>
    exact ⟨0, [], isRead_word (by simp) (reads_field hreference) le_rfl, .none (by simp [IsPlain]) rfl⟩
  | parens hopening _ hclosing ih =>
    obtain ⟨d, calls, hread, hcalls⟩ := ih
    exact ⟨_, calls, hread.parens hopening hclosing,
      hcalls.wrap (hcalls.among.parens hopening hclosing) rfl⟩
  | true hw =>
    exact ⟨0, [], isRead_name hw (fun _ h => if_pos h) le_rfl,
      .none (hplain (kind_of_word hw) (by unfold IsPlain; decide)) rfl⟩
  | false hw =>
    exact ⟨0, [], isRead_false hw, .none (hplain (kind_of_word hw) (by unfold IsPlain; decide)) rfl⟩
  | null hw =>
    exact ⟨0, [], isRead_null hw, .none (hplain (kind_of_word hw) (by unfold IsPlain; decide)) rfl⟩
  | list hopening _ hlist hclosing ih =>
    choose! depth calls hread hcalls using ih
    refine ⟨_, _, isRead_list hread hlist hopening hclosing, ?_, ?_, AreCalls.within_items hcalls⟩
    · exact .items (Or.inr ⟨hopening, hclosing⟩) (fun item hitem => (hcalls item hitem).among) hlist
    · exact AreCalls.parsed_items hcalls
  | @call name _ _ _ items hopening hitems hlist hclosing ih =>
    choose! depth calls hread hcalls using ih
    refine ⟨_, ⟨name, items⟩ :: items.flatMap calls,
      isRead_call hread hlist hopening hclosing, ?_, ?_, ?_⟩
    · refine .call hopening hclosing hitems hlist ?_
      exact .items (Or.inl ⟨hopening, hclosing⟩) (fun item hitem => (hcalls item hitem).among) hlist
    · rw [Expr.calls, List.map_cons, AreCalls.parsed_items hcalls]
      rfl
    · refine List.forall_mem_cons.mpr ⟨fun arg harg => ?_, AreCalls.within_items hcalls⟩
      exact ⟨depth arg, Nat.lt_succ_of_le (le_deepest (List.mem_map_of_mem harg)), hread arg harg⟩

end OlapFormula.Expr
