import Mathlib.Data.List.Pairwise
import OlapFormula.Proofs.Token.Functions

/-!
# Nesting of calls

Every call is walked on its own, with one count for brackets of all kinds. While a call inside another one
is walked both see the same brackets, so that the outer count stays ahead and the outer call cannot end, or
go on to another argument, before the inner one has ended.
-/

namespace OlapFormula

/-- One of the spans ends before the other one begins, or one is within the other. -/
def Span.ApartOrNested (a b : Span) : Prop :=
  a.stop ≤ b.start ∨ b.stop ≤ a.start ∨ a.covers b = true ∨ b.covers a = true

namespace Span

variable {a b : Span}

lemma covers_iff : a.covers b = true ↔ a.start ≤ b.start ∧ b.stop ≤ a.stop := by
  simp [covers]

lemma ApartOrNested.symm (h : a.ApartOrNested b) : b.ApartOrNested a := by
  rcases h with h | h | h | h
  exacts [.inr (.inl h), .inl h, .inr (.inr (.inr h)), .inr (.inr (.inl h))]

end Span

namespace Token

open Lexeme (AreBetween nextStart)
open OlapFormula.Expr (IsPlain AreBrackets)

section

variable {cs : List Char} {isFirst : Bool} {depth start : Nat} {lexeme : Lexeme}

/-- What a lexeme is to the walk over a call. -/
lemma kind_cases (kind : LexemeKind) :
    IsPlain kind ∨ (∃ closing, AreBrackets kind closing) ∨ (∃ opening, AreBrackets opening kind) ∨
      kind = .comma := by
  cases kind <;> simp [IsPlain, AreBrackets]

lemma shapeFrom_end {opening : LexemeKind} (h : AreBrackets opening lexeme.kind)
    (rest : List Lexeme) :
    shapeFrom cs isFirst 1 start (lexeme :: rest) =
      ⟨lastArgument cs isFirst ⟨start, lexeme.start⟩, lexeme.stop, true⟩ := by
  rcases h with ⟨-, h⟩ | ⟨-, h⟩ <;> simp only [shapeFrom, h, le_refl, if_true]

lemma shapeFrom_cut (h : lexeme.kind = .comma) (rest : List Lexeme) :
    shapeFrom cs isFirst 1 start (lexeme :: rest) =
      { shapeFrom cs false 1 lexeme.stop rest with
        arguments := ⟨start, lexeme.start⟩ :: (shapeFrom cs false 1 lexeme.stop rest).arguments } := by
  simp only [shapeFrom, h, if_true]

end

/-- What the walk does at a lexeme, whatever the argument is that it is in: it goes on in this argument, or
in the next one, or it ends. -/
inductive Meets (cs : List Char) (depth : Nat) (lexeme : Lexeme) (rest : List Lexeme) : Prop
  | passes (inner : Nat) : 1 ≤ inner →
    (∀ isFirst start, shapeFrom cs isFirst depth start (lexeme :: rest) =
      shapeFrom cs isFirst inner start rest) → Meets cs depth lexeme rest
  | cuts : (∀ isFirst start, shapeFrom cs isFirst depth start (lexeme :: rest) =
      { shapeFrom cs false 1 lexeme.stop rest with
        arguments := ⟨start, lexeme.start⟩ :: (shapeFrom cs false 1 lexeme.stop rest).arguments }) →
    Meets cs depth lexeme rest
  | ends : (∀ isFirst start, shapeFrom cs isFirst depth start (lexeme :: rest) =
      ⟨lastArgument cs isFirst ⟨start, lexeme.start⟩, lexeme.stop, true⟩) → Meets cs depth lexeme rest

lemma meets {cs : List Char} {depth : Nat} (hdepth : 1 ≤ depth) (lexeme : Lexeme) (rest : List Lexeme) :
    Meets cs depth lexeme rest := by
  rcases kind_cases lexeme.kind with hkind | ⟨_, hkind⟩ | ⟨_, hkind⟩ | hkind
  · exact .passes depth hdepth fun _ _ => shapeFrom_plain hkind rest
  · exact .passes (depth + 1) (by omega) fun _ _ => shapeFrom_opening hkind rest
  · obtain ⟨depth, rfl⟩ : ∃ outer, depth = outer + 1 := ⟨depth - 1, by omega⟩
    rcases Nat.eq_zero_or_pos depth with rfl | houter
    · exact .ends fun _ _ => shapeFrom_end hkind rest
    · exact .passes depth houter fun _ _ => shapeFrom_closing hkind houter rest
  · rcases Nat.eq_or_lt_of_le hdepth with rfl | hinner
    · exact .cuts fun _ _ => shapeFrom_cut hkind rest
    · exact .passes depth hdepth fun _ _ => shapeFrom_comma hkind hinner rest

/-- The arguments of a call come one after the other behind `start` and before its end. -/
structure CallShape.IsOrdered (start size : Nat) (shape : CallShape) : Prop where
  start_le : start ≤ shape.stop
  stop_le : shape.stop ≤ size
  within : ∀ x ∈ shape.arguments, start ≤ x.start ∧ x.start ≤ x.stop ∧ x.stop ≤ shape.stop
  pairwise : shape.arguments.Pairwise fun x y => x.stop < y.start

variable {cs : List Char}

lemma isOrdered_last {isFirst closed : Bool} {start place stop : Nat} (hplace : start ≤ place)
    (hle : place ≤ stop) (hstop : stop ≤ Text.byteLength cs) :
    CallShape.IsOrdered start (Text.byteLength cs)
      ⟨lastArgument cs isFirst ⟨start, place⟩, stop, closed⟩ := by
  refine ⟨hplace.trans hle, hstop, fun x hx => ?_, ?_⟩
  · rw [lastArgument] at hx
    split at hx
    · cases hx
    · obtain rfl := List.mem_singleton.mp hx
      exact ⟨le_rfl, hplace, hle⟩
  · rw [lastArgument]
    split
    · exact .nil
    · exact List.pairwise_singleton ..

/-- Wherever the walk over a call is, what it finds from there on is in order. -/
theorem isOrdered_shapeFrom {isFirst : Bool} {depth start : Nat} {ls : List Lexeme} (hdepth : 1 ≤ depth)
    (h : AreBetween start (Text.byteLength cs) ls) :
    (shapeFrom cs isFirst depth start ls).IsOrdered start (Text.byteLength cs) := by
  induction ls generalizing isFirst depth start with
  | nil => exact isOrdered_last h le_rfl le_rfl
  | cons l ls ih =>
    obtain ⟨hstart, hsize, hrest⟩ := h
    rcases meets hdepth l ls with ⟨inner, hinner, hmeets⟩ | hmeets | hmeets
    · rw [hmeets]
      exact ih hinner (hrest.mono (hstart.trans hsize.le))
    · have hmore : (shapeFrom cs false 1 l.stop ls).IsOrdered l.stop (Text.byteLength cs) :=
        ih le_rfl hrest
      rw [hmeets]
      refine ⟨(hstart.trans hsize.le).trans hmore.start_le, hmore.stop_le, ?_, ?_⟩
      · rw [List.forall_mem_cons]
        refine ⟨⟨le_rfl, hstart, hsize.le.trans hmore.start_le⟩, fun x hx => ?_⟩
        obtain ⟨hxstart, hx⟩ := hmore.within x hx
        exact ⟨(hstart.trans hsize.le).trans hxstart, hx⟩
      · exact .cons (fun x hx => hsize.trans_le (hmore.within x hx).1) hmore.pairwise
    · rw [hmeets]
      exact isOrdered_last hstart hsize.le hrest.le

/-! ## Two walks at once -/

section

variable {before passed rest : List Lexeme} {first : Lexeme} {isFirst : Bool}

lemma areBetween_scan (h : Lexeme.scan cs = before ++ first :: rest) :
    AreBetween first.stop (Text.byteLength cs) rest := by
  have hall := (Lexeme.scans_scan cs).areBetween
  rw [h, Nat.zero_add] at hall
  exact hall.after.2.2

lemma le_nextStart {start : Nat} (h : AreBetween start (Text.byteLength cs) rest) :
    start ≤ nextStart cs rest := by
  cases rest with
  | nil => exact h
  | cons l rest => exact h.1

/-- An argument with lexemes in it is not dropped. -/
lemma mem_lastArgument (h : Lexeme.scan cs = before ++ first :: (passed ++ rest)) (hpassed : passed ≠ []) :
    ⟨first.stop, nextStart cs rest⟩ ∈ lastArgument cs isFirst ⟨first.stop, nextStart cs rest⟩ := by
  have hfull : Text.isAllBlank (Text.slice cs ⟨first.stop, nextStart cs rest⟩) = false := by
    rw [Bool.eq_false_iff, ne_eq, ← Lexeme.words_eq_nil_iff, Lexeme.words_passed h, List.map_eq_nil_iff]
    exact hpassed
  rw [lastArgument, hfull, Bool.and_false, if_neg Bool.false_ne_true]
  exact List.mem_singleton_self _

/-- The argument that the walk is in, where some lexemes of it have been passed, goes on at least to the next
one. -/
lemma exists_current {depth : Nat} (hdepth : 1 ≤ depth)
    (h : Lexeme.scan cs = before ++ first :: (passed ++ rest)) (hpassed : passed ≠ []) :
    ∃ x ∈ (shapeFrom cs isFirst depth first.stop rest).arguments,
      x.start = first.stop ∧ nextStart cs rest ≤ x.stop := by
  induction rest generalizing depth passed with
  | nil => exact ⟨_, mem_lastArgument h hpassed, rfl, le_rfl⟩
  | cons l rest ih =>
    have hlater {depth : Nat} (hdepth : 1 ≤ depth) :
        ∃ x ∈ (shapeFrom cs isFirst depth first.stop rest).arguments,
          x.start = first.stop ∧ l.start ≤ x.stop := by
      have hmore : Lexeme.scan cs = before ++ first :: ((passed ++ [l]) ++ rest) := by
        rw [h, List.append_assoc, List.singleton_append]
      obtain ⟨x, hx, hstart, hle⟩ := ih hdepth hmore (List.append_ne_nil_of_left_ne_nil hpassed _)
      obtain ⟨-, hsize, hrest⟩ := (areBetween_scan h).after
      exact ⟨x, hx, hstart, hsize.le.trans ((le_nextStart hrest).trans hle)⟩
    rcases meets hdepth l rest with ⟨inner, hinner, hmeets⟩ | hmeets | hmeets
    · rw [hmeets]
      exact hlater hinner
    · rw [hmeets]
      exact ⟨⟨first.stop, l.start⟩, List.mem_cons_self, rfl, le_rfl⟩
    · rw [hmeets]
      exact ⟨_, mem_lastArgument h hpassed, rfl, le_rfl⟩

/-- Where an inner call is walked together with an outer one, which has `outer` more open brackets, it ends
within the argument that the outer one is in. -/
lemma exists_around {outer depth start : Nat} {isFirst' : Bool} (houter : 1 ≤ outer) (hdepth : 1 ≤ depth)
    (h : Lexeme.scan cs = before ++ first :: (passed ++ rest)) (hpassed : passed ≠ []) :
    ∃ x ∈ (shapeFrom cs isFirst (outer + depth) first.stop rest).arguments,
      x.start = first.stop ∧ (shapeFrom cs isFirst' depth start rest).stop ≤ x.stop := by
  induction rest generalizing depth passed start isFirst' with
  | nil => exact exists_current (by omega) h hpassed
  | cons l rest ih =>
    have hmore : Lexeme.scan cs = before ++ first :: ((passed ++ [l]) ++ rest) := by
      rw [h, List.append_assoc, List.singleton_append]
    have hlater := List.append_ne_nil_of_left_ne_nil hpassed [l]
    rcases kind_cases l.kind with hkind | ⟨_, hkind⟩ | ⟨_, hkind⟩ | hkind
    · rw [shapeFrom_plain hkind, shapeFrom_plain hkind]
      exact ih hdepth hmore hlater
    · rw [shapeFrom_opening hkind, shapeFrom_opening hkind, Nat.add_assoc]
      exact ih (by omega) hmore hlater
    · obtain ⟨depth, rfl⟩ : ∃ inner, depth = inner + 1 := ⟨depth - 1, by omega⟩
      rw [← Nat.add_assoc, shapeFrom_closing hkind (by omega)]
      rcases Nat.eq_zero_or_pos depth with rfl | hinner
      · -- the inner call ends here, in front of the next lexeme
        rw [shapeFrom_end hkind]
        have hcurrent : ∃ x ∈ (shapeFrom cs isFirst outer first.stop rest).arguments,
            x.start = first.stop ∧ nextStart cs rest ≤ x.stop := exists_current houter hmore hlater
        obtain ⟨x, hx, hstart, hle⟩ := hcurrent
        exact ⟨x, hx, hstart, (le_nextStart (areBetween_scan h).after.2.2).trans hle⟩
      · rw [shapeFrom_closing hkind hinner]
        exact ih hinner hmore hlater
    · rw [shapeFrom_comma hkind (by omega)]
      rcases Nat.eq_or_lt_of_le hdepth with rfl | hdepth
      · rw [shapeFrom_cut hkind]
        exact ih le_rfl hmore hlater
      · rw [shapeFrom_comma hkind hdepth]
        exact ih (by omega) hmore hlater

/-- A call that begins before an outer one ends is within one of its arguments. -/
theorem exists_covering {before passed ahead inner : List Lexeme} {first name paren : Lexeme}
    {isFirst : Bool} {depth : Nat} (hdepth : 1 ≤ depth)
    (h : Lexeme.scan cs = before ++ first :: (passed ++ (ahead ++ name :: paren :: inner)))
    (hname : name.kind = .identifier) (hparen : paren.kind = .leftParen)
    (hstart : name.start < (shapeFrom cs isFirst depth first.stop (ahead ++ name :: paren :: inner)).stop) :
    ∃ x ∈ (shapeFrom cs isFirst depth first.stop (ahead ++ name :: paren :: inner)).arguments,
      x.start ≤ name.start ∧ (shapeFrom cs true 1 paren.stop inner).stop ≤ x.stop := by
  induction ahead generalizing before passed first isFirst depth with
  | nil =>
    -- behind the parenthesis the inner walk begins, and the outer one is a bracket ahead
    have hplain : IsPlain name.kind := by simp [hname, IsPlain]
    have hopening : AreBrackets paren.kind .rightParen := .inl ⟨hparen, rfl⟩
    have hmore : Lexeme.scan cs = before ++ first :: ((passed ++ [name, paren]) ++ inner) := by
      rw [h]
      simp
    have hfirst : first.stop ≤ name.start := (areBetween_scan h).after.1
    have haround : ∃ x ∈ (shapeFrom cs isFirst (depth + 1) first.stop inner).arguments,
        x.start = first.stop ∧ (shapeFrom cs true 1 paren.stop inner).stop ≤ x.stop :=
      exists_around hdepth le_rfl hmore (List.append_ne_nil_of_right_ne_nil _ (List.cons_ne_nil _ _))
    obtain ⟨x, hx, hxstart, hstop⟩ := haround
    rw [List.nil_append, shapeFrom_plain hplain, shapeFrom_opening hopening]
    exact ⟨x, hx, hxstart.trans_le hfirst, hstop⟩
  | cons l ahead ih =>
    have hmore : Lexeme.scan cs =
        before ++ first :: ((passed ++ [l]) ++ (ahead ++ name :: paren :: inner)) := by
      rw [h]
      simp
    rw [List.cons_append] at hstart ⊢
    rcases meets hdepth l (ahead ++ name :: paren :: inner) with ⟨inside, hinside, hmeets⟩ | hmeets | hmeets
    · rw [hmeets] at hstart ⊢
      exact ih hinside hmore hstart
    · have hnext : Lexeme.scan cs =
          (before ++ first :: passed) ++ l :: ([] ++ (ahead ++ name :: paren :: inner)) := by
        rw [h]
        simp
      rw [hmeets] at hstart ⊢
      obtain ⟨x, hx, hcovers⟩ := ih le_rfl hnext hstart
      exact ⟨x, List.mem_cons_of_mem _ hx, hcovers⟩
    · -- the name stands behind the end of the outer call
      have hafter : l.stop ≤ name.start := (areBetween_scan h).after.2.2.after.1
      rw [hmeets] at hstart
      exact absurd hstart hafter.not_gt

end

/-! ## Calls of a text -/

/-- A name before a parenthesis in a text. -/
structure CallIn (cs : List Char) where
  before : List Lexeme
  name : Lexeme
  paren : Lexeme
  inner : List Lexeme
  name_kind : name.kind = .identifier
  paren_kind : paren.kind = .leftParen
  scan_eq : Lexeme.scan cs = before ++ name :: paren :: inner

namespace CallIn

variable (call : CallIn cs)

def shape : CallShape := shapeFrom cs true 1 call.paren.stop call.inner

def span : Span := ⟨call.name.start, call.shape.stop⟩

lemma scan_eq_append : Lexeme.scan cs = (call.before ++ [call.name]) ++ call.paren :: call.inner := by
  rw [call.scan_eq, List.append_assoc, List.singleton_append]

lemma name_start_lt : call.name.start < call.paren.stop := by
  have hall := (Lexeme.scans_scan cs).areBetween
  rw [call.scan_eq] at hall
  obtain ⟨-, hname, hle, hparen, -⟩ := hall.after
  omega

lemma isOrdered : call.shape.IsOrdered call.paren.stop (Text.byteLength cs) :=
  isOrdered_shapeFrom le_rfl (areBetween_scan call.scan_eq_append)

lemma start_lt_stop : call.span.start < call.span.stop :=
  call.name_start_lt.trans_le call.isOrdered.start_le

lemma covers_argument {x : Span} (hx : x ∈ call.shape.arguments) : call.span.covers x = true := by
  have hwithin := call.isOrdered.within x hx
  exact Span.covers_iff.mpr ⟨call.name_start_lt.le.trans hwithin.1, hwithin.2.2⟩

/-- The other call begins behind the parenthesis of this one. -/
def IsBefore (other : CallIn cs) : Prop :=
  ∃ ahead, call.inner = ahead ++ other.name :: other.paren :: other.inner

variable {call} {other : CallIn cs}

lemma IsBefore.start_lt (h : call.IsBefore other) : call.span.start < other.span.start := by
  obtain ⟨ahead, hahead⟩ := h
  have hbetween := areBetween_scan call.scan_eq_append
  rw [hahead] at hbetween
  exact call.name_start_lt.trans_le hbetween.after.1

lemma IsBefore.exists_covering (h : call.IsBefore other) (hstart : other.span.start < call.span.stop) :
    ∃ x ∈ call.shape.arguments, x.covers other.span = true := by
  obtain ⟨ahead, hahead⟩ := h
  have hscan : Lexeme.scan cs = (call.before ++ [call.name]) ++
      call.paren :: ([] ++ (ahead ++ other.name :: other.paren :: other.inner)) := by
    rw [call.scan_eq_append, hahead, List.nil_append]
  have hinside : other.name.start < (shapeFrom cs true 1 call.paren.stop call.inner).stop := hstart
  rw [hahead] at hinside
  obtain ⟨x, hx, hcovers⟩ :=
    Token.exists_covering le_rfl hscan other.name_kind other.paren_kind hinside
  rw [shape, hahead]
  exact ⟨x, hx, Span.covers_iff.mpr hcovers⟩

variable (call other) in
/-- Of two calls one begins before the other one. -/
lemma trichotomy : call = other ∨ call.IsBefore other ∨ other.IsBefore call := by
  obtain ⟨before, name, paren, inner, hname, hparen, hscan⟩ := call
  obtain ⟨before', name', paren', inner', hname', hparen', hscan'⟩ := other
  have hlater {between inner inner' : List Lexeme} {name paren name' paren' : Lexeme}
      (hparen : paren.kind = .leftParen) (hname' : name'.kind = .identifier)
      (h : name :: paren :: inner = between ++ name' :: paren' :: inner') :
      (between = [] ∧ name = name' ∧ paren = paren' ∧ inner = inner') ∨
        ∃ ahead, inner = ahead ++ name' :: paren' :: inner' := by
    match between with
    | [] => exact .inl ⟨rfl, by simpa using h⟩
    | [_] =>
      obtain ⟨rfl, rfl, -⟩ : _ ∧ paren = name' ∧ _ := by simpa using h
      rw [hparen] at hname'
      cases hname'
    | _ :: _ :: ahead =>
      obtain ⟨-, -, rfl⟩ : _ ∧ _ ∧ inner = ahead ++ _ := by simpa using h
      exact .inr ⟨ahead, rfl⟩
  rw [hscan] at hscan'
  rcases List.append_eq_append_iff.mp hscan' with ⟨between, rfl, h⟩ | ⟨between, rfl, h⟩
  · rcases hlater hparen hname' h with ⟨rfl, rfl, rfl, rfl⟩ | hbefore
    · simp
    · exact .inr (.inl hbefore)
  · rcases hlater hparen' hname h with ⟨rfl, rfl, rfl, rfl⟩ | hbefore
    · simp
    · exact .inr (.inr hbefore)

/-- What a token of a call answers to: the whole call or one of its arguments. -/
def Answers (call : CallIn cs) (x : Span) : Prop := x = call.span ∨ x ∈ call.shape.arguments

lemma Answers.covers {x : Span} (h : call.Answers x) : call.span.covers x = true := by
  rcases h with rfl | h
  · exact Span.covers_iff.mpr ⟨le_rfl, le_rfl⟩
  · exact call.covers_argument h

lemma eq_or_apart {x y : Span} (hx : x ∈ call.shape.arguments) (hy : y ∈ call.shape.arguments) :
    x = y ∨ x.stop < y.start ∨ y.stop < x.start := by
  have hsymm : Std.Symm fun x y : Span => x = y ∨ x.stop < y.start ∨ y.stop < x.start :=
    ⟨fun _ _ h => h.imp Eq.symm Or.symm⟩
  have hpairwise : call.shape.arguments.Pairwise
      fun x y => x = y ∨ x.stop < y.start ∨ y.stop < x.start :=
    call.isOrdered.pairwise.imp fun h => .inr (.inl h)
  exact hpairwise.forall_of_forall (fun _ _ => .inl rfl) hx hy

/-- Spans of one call. -/
lemma Answers.apartOrNested {x y : Span} (hx : call.Answers x) (hy : call.Answers y) :
    x.ApartOrNested y := by
  rcases hx with rfl | hx
  · exact .inr (.inr (.inl hy.covers))
  rcases hy with rfl | hy
  · exact .inr (.inr (.inr (call.covers_argument hx)))
  rcases eq_or_apart hx hy with rfl | h | h
  · exact .inr (.inr (.inl (Span.covers_iff.mpr ⟨le_rfl, le_rfl⟩)))
  · exact .inl h.le
  · exact .inr (.inl h.le)

/-- Spans of a call and of another one that begins behind its parenthesis. -/
lemma IsBefore.apartOrNested (h : call.IsBefore other) {x y : Span} (hx : call.Answers x)
    (hy : other.Answers y) : x.ApartOrNested y := by
  have hinner := Span.covers_iff.mp hy.covers
  by_cases hstart : other.span.start < call.span.stop
  · obtain ⟨around, haround, hcovers⟩ := h.exists_covering hstart
    rw [Span.covers_iff] at hcovers
    have hcovered : around.covers y = true := Span.covers_iff.mpr (by omega)
    rcases hx with rfl | hx
    · have houter := Span.covers_iff.mp (call.covers_argument haround)
      exact .inr (.inr (.inl (Span.covers_iff.mpr (by omega))))
    · rcases eq_or_apart hx haround with rfl | happart | happart
      · exact .inr (.inr (.inl hcovered))
      · exact .inl (by omega)
      · exact .inr (.inl (by omega))
  · have houter := Span.covers_iff.mp hx.covers
    exact .inl (by omega)

end CallIn

/-- The token is that of a call or an argument. -/
def IsOfCall (token : Token) : Prop := token.kind = .function ∨ token.kind = .argument

/-- Calls and their arguments are within each other. -/
structure AreNested (tokens : List Token) : Prop where
  interactions : ∀ a ∈ tokens, ∀ b ∈ tokens, a.IsOfCall → b.IsOfCall →
    a.interaction.ApartOrNested b.interaction
  arguments : ∀ token ∈ tokens, token.kind = .function → ∃ call, token.payload = some (.call call) ∧
    (∀ x ∈ call.arguments, x.start ≤ x.stop ∧ token.span.covers x = true) ∧
    call.arguments.Pairwise fun x y => x.stop < y.start
  around : ∀ outer ∈ tokens, ∀ inner ∈ tokens, outer ≠ inner →
    outer.kind = .function → inner.kind = .function →
    outer.span.start ≤ inner.span.start → inner.span.start < outer.span.stop →
    ∃ call, outer.payload = some (.call call) ∧
      call.arguments.countP (·.covers inner.span) = 1

/-- Exactly one of some spans in order covers what one of them covers. -/
lemma countP_covers {spans : List Span} (hspans : spans.Pairwise fun x y => x.stop < y.start)
    {inner : Span} (hinner : inner.start < inner.stop) (h : ∃ x ∈ spans, x.covers inner = true) :
    spans.countP (·.covers inner) = 1 := by
  induction hspans with
  | nil =>
    obtain ⟨x, hx, -⟩ := h
    cases hx
  | @cons x spans hlater _ ih =>
    by_cases hx : x.covers inner = true
    · have hnone : spans.countP (·.covers inner) = 0 := by
        refine List.countP_eq_zero.mpr fun y hy hcovers => ?_
        have hbefore := hlater y hy
        rw [Span.covers_iff] at hx hcovers
        omega
      rw [List.countP_cons, hnone, if_pos hx]
    · obtain ⟨y, hy, hcovers⟩ := h
      rw [List.countP_cons, if_neg hx, Nat.add_zero]
      rcases List.mem_cons.mp hy with rfl | hy
      · exact absurd hcovers hx
      · exact ih ⟨y, hy, hcovers⟩

section

variable {item? : String → Option FunctionItem} {dimensions : List DimensionToken} {token : Token}

/-- The token of a call. -/
structure CallIn.Marks (call : CallIn cs) (token : Token) : Prop where
  span : token.span = call.span
  payload : ∃ written, token.payload = some (.call written) ∧ written.arguments = call.shape.arguments

lemma exists_function (call : CallIn cs) :
    ∃ function, call.Marks function ∧
      ∀ token ∈ ofCall item? cs dimensions call.name call.paren call.inner,
        call.Answers token.interaction ∧ (token.kind = .function → token = function) := by
  refine ⟨(ofCall item? cs dimensions call.name call.paren call.inner).head (List.cons_ne_nil _ _),
    ⟨rfl, _, rfl, rfl⟩, fun token htoken => ?_⟩
  rcases List.mem_cons.mp htoken with rfl | hargument
  · exact ⟨.inl rfl, fun _ => rfl⟩
  · obtain ⟨position, hposition, rfl⟩ := List.mem_mapIdx.mp hargument
    exact ⟨.inr (List.getElem_mem hposition), nofun⟩

lemma opening?_eq_some {name paren : Lexeme} {rest inner : List Lexeme}
    (h : opening? name rest = some (paren, inner)) :
    rest = paren :: inner ∧ name.kind = .identifier ∧ paren.kind = .leftParen := by
  cases rest with
  | nil => cases h
  | cons l rest =>
    rw [opening?] at h
    split at h
    · next hkinds =>
      obtain ⟨rfl, rfl⟩ := Prod.mk.inj (Option.some.inj h)
      simp only [Bool.and_eq_true, decide_eq_true_eq, beq_iff_eq] at hkinds
      exact ⟨rfl, hkinds.1.1, hkinds.2⟩
    · cases h

lemma exists_call {before ls : List Lexeme} (hscan : Lexeme.scan cs = before ++ ls)
    (h : token ∈ calls item? cs dimensions ls) :
    ∃ call : CallIn cs, token ∈ ofCall item? cs dimensions call.name call.paren call.inner := by
  induction ls generalizing before with
  | nil => cases h
  | cons name rest ih =>
    have hlater : Lexeme.scan cs = (before ++ [name]) ++ rest := by
      rw [hscan, List.append_assoc, List.singleton_append]
    rw [calls] at h
    split at h
    · next paren inner hopening =>
      obtain ⟨rfl, hname, hparen⟩ := opening?_eq_some hopening
      rcases List.mem_append.mp h with hcall | hmore
      · exact ⟨⟨before, name, paren, inner, hname, hparen, hscan⟩, hcall⟩
      · exact ih hlater hmore
    · exact ih hlater h

end

lemma mem_calls {item? : String → Option FunctionItem} {token : Token}
    (htoken : token ∈ scanWith item? cs) (hkind : token.IsOfCall) :
    token ∈ calls item? cs (Token.dimensions cs (Lexeme.scan cs)) (Lexeme.scan cs) := by
  have hmem := (List.mergeSort_perm _ precedes).mem_iff.mp htoken
  simp only [List.mem_append, measures, numbers, brackets, List.mem_map] at hmem
  rcases hmem with (((hcalls | ⟨_, -, rfl⟩) | ⟨_, -, rfl⟩) | ⟨_, -, rfl⟩) | ⟨_, -, rfl⟩
  · exact hcalls
  all_goals rcases hkind with hkind | hkind <;> cases hkind

/-- The tokens of calls and arguments are nested, whatever the text is and whatever names stand for. -/
theorem areNested_scanWith (item? : String → Option FunctionItem) (cs : List Char) :
    AreNested (scanWith item? cs) := by
  let dimensions := Token.dimensions cs (Lexeme.scan cs)
  have hcalls {token : Token} (htoken : token ∈ scanWith item? cs) (hkind : token.IsOfCall) :
      ∃ call : CallIn cs, token ∈ ofCall item? cs dimensions call.name call.paren call.inner :=
    exists_call (List.nil_append _).symm (mem_calls htoken hkind)
  refine ⟨fun a ha b hb hakind hbkind => ?_, fun token htoken hkind => ?_,
    fun outer houter inner hinner hne houterKind hinnerKind hle hlt => ?_⟩
  · obtain ⟨call, hcall⟩ := hcalls ha hakind
    obtain ⟨other, hother⟩ := hcalls hb hbkind
    obtain ⟨_, -, hall⟩ := exists_function call
    obtain ⟨_, -, hall'⟩ := exists_function other
    have hx := (hall a hcall).1
    have hy := (hall' b hother).1
    rcases call.trichotomy other with rfl | h | h
    · exact hx.apartOrNested hy
    · exact h.apartOrNested hx hy
    · exact (h.apartOrNested hy hx).symm
  · obtain ⟨call, hcall⟩ := hcalls htoken (.inl hkind)
    obtain ⟨function, hmarks, hall⟩ := exists_function call
    obtain rfl := (hall token hcall).2 hkind
    obtain ⟨written, hpayload, hwritten⟩ := hmarks.payload
    refine ⟨written, hpayload, fun x hx => ?_, hwritten ▸ call.isOrdered.pairwise⟩
    rw [hwritten] at hx
    exact ⟨(call.isOrdered.within x hx).2.1, hmarks.span ▸ call.covers_argument hx⟩
  · obtain ⟨call, hcall⟩ := hcalls houter (.inl houterKind)
    obtain ⟨other, hother⟩ := hcalls hinner (.inl hinnerKind)
    obtain ⟨function, hmarks, hall⟩ := exists_function call
    obtain ⟨function', hmarks', hall'⟩ := exists_function other
    obtain rfl := (hall outer hcall).2 houterKind
    obtain rfl := (hall' inner hother).2 hinnerKind
    obtain ⟨written, hpayload, hwritten⟩ := hmarks.payload
    refine ⟨written, hpayload, ?_⟩
    rw [hmarks.span, hmarks'.span] at hle hlt
    rw [hwritten, hmarks'.span]
    rcases call.trichotomy other with rfl | h | h
    · exact absurd ((hall inner hother).2 hinnerKind).symm hne
    · exact countP_covers call.isOrdered.pairwise other.start_lt_stop (h.exists_covering hlt)
    · exact absurd hle h.start_lt.not_ge

/-- A brace ends the inner call, and the outer one, which is not closed, goes on. -/
example : (functions (Catalog.item? {} .bw) "F(G(1\x7d, 2".toList []
      (Lexeme.scan "F(G(1\x7d, 2".toList)).map (·.interaction) =
    [⟨0, 9⟩, ⟨2, 6⟩] := by decide +kernel

end Token

end OlapFormula
