import OlapFormula.Proofs.Expr.Sound
import OlapFormula.Proofs.Token.Shape
import OlapFormula.Token.Scan

/-!
# Tokens of calls in formulas

The calls that the scanner marks in a formula are those that the parser reads there, in the same order and
with the same arguments, except for names that are words of operators.
-/

namespace OlapFormula

namespace Token

open Lexeme (word words)
open OlapFormula.Expr (AreItems AreMoreItems HasCalls CallWords IsPlain AreBrackets startsWith)

def isFunction (token : Token) : Bool := token.kind == .function

/-- The token marks a call with this name and these arguments. -/
structure Marks (cs : List Char) (token : Token) (name : Lexeme) (call : CallWords) : Prop where
  start : token.span.start = name.start
  payload : ∃ written, token.payload = some (.call written) ∧
    written.name = String.ofList (Text.upper call.name) ∧ written.closed = true ∧
    Hold cs written.arguments (call.args.map (·.1))

variable {item? : String → Option FunctionItem} {cs : List Char} {dimensions : List DimensionToken}

variable (item? cs dimensions) in
/-- The tokens of calls from some lexemes on. -/
def functions (ls : List Lexeme) : List Token := (calls item? cs dimensions ls).filter isFunction

variable (item? cs dimensions) in
/-- The calls among the words are marked wherever the words stand in the text. -/
def AreMarked (ws : List Word) (calls : List CallWords) : Prop :=
  ∀ before ls after, Lexeme.scan cs = before ++ (ls ++ after) → ls.map word = ws →
    startsWith .leftParen after = false →
    ∃ names tokens, List.Sublist names ls ∧
      List.Forall₂ (fun name call => name.kind = .identifier ∧ name.chars = call.name) names calls ∧
      functions item? cs dimensions (ls ++ after) = tokens ++ functions item? cs dimensions after ∧
      List.Forall₂ (fun token p => Marks cs token p.1 p.2) tokens
        ((names.zip calls).filter fun p => !isOperatorWord p.1)

lemma startsWith_append {ws : List Word} {ls after : List Lexeme} (hls : ls.map word = ws)
    (hws : Expr.startsParen ws = false) (hafter : startsWith .leftParen after = false) :
    startsWith .leftParen (ls ++ after) = false := by
  cases ls with
  | nil => exact hafter
  | cons l ls =>
    subst hls
    exact hws

lemma opening?_eq_none {name : Lexeme} {rest : List Lexeme}
    (h : name.kind = .identifier → isOperatorWord name = false → startsWith .leftParen rest = false) :
    opening? name rest = none := by
  cases rest with
  | nil => rfl
  | cons paren inner =>
    unfold opening?
    dsimp only
    rw [if_neg]
    intro hname
    simp only [Bool.and_eq_true, decide_eq_true_eq, Bool.not_eq_true'] at hname
    have hparen : (paren.kind == LexemeKind.leftParen) = false := h hname.1.1 hname.1.2
    rw [hparen] at hname
    cases hname.2

lemma functions_cons {l : Lexeme} {ls : List Lexeme} (h : opening? l ls = none) :
    functions item? cs dimensions (l :: ls) = functions item? cs dimensions ls := by
  simp only [functions, calls, h]

/-- Of the tokens of a call the first one is that of a function. -/
lemma exists_ofCall (name paren : Lexeme) (inner : List Lexeme) :
    ∃ token tokens, ofCall item? cs dimensions name paren inner = token :: tokens ∧
      isFunction token = true ∧ tokens.filter isFunction = [] ∧ token.span.start = name.start ∧
      ∃ written, token.payload = some (.call written) ∧
        written.name = String.ofList (Text.upper name.chars) ∧
        written.arguments = (shapeFrom cs true 1 paren.stop inner).arguments ∧
        written.closed = (shapeFrom cs true 1 paren.stop inner).closed := by
  have harguments : ((shapeFrom cs true 1 paren.stop inner).arguments.mapIdx
      (argument cs (item? (String.ofList (Text.upper name.chars))))).filter isFunction = [] := by
    refine List.filter_eq_nil_iff.mpr fun token htoken => ?_
    obtain ⟨position, hposition, rfl⟩ := List.mem_mapIdx.mp htoken
    exact nofun
  exact ⟨_, _, rfl, rfl, harguments, rfl, _, rfl, rfl, rfl, rfl⟩

namespace AreMarked

lemma nil : AreMarked item? cs dimensions [] [] := by
  intro before ls after _ hls _
  obtain rfl : ls = [] := List.map_eq_nil_iff.mp hls
  exact ⟨[], [], .refl _, .nil, rfl, .nil⟩

lemma append {ws vs : List Word} {calls more : List CallWords}
    (h : AreMarked item? cs dimensions ws calls) (hmore : AreMarked item? cs dimensions vs more)
    (hvs : Expr.startsParen vs = false) :
    AreMarked item? cs dimensions (ws ++ vs) (calls ++ more) := by
  intro before ls after hscan hls hafter
  obtain ⟨lsw, lsv, rfl, hlsw, hlsv⟩ := List.map_eq_append_iff.mp hls
  rw [List.append_assoc] at hscan
  obtain ⟨names, tokens, hnames, hcalls, hfunctions, hmarks⟩ :=
    h before lsw (lsv ++ after) hscan hlsw (startsWith_append hlsv hvs hafter)
  rw [← List.append_assoc] at hscan
  obtain ⟨names', tokens', hnames', hcalls', hfunctions', hmarks'⟩ :=
    hmore (before ++ lsw) lsv after hscan hlsv hafter
  refine ⟨names ++ names', tokens ++ tokens', hnames.append hnames',
    List.rel_append hcalls hcalls', ?_, ?_⟩
  · rw [List.append_assoc, hfunctions, hfunctions', List.append_assoc]
  · rw [List.zip_append hcalls.length_eq, List.filter_append]
    exact List.rel_append hmarks hmarks'

/-- A lexeme that is not the name of a call is passed over. -/
lemma skip {w : Word} {ws : List Word} {calls : List CallWords}
    (hw : w.1 = .identifier → Expr.isOperatorWord w = false → Expr.startsParen ws = false)
    (h : AreMarked item? cs dimensions ws calls) : AreMarked item? cs dimensions (w :: ws) calls := by
  intro before ls after hscan hls hafter
  obtain ⟨l, lexemes, rfl, rfl, hlexemes⟩ := List.map_eq_cons_iff.mp hls
  have hnone : opening? l (lexemes ++ after) = none :=
    opening?_eq_none fun hkind hword => startsWith_append hlexemes (hw hkind hword) hafter
  obtain ⟨names, tokens, hnames, hcalls, hfunctions, hmarks⟩ :=
    h (before ++ [l]) lexemes after (by rw [hscan]; simp) hlexemes hafter
  refine ⟨names, tokens, hnames.cons l, hcalls, ?_, hmarks⟩
  rw [List.cons_append, functions_cons hnone, hfunctions]

lemma items {items : List (List Word × List CallWords)}
    (h : ∀ item ∈ items, AreMarked item? cs dimensions item.1 item.2) {ws : List Word}
    (hlist : AreItems (items.map (·.1)) ws) :
    AreMarked item? cs dimensions ws (items.flatMap (·.2)) := by
  have hmore {items : List (List Word × List CallWords)}
      (h : ∀ item ∈ items, AreMarked item? cs dimensions item.1 item.2) {ws : List Word}
      (hlist : AreMoreItems (items.map (·.1)) ws) :
      AreMarked item? cs dimensions ws (items.flatMap (·.2)) ∧ Expr.startsParen ws = false := by
    induction items generalizing ws with
    | nil =>
      cases hlist
      exact ⟨.nil, rfl⟩
    | cons item items ih =>
      rw [List.forall_mem_cons] at h
      obtain - | ⟨hcomma, hlist⟩ := hlist
      obtain ⟨hmarked, hstart⟩ := ih h.2 hlist
      refine ⟨(h.1.append hmarked hstart).skip fun hkind => ?_, by simp [Expr.startsParen, hcomma]⟩
      rw [hcomma] at hkind
      cases hkind
  cases items with
  | nil =>
    cases hlist
    exact .nil
  | cons item items =>
    rw [List.forall_mem_cons] at h
    obtain - | hlist := hlist
    obtain ⟨hmarked, hstart⟩ := hmore h.2 hlist
    exact h.1.append hmarked hstart

/-- The name of a call is marked if it is not the word of an operator. -/
lemma call {name : List Char} {opening closing : Word} {ws vs : List Word}
    {args : List (List Word × Expr)} {calls : List CallWords} (hopening : opening.1 = .leftParen)
    (hclosing : closing.1 = .rightParen) (hargs : ∀ arg ∈ args, Expr.Derives .disjunction arg.1 arg.2)
    (hlist : AreItems (args.map (·.1)) ws)
    (h : AreMarked item? cs dimensions (opening :: (ws ++ closing :: vs)) calls) :
    AreMarked item? cs dimensions ((.identifier, name) :: opening :: (ws ++ closing :: vs))
      (⟨name, args⟩ :: calls) := by
  intro before ls after hscan hls hafter
  obtain ⟨l, lexemes, rfl, hl, hlexemes⟩ := List.map_eq_cons_iff.mp hls
  obtain ⟨hkind, hchars⟩ : l.kind = .identifier ∧ l.chars = name := Prod.mk.inj hl
  obtain ⟨names, tokens, hnames, hcalls, hfunctions, hmarks⟩ :=
    h (before ++ [l]) lexemes after (by rw [hscan]; simp) hlexemes hafter
  have hname : List.Sublist (l :: names) (l :: lexemes) := hnames.cons_cons l
  have hall : List.Forall₂ (fun name call => name.kind = .identifier ∧ name.chars = call.name)
      (l :: names) (⟨name, args⟩ :: calls) := .cons ⟨hkind, hchars⟩ hcalls
  by_cases hword : isOperatorWord l = true
  · have hnone : opening? l (lexemes ++ after) = none :=
      opening?_eq_none fun _ hno => by rw [hword] at hno; cases hno
    refine ⟨l :: names, tokens, hname, hall, ?_, ?_⟩
    · rw [List.cons_append, functions_cons hnone, hfunctions]
    · rw [List.zip_cons_cons, List.filter_cons_of_neg (by simp [hword])]
      exact hmarks
  · obtain ⟨paren, inner, rfl, hparen, -, hinner⟩ := Expr.exists_lexeme hlexemes
    obtain ⟨lsi, tail, rfl, hlsi, htail⟩ := List.map_eq_append_iff.mp hinner
    obtain ⟨close, rest, rfl, hclose, -, -⟩ := Expr.exists_lexeme htail
    have hpassed : ∀ us ∈ args.map (·.1), IsPassed us ∧ us ≠ [] := by
      refine List.forall_mem_map.mpr fun arg harg => ?_
      obtain ⟨d, calls, -, hcalls⟩ := (hargs arg harg).exists_calls
      exact ⟨isPassed_of_hasCalls hcalls.among, (hargs arg harg).ne_nil⟩
    have hcut : Lexeme.scan cs = (before ++ [l]) ++ paren :: (lsi ++ close :: (rest ++ after)) := by
      rw [hscan]
      simp
    obtain ⟨spans, hshape, hspans⟩ :=
      shapeFrom_call hlist hpassed hcut hlsi (hclose.trans hclosing)
    obtain ⟨token, others, htokens, hfunction, hothers, hstart, written, hpayload, hcalled, hwritten,
      hclosed⟩ := @exists_ofCall item? cs dimensions l paren (lsi ++ close :: (rest ++ after))
    have hopen : opening? l (paren :: (lsi ++ close :: (rest ++ after))) =
        some (paren, lsi ++ close :: (rest ++ after)) := by
      simp [opening?, hkind, hword, hparen.trans hopening]
    refine ⟨l :: names, token :: tokens, hname, hall, ?_, ?_⟩
    · simp only [List.cons_append, List.append_assoc] at hfunctions ⊢
      rw [functions, Token.calls, hopen, List.filter_append, htokens,
        List.filter_cons_of_pos hfunction, hothers]
      exact congrArg (token :: ·) hfunctions
    · rw [List.zip_cons_cons, List.filter_cons_of_pos (by simp [hword])]
      refine .cons ⟨hstart, written, hpayload, ?_, ?_, ?_⟩ hmarks
      · rw [hcalled, hchars]
      · rw [hclosed, hshape]
      · rw [hwritten, hshape]
        exact hspans

end AreMarked

theorem areMarked_of_hasCalls {ws : List Word} {calls : List CallWords} (h : HasCalls ws calls) :
    AreMarked item? cs dimensions ws calls := by
  induction h with
  | nil => exact .nil
  | word _ hparen _ ih => exact ih.skip hparen
  | group hbrackets _ hlist _ ihitems ih =>
    have hkinds {opening closing : LexemeKind} (h : AreBrackets opening closing) :
        opening ≠ .identifier ∧ closing ≠ .identifier ∧ closing ≠ .leftParen := by
      rcases h with ⟨rfl, rfl⟩ | ⟨rfl, rfl⟩ <;> decide
    obtain ⟨hopening, hclosing, hstart⟩ := hkinds hbrackets
    have hafter := ih.skip fun hname => absurd hname hclosing
    refine ((AreMarked.items ihitems hlist).append hafter ?_).skip fun hname => absurd hname hopening
    simpa [Expr.startsParen] using hstart
  | call hopening hclosing hargs hlist _ ih => exact ih.call hopening hclosing hargs hlist

end Token

end OlapFormula
