import Mathlib.Data.List.Nodup
import OlapFormula.Proofs.Expr.Calls
import OlapFormula.Proofs.Text.Case
import OlapFormula.Proofs.Token.Functions

/-!
# The scanner and the parser

Of a formula that is parsed the tokens of functions are the calls of its expression in pre-order, closed
and with the same arguments. Calls named like operators have none: where a keyword stands before a
parenthesis the scanner takes it for the operator.
-/

namespace OlapFormula

namespace Token

open OlapFormula.Expr (CallWords)

/-- A call that is named like an operator. A dotless `ı` is no letter of keywords, though it is an `I` in
names. -/
def isOperatorCall (name : Lexeme) (call : String × List Expr) : Bool :=
  ["AND", "OR", "NOT", "IN"].contains call.1 && !name.chars.contains 'ı'

lemma isOperatorCall_eq {name : Lexeme} (hkind : name.kind = .identifier) (args : List Expr) :
    isOperatorCall name (String.ofList (Text.upper name.chars), args) = isOperatorWord name := by
  have hletters : ∀ keyword ∈ ["AND", "OR", "NOT", "IN"], keyword.toList ⊆ Text.operatorLetters := by
    simp only [List.forall_mem_cons]
    decide
  rw [Bool.eq_iff_iff, isOperatorCall, Bool.and_eq_true, isOperatorWord, List.any_eq_true,
    List.contains_iff_mem, Bool.not_eq_true', Bool.eq_false_iff, ne_eq, List.contains_iff_mem]
  have hkeyword {keyword : String} (h : keyword ∈ ["AND", "OR", "NOT", "IN"]) :
      name.isKeyword keyword = true ↔
        String.ofList (Text.upper name.chars) = keyword ∧ 'ı' ∉ name.chars := by
    rw [Lexeme.isKeyword, hkind, beq_self_eq_true, Bool.true_and,
      Text.equalIgnoringCase_iff (hletters keyword h), ← String.toList_inj, String.toList_ofList]
  constructor
  · rintro ⟨hnamed, hdotted⟩
    exact ⟨_, hnamed, (hkeyword hnamed).mpr ⟨rfl, hdotted⟩⟩
  · rintro ⟨keyword, hmem, hword⟩
    obtain ⟨rfl, hdotted⟩ := (hkeyword hmem).mp hword
    exact ⟨hmem, hdotted⟩

lemma precedes_trans (a b c : Token) (hab : precedes a b = true) (hbc : precedes b c = true) :
    precedes a c = true := by
  simp only [precedes, Bool.or_eq_true, Bool.and_eq_true, decide_eq_true_eq, beq_iff_eq] at *
  omega

lemma precedes_total (a b : Token) : (precedes a b || precedes b a) = true := by
  simp only [precedes, Bool.or_eq_true, Bool.and_eq_true, decide_eq_true_eq, beq_iff_eq]
  omega

section

variable (item? : String → Option FunctionItem) (cs : List Char)

/-- Sorting aside, what is marked as a function is what the calls give. -/
lemma filter_scanWith_perm :
    List.Perm ((scanWith item? cs).filter isFunction)
      (functions item? cs (dimensions cs (Lexeme.scan cs)) (Lexeme.scan cs)) := by
  have hnone {α : Type} (xs : List α) (f : α → Token) (hf : ∀ x, isFunction (f x) = false) :
      (xs.map f).filter isFunction = [] := by
    refine List.filter_eq_nil_iff.mpr (List.forall_mem_map.mpr fun x _ => ?_)
    rw [hf]
    exact Bool.false_ne_true
  refine ((List.mergeSort_perm _ precedes).filter isFunction).trans (.of_eq ?_)
  simp only [List.filter_append, measures, numbers, brackets]
  rw [hnone _ DimensionToken.toToken fun _ => rfl, hnone _ _ fun _ => rfl,
    hnone _ _ fun _ => rfl, hnone _ _ fun _ => rfl]
  simp [functions]

/-- The tokens of functions are found in the order of the text. -/
lemma filter_scanWith :
    let marked := functions item? cs (dimensions cs (Lexeme.scan cs)) (Lexeme.scan cs)
    marked.Pairwise (fun a b => a.span.start < b.span.start) →
      (scanWith item? cs).filter isFunction = marked := by
  intro marked hmarked
  have hperm := filter_scanWith_perm item? cs
  have hsorted : ((scanWith item? cs).filter isFunction).Pairwise
      fun a b => a.span.start ≤ b.span.start := by
    refine ((List.pairwise_mergeSort precedes_trans precedes_total _).filter _).imp fun {a b} h => ?_
    simp only [precedes, Bool.or_eq_true, Bool.and_eq_true, decide_eq_true_eq, beq_iff_eq] at h
    omega
  have hdistinct : (marked.map (·.span.start)).Nodup :=
    (List.pairwise_map.mpr hmarked).imp Nat.ne_of_lt
  refine hperm.eq_of_pairwise (fun a b ha hb hle hge => ?_) hsorted (hmarked.imp Nat.le_of_lt)
  exact List.inj_on_of_nodup_map hdistinct (hperm.mem_iff.mp ha) hb (Nat.le_antisymm hle hge)

end

/-- The token is that of a call with this name and these arguments. -/
structure IsCall (limits : NestingLimits) (cs : List Char) (token : Token) (name : Lexeme)
    (call : String × List Expr) : Prop where
  start : token.span.start = name.start
  payload : ∃ written, token.payload = some (.call written) ∧ written.name = call.1 ∧
    written.closed = true ∧
    List.Forall₂ (fun span arg => Expr.parse limits (textIn cs span) = .ok arg) written.arguments call.2

section

variable {limits : NestingLimits} {cs : List Char}

lemma Marks.isCall {token : Token} {name : Lexeme} {call : CallWords} (h : Marks cs token name call)
    {d : Nat} (hwithin : call.IsWithin d) (hdepth : d ≤ limits.depth)
    (hheight : ∀ arg ∈ call.args, arg.2.height ≤ limits.height) :
    IsCall limits cs token name call.parsed := by
  obtain ⟨written, hpayload, hname, hclosed, hspans⟩ := h.payload
  refine ⟨h.start, written, hpayload, hname, hclosed, ?_⟩
  rw [Hold, List.forall₂_map_right_iff, List.forall₂_iff_zip] at hspans
  rw [CallWords.parsed, List.forall₂_map_right_iff, List.forall₂_iff_zip]
  refine ⟨hspans.1, fun {span arg} hmem => ?_⟩
  have harg := (List.of_mem_zip hmem).2
  obtain ⟨depth, hlt, hread⟩ := hwithin arg harg
  have hwords : Lexeme.words (textIn cs span).toList = arg.1 := by
    rw [textIn, String.toList_ofList]
    exact hspans.2 hmem
  exact (hwords ▸ hread).parse_iff.mpr ⟨hlt.le.trans hdepth, hheight arg harg⟩

/-- Tokens of names in a text are in the order of the names. -/
lemma pairwise_of_marks {tokens : List Token} {pairs : List (Lexeme × CallWords)} {names : List Lexeme}
    (hnames : names.Sublist (Lexeme.scan cs)) (hpairs : (pairs.map (·.1)).Sublist names)
    (h : List.Forall₂ (fun token p => Marks cs token p.1 p.2) tokens pairs) :
    tokens.Pairwise fun a b => a.span.start < b.span.start := by
  have hstarts : tokens.map (·.span.start) = pairs.map (·.1.start) := by
    rw [← List.forall₂_eq_eq_eq, List.forall₂_map_left_iff, List.forall₂_map_right_iff]
    exact h.imp fun _ _ h => h.start
  have hplaces : (Lexeme.scan cs).Pairwise fun a b => a.start < b.start :=
    (Lexeme.scans_scan cs).pairwise
  have hsorted := List.pairwise_map.mp (hplaces.sublist (hpairs.trans hnames))
  rw [← List.pairwise_map (f := fun token : Token => token.span.start) (R := (· < ·)), hstarts]
  exact List.pairwise_map.mpr hsorted

end

/-- The tokens of functions in a formula are those of its calls in pre-order, but for calls named like
operators: each begins at the name of its call, is closed, and has arguments that are parsed as those of the
call. -/
theorem functions_of_parse (item? : String → Option FunctionItem) {limits : NestingLimits}
    {text : String} {e : Expr} (h : Expr.parse limits text = .ok e) :
    ∃ names : List Lexeme, names.Sublist (Lexeme.scan text.toList) ∧
      List.Forall₂ (fun name call => call.1 = String.ofList (Text.upper name.chars)) names e.calls ∧
      List.Forall₂ (fun token p => IsCall limits text.toList token p.1 p.2)
        ((scanWith item? text.toList).filter isFunction)
        ((names.zip e.calls).filter fun p => !isOperatorCall p.1 p.2) := by
  obtain ⟨d, calls, hread, hcalls⟩ := (Expr.derives_of_parse h).exists_calls
  obtain ⟨hdepth, hheight⟩ := hread.parse_iff.mp h
  have hscan : Lexeme.scan text.toList = [] ++ (Lexeme.scan text.toList ++ []) := by simp
  obtain ⟨names, tokens, hnames, hnamed, hmarked, hmarks⟩ :=
    @areMarked_of_hasCalls item? text.toList
      (dimensions text.toList (Lexeme.scan text.toList)) _ _ hcalls.among [] _ [] hscan rfl rfl
  rw [List.append_nil, show functions _ _ _ [] = [] from rfl, List.append_nil] at hmarked
  have htokens : (scanWith item? text.toList).filter isFunction = tokens := by
    refine (filter_scanWith item? text.toList ?_).trans hmarked
    rw [hmarked]
    have hpairs := (List.filter_sublist (p := fun p => !isOperatorWord p.1) (l := names.zip calls)).map
      Prod.fst
    rw [List.map_fst_zip hnamed.length_eq.le] at hpairs
    exact pairwise_of_marks hnames hpairs hmarks
  have hwithin : ∀ p ∈ names.zip calls, ∀ arg ∈ p.2.args, arg.2.height ≤ limits.height := by
    intro p hp arg harg
    have hcall : p.2.parsed ∈ e.calls := by
      rw [hcalls.parsed]
      exact List.mem_map_of_mem (List.of_mem_zip hp).2
    have hlt := Expr.height_lt_of_mem_calls hcall (List.mem_map_of_mem harg)
    omega
  refine ⟨names, hnames, ?_, ?_⟩
  · rw [hcalls.parsed, List.forall₂_map_right_iff]
    exact hnamed.imp fun name call h => by rw [CallWords.parsed, h.2]
  · have hfilter : ((names.zip e.calls).filter fun p => !isOperatorCall p.1 p.2) =
        ((names.zip calls).filter fun p => !isOperatorWord p.1).map (Prod.map id CallWords.parsed) := by
      rw [hcalls.parsed, List.zip_map_right, List.filter_map]
      refine congrArg _ (List.filter_congr fun p hp => ?_)
      obtain ⟨hkind, hchars⟩ := List.forall₂_zip hnamed hp
      show (!isOperatorCall p.1 p.2.parsed) = !isOperatorWord p.1
      rw [CallWords.parsed, ← hchars, isOperatorCall_eq hkind]
    rw [htokens, hfilter, List.forall₂_map_right_iff, List.forall₂_iff_zip]
    rw [List.forall₂_iff_zip] at hmarks
    refine ⟨hmarks.1, fun {token p} hmem => ?_⟩
    have hp := List.mem_of_mem_filter (List.of_mem_zip hmem).2
    exact (hmarks.2 hmem).isCall (hcalls.within p.2 (List.of_mem_zip hp).2) hdepth (hwithin p hp)

/-- Commas and brackets in strings and lists part no arguments, and a `not` before a parenthesis is no
call. -/
theorem functions_of_parse_of_nested :
    ∃ e, Expr.parse {} "if(not (1), ın(\x7b1, 2\x7d ,3), \"a,(\")" = .ok e ∧
      ∃ names : List Lexeme,
        names.Sublist (Lexeme.scan "if(not (1), ın(\x7b1, 2\x7d ,3), \"a,(\")".toList) ∧
        List.Forall₂ (fun name call => call.1 = String.ofList (Text.upper name.chars)) names e.calls ∧
        List.Forall₂ (fun token p =>
            IsCall {} "if(not (1), ın(\x7b1, 2\x7d ,3), \"a,(\")".toList token p.1 p.2)
          ((scan {} .bw "if(not (1), ın(\x7b1, 2\x7d ,3), \"a,(\")".toList).filter isFunction)
          ((names.zip e.calls).filter fun p => !isOperatorCall p.1 p.2) := by
  have hparse : Expr.parse {} "if(not (1), ın(\x7b1, 2\x7d ,3), \"a,(\")" =
      .ok (.call "IF" [.unary .not (.number "1"),
        .call "IN" [.list [.number "1", .number "2"], .number "3"], .string "a,("]) := rfl
  exact ⟨_, hparse, functions_of_parse (Catalog.item? {} .bw) hparse⟩

/-- A call with the name of an operator can have a token. -/
theorem dotless_is_marked :
    Expr.parse {} "ın(1)" = .ok (.call "IN" [.number "1"]) ∧
      ¬List.Forall₂ (fun token call => ∃ written, token.payload = some (.call written) ∧
          written.name = call.1)
        ((scan {} .hana "ın(1)".toList).filter isFunction)
        ((Expr.call "IN" [.number "1"]).calls.filter fun call =>
          !(["AND", "OR", "NOT", "IN"].contains call.1)) := by
  refine ⟨rfl, fun h => ?_⟩
  have hnone : (functions (Catalog.item? {} .hana) "ın(1)".toList
      (dimensions "ın(1)".toList (Lexeme.scan "ın(1)".toList)) (Lexeme.scan "ın(1)".toList)).length = 0 :=
    (filter_scanWith_perm _ _).length_eq.symm.trans h.length_eq
  exact absurd hnone (by decide +kernel)

end Token

end OlapFormula
