import OlapFormula.Proofs.Expr.Calls
import OlapFormula.Proofs.Lexeme.Cutting

/-!
# The shape of a call

The scanner counts brackets of all kinds in one number and looks for commas where it is one. In a formula
brackets belong together, so what it finds are the arguments that the parser reads.
-/

namespace OlapFormula.Token

open Lexeme (word words)
open OlapFormula.Expr (AreItems AreMoreItems HasCalls CallWords IsPlain AreBrackets)

/-- From inside a bracket the words are passed over. -/
def IsPassed (ws : List Word) : Prop :=
  ∀ (cs : List Char) (isFirst : Bool) (depth start : Nat) (ls rest : List Lexeme), ls.map word = ws →
    1 ≤ depth → shapeFrom cs isFirst depth start (ls ++ rest) = shapeFrom cs isFirst depth start rest

section

variable {cs : List Char} {isFirst : Bool} {depth start : Nat} {lexeme : Lexeme}

lemma shapeFrom_plain (h : IsPlain lexeme.kind) (rest : List Lexeme) :
    shapeFrom cs isFirst depth start (lexeme :: rest) = shapeFrom cs isFirst depth start rest := by
  obtain ⟨kind, place, chars⟩ := lexeme
  cases kind <;> first | rfl | simp [IsPlain] at h

lemma shapeFrom_opening {closing : LexemeKind} (h : AreBrackets lexeme.kind closing)
    (rest : List Lexeme) :
    shapeFrom cs isFirst depth start (lexeme :: rest) =
      shapeFrom cs isFirst (depth + 1) start rest := by
  rcases h with ⟨h, -⟩ | ⟨h, -⟩ <;> simp only [shapeFrom, h]

lemma shapeFrom_closing {opening : LexemeKind} (h : AreBrackets opening lexeme.kind)
    (hdepth : 1 ≤ depth) (rest : List Lexeme) :
    shapeFrom cs isFirst (depth + 1) start (lexeme :: rest) =
      shapeFrom cs isFirst depth start rest := by
  have hinner : ¬depth + 1 ≤ 1 := by omega
  rcases h with ⟨-, h⟩ | ⟨-, h⟩ <;> simp only [shapeFrom, h, if_neg hinner, Nat.add_sub_cancel]

lemma shapeFrom_comma (h : lexeme.kind = .comma) (hdepth : 2 ≤ depth) (rest : List Lexeme) :
    shapeFrom cs isFirst depth start (lexeme :: rest) = shapeFrom cs isFirst depth start rest := by
  have hinner : ¬depth = 1 := by omega
  simp only [shapeFrom, h, if_neg hinner]

end

/-- Two brackets in, commas are passed over as well. -/
lemma shapeFrom_items {wss : List (List Word)} {ws : List Word} (h : ∀ us ∈ wss, IsPassed us)
    (hitems : AreItems wss ws) {cs : List Char} {isFirst : Bool} {depth start : Nat} (hdepth : 2 ≤ depth)
    {ls : List Lexeme} (hls : ls.map word = ws) (rest : List Lexeme) :
    shapeFrom cs isFirst depth start (ls ++ rest) = shapeFrom cs isFirst depth start rest := by
  have hmore {wss : List (List Word)} {ws : List Word} (h : ∀ us ∈ wss, IsPassed us)
      (hitems : AreMoreItems wss ws) {ls : List Lexeme} (hls : ls.map word = ws) :
      shapeFrom cs isFirst depth start (ls ++ rest) = shapeFrom cs isFirst depth start rest := by
    induction hitems generalizing ls with
    | nil =>
      obtain rfl : ls = [] := List.map_eq_nil_iff.mp hls
      rfl
    | cons hcomma _ ih =>
      rw [List.forall_mem_cons] at h
      obtain ⟨comma, ls, rfl, hkind, -, hls⟩ := Expr.exists_lexeme hls
      obtain ⟨lsu, lsv, rfl, hlsu, hlsv⟩ := List.map_eq_append_iff.mp hls
      rw [List.cons_append, shapeFrom_comma (hkind.trans hcomma) hdepth, List.append_assoc,
        h.1 cs isFirst depth start lsu _ hlsu (by omega), ih h.2 hlsv]
  cases hitems with
  | nil =>
    obtain rfl : ls = [] := List.map_eq_nil_iff.mp hls
    rfl
  | cons hitems =>
    rw [List.forall_mem_cons] at h
    obtain ⟨lsu, lsv, rfl, hlsu, hlsv⟩ := List.map_eq_append_iff.mp hls
    rw [List.append_assoc, h.1 cs isFirst depth start lsu _ hlsu (by omega), hmore h.2 hitems hlsv]

/-- Where all brackets are closed nothing is seen from outside. -/
theorem isPassed_of_hasCalls {ws : List Word} {calls : List CallWords} (h : HasCalls ws calls) :
    IsPassed ws := by
  induction h with
  | nil =>
    rintro cs isFirst depth start ls rest hls -
    obtain rfl : ls = [] := List.map_eq_nil_iff.mp hls
    rfl
  | word hplain _ _ ih =>
    intro cs isFirst depth start ls rest hls hdepth
    obtain ⟨lexeme, ls, rfl, hkind, -, hls⟩ := Expr.exists_lexeme hls
    rw [List.cons_append, shapeFrom_plain (hkind ▸ hplain), ih cs isFirst depth start ls rest hls hdepth]
  | group hbrackets _ hlist _ ihitems ih =>
    intro cs isFirst depth start ls rest hls hdepth
    obtain ⟨opening, ls, rfl, hopening, -, hls⟩ := Expr.exists_lexeme hls
    obtain ⟨lsi, ls, rfl, hlsi, hls⟩ := List.map_eq_append_iff.mp hls
    obtain ⟨closing, lsv, rfl, hclosing, -, hlsv⟩ := Expr.exists_lexeme hls
    rw [← hopening, ← hclosing] at hbrackets
    have hpassed : shapeFrom cs isFirst (depth + 1) start (lsi ++ closing :: (lsv ++ rest)) =
        shapeFrom cs isFirst (depth + 1) start (closing :: (lsv ++ rest)) :=
      shapeFrom_items (List.forall_mem_map.mpr ihitems) hlist (Nat.succ_le_succ hdepth) hlsi _
    rw [List.cons_append, shapeFrom_opening hbrackets, List.append_assoc, List.cons_append, hpassed,
      shapeFrom_closing hbrackets hdepth, ih cs isFirst depth start lsv rest hlsv hdepth]
  | call _ _ _ _ _ ih =>
    intro cs isFirst depth start ls rest hls hdepth
    obtain ⟨name, ls, rfl, hkind, -, hls⟩ := Expr.exists_lexeme hls
    rw [List.cons_append, shapeFrom_plain (by simp [hkind, IsPlain]),
      ih cs isFirst depth start ls rest hls hdepth]

/-- The spans hold texts with these words. -/
def Hold (cs : List Char) (spans : List Span) (wss : List (List Word)) : Prop :=
  List.Forall₂ (fun span ws => words (Text.slice cs span) = ws) spans wss

/-- The arguments from one of them on, which begins after the lexeme `first`. -/
lemma shapeFrom_moreItems {cs : List Char} {wss : List (List Word)} {vs : List Word}
    (hitems : AreMoreItems wss vs) (h : ∀ us ∈ wss, IsPassed us ∧ us ≠ []) {us : List Word}
    (hus : IsPassed us ∧ us ≠ []) {before lsu lsv rest : List Lexeme} {first closing : Lexeme}
    (hscan : Lexeme.scan cs = before ++ first :: (lsu ++ (lsv ++ closing :: rest)))
    (hlsu : lsu.map word = us) (hlsv : lsv.map word = vs) (hclosing : closing.kind = .rightParen)
    (isFirst : Bool) :
    ∃ spans, shapeFrom cs isFirst 1 first.stop (lsu ++ (lsv ++ closing :: rest)) =
        ⟨spans, closing.stop, true⟩ ∧ Hold cs spans (us :: wss) := by
  induction hitems generalizing us before lsu lsv first isFirst with
  | nil =>
    obtain rfl : lsv = [] := List.map_eq_nil_iff.mp hlsv
    rw [List.nil_append] at hscan ⊢
    have hwords := (Lexeme.words_between hscan).trans hlsu
    have hfull : Text.isAllBlank (Text.slice cs ⟨first.stop, closing.start⟩) = false := by
      rw [Bool.eq_false_iff, ne_eq, ← Lexeme.words_eq_nil_iff, hwords]
      exact hus.2
    refine ⟨[⟨first.stop, closing.start⟩], ?_, .cons hwords .nil⟩
    rw [hus.1 cs isFirst 1 first.stop lsu _ hlsu le_rfl]
    simp only [shapeFrom, hclosing, le_refl, if_true, lastArgument, hfull, Bool.and_false,
      Bool.false_eq_true, if_false]
  | cons hcomma _ ih =>
    rw [List.forall_mem_cons] at h
    obtain ⟨comma, ls, rfl, hkind, -, hls⟩ := Expr.exists_lexeme hlsv
    obtain ⟨lsw, lsv, rfl, hlsw, hlsv⟩ := List.map_eq_append_iff.mp hls
    rw [List.cons_append, List.append_assoc] at hscan ⊢
    have hwords := (Lexeme.words_between hscan).trans hlsu
    have hlater : Lexeme.scan cs =
        (before ++ first :: lsu) ++ comma :: (lsw ++ (lsv ++ closing :: rest)) := by
      rw [hscan]
      simp
    obtain ⟨spans, hshape, hspans⟩ := ih h.2 h.1 hlater hlsw hlsv false
    refine ⟨⟨first.stop, comma.start⟩ :: spans, ?_, .cons hwords hspans⟩
    rw [hus.1 cs isFirst 1 first.stop lsu _ hlsu le_rfl]
    simp only [shapeFrom, hkind.trans hcomma, if_true, hshape]

/-- What is between the parentheses of a call is cut at the commas between its arguments. -/
theorem shapeFrom_call {cs : List Char} {wss : List (List Word)} {ws : List Word}
    (hitems : AreItems wss ws) (h : ∀ us ∈ wss, IsPassed us ∧ us ≠ [])
    {before ls rest : List Lexeme} {opening closing : Lexeme}
    (hscan : Lexeme.scan cs = before ++ opening :: (ls ++ closing :: rest)) (hls : ls.map word = ws)
    (hclosing : closing.kind = .rightParen) :
    ∃ spans, shapeFrom cs true 1 opening.stop (ls ++ closing :: rest) =
        ⟨spans, closing.stop, true⟩ ∧ Hold cs spans wss := by
  cases hitems with
  | nil =>
    have hblank := Lexeme.words_eq_nil_iff.mp ((Lexeme.words_between hscan).trans hls)
    obtain rfl : ls = [] := List.map_eq_nil_iff.mp hls
    refine ⟨[], ?_, .nil⟩
    simp only [List.nil_append, shapeFrom, hclosing, le_refl, if_true, lastArgument, hblank,
      Bool.and_true]
  | cons hmore =>
    rw [List.forall_mem_cons] at h
    obtain ⟨lsu, lsv, rfl, hlsu, hlsv⟩ := List.map_eq_append_iff.mp hls
    rw [List.append_assoc] at hscan ⊢
    exact shapeFrom_moreItems hmore h.2 h.1 hscan hlsu hlsv hclosing true

end OlapFormula.Token
