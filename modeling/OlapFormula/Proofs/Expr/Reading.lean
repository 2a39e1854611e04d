import Mathlib.Data.List.Basic
import OlapFormula.Proofs.Expr.Grammar

/-!
# Reading words back

What the reader makes of words that have been written for an expression. Every level of precedence has
a number, the number that `FunctionKind.precedence` gives to the operators of the level: 1 is a whole
formula, 8 a sign, and at 9 and above there is what needs no parentheses.
-/

namespace OlapFormula.Expr

open Lexeme (word)

def readAt (size : Nat) (nested : Nested) : Nat → Reader
  | 0 | 1 => disjunction size nested
  | 2 => conjunction size nested
  | 3 => negation size nested
  | 4 => comparison size nested
  | 5 => sum size nested
  | 6 => product size nested
  | 7 => power size nested
  | 8 => signed size nested
  | _ => primary size nested

/-- The operator of a level at the front of the lexemes, and what comes after it. -/
def operatorAt : Nat → List Lexeme → Option (BinaryOperator × List Lexeme)
  | 1, ls => wordOperator "OR" .or ls
  | 2, ls => wordOperator "AND" .and ls
  | 4, ls => comparisonOperator ls
  | 5, ls => symbolOperator ofSum? ls
  | 6, ls => symbolOperator ofProduct? ls
  | 7, ls => if startsWith .caret ls then some (.power, ls.tail) else none
  | _, _ => none

/-- The levels at which operators are read from left to right. -/
def isChain (p : Nat) : Bool := p == 1 || p == 2 || p == 4 || p == 5 || p == 6

lemma readAt_chain {p : Nat} (h : isChain p) (size : Nat) (nested : Nested) :
    readAt size nested p = leftAssociative (operatorAt p) (readAt size nested (p + 1)) := by
  simp only [isChain, Bool.or_eq_true, beq_iff_eq] at h
  rcases h with (((rfl | rfl) | rfl) | rfl) | rfl <;> rfl

/-- Nothing that follows belongs to an expression of level `p`. -/
structure Closes (p : Nat) (rest : List Lexeme) : Prop where
  operator : ∀ q, p ≤ q → operatorAt q rest = none
  paren : startsWith .leftParen rest = false

lemma Closes.mono {p q : Nat} {rest : List Lexeme} (h : Closes p rest) (hpq : p ≤ q) :
    Closes q rest :=
  ⟨fun r hr => h.operator r (hpq.trans hr), h.paren⟩

lemma Closes.ofSucc {p : Nat} {rest : List Lexeme} (h : Closes (p + 1) rest)
    (hoperator : operatorAt p rest = none) : Closes p rest := by
  refine ⟨fun q hq => ?_, h.paren⟩
  rcases Nat.eq_or_lt_of_le hq with rfl | hq
  · exact hoperator
  · exact h.operator q hq

/-- The words are read as the expression at level `p`, with room for `d` more levels of nesting. -/
def Reads (p d : Nat) (ws : List Word) (e : Expr) : Prop :=
  ∀ size limit budget ls rest, d ≤ budget → ls.map word = ws → Closes p rest →
    readAt size (nestedWithin size limit budget) p (ls ++ rest) = .ok (e, rest)

/-- The words are read as the expression at level `p`, and operators of this level may follow. -/
def ReadsLeft (p d : Nat) (ws : List Word) (e : Expr) : Prop :=
  ∀ size limit budget ls rest, d ≤ budget → ls.map word = ws → Closes (p + 1) rest →
    ∃ count, rest.length ≤ count ∧
      readAt size (nestedWithin size limit budget) p (ls ++ rest) =
        chain (operatorAt p) (readAt size (nestedWithin size limit budget) (p + 1)) count e rest

lemma Reads.mono {p d d' : Nat} {ws : List Word} {e : Expr} (h : Reads p d ws e) (hd : d ≤ d') :
    Reads p d' ws e :=
  fun size limit budget ls rest hbudget => h size limit budget ls rest (hd.trans hbudget)

lemma ReadsLeft.mono {p d d' : Nat} {ws : List Word} {e : Expr} (h : ReadsLeft p d ws e)
    (hd : d ≤ d') : ReadsLeft p d' ws e :=
  fun size limit budget ls rest hbudget => h size limit budget ls rest (hd.trans hbudget)

lemma chain_of_none {operator : List Lexeme → Option (BinaryOperator × List Lexeme)}
    {operand : Reader} {rest : List Lexeme} (h : operator rest = none) (count : Nat) (e : Expr) :
    chain operator operand count e rest = .ok (e, rest) := by
  cases count with
  | zero => rfl
  | succ count => simp only [chain, h]

lemma Reads.left {p d : Nat} {ws : List Word} {e : Expr} (hp : isChain p)
    (h : Reads (p + 1) d ws e) : ReadsLeft p d ws e := by
  intro size limit budget ls rest hd hls hrest
  refine ⟨rest.length, le_rfl, ?_⟩
  rw [readAt_chain hp]
  simp only [leftAssociative, h size limit budget ls rest hd hls hrest]
  rfl

lemma ReadsLeft.reads {p d : Nat} {ws : List Word} {e : Expr} (h : ReadsLeft p d ws e) :
    Reads p d ws e := by
  intro size limit budget ls rest hd hls hrest
  obtain ⟨count, -, hread⟩ := h size limit budget ls rest hd hls (hrest.mono (Nat.le_succ p))
  rw [hread, chain_of_none (hrest.operator p le_rfl)]

lemma ReadsLeft.binary {p d : Nat} {ws vs us : List Word} {left right : Expr} {op : BinaryOperator}
    (hleft : ReadsLeft p d ws left) (hright : Reads (p + 1) d us right)
    (hvs : vs ≠ [])
    (hop : ∀ ls rest, ls.map word = vs →
      operatorAt p (ls ++ rest) = some (op, rest) ∧ Closes (p + 1) (ls ++ rest)) :
    ReadsLeft p d (ws ++ vs ++ us) (.binary op left right) := by
  intro size limit budget ls rest hd hls hrest
  obtain ⟨ls', lsu, rfl, hls', hlsu⟩ := List.map_eq_append_iff.mp hls
  obtain ⟨lsw, lsv, rfl, hlsw, hlsv⟩ := List.map_eq_append_iff.mp hls'
  obtain ⟨hoperator, hcloses⟩ := hop lsv (lsu ++ rest) hlsv
  obtain ⟨count, hcount, hread⟩ := hleft size limit budget lsw (lsv ++ (lsu ++ rest)) hd hlsw hcloses
  have hlength : 0 < lsv.length := by
    rw [List.length_pos_iff]
    rintro rfl
    exact hvs hlsv.symm
  simp only [List.length_append] at hcount
  -- The operator takes a lexeme away, so the chain may be continued once more.
  obtain ⟨m, rfl⟩ : ∃ m, count = m + 1 := ⟨count - 1, by omega⟩
  refine ⟨m, by omega, ?_⟩
  rw [List.append_assoc, List.append_assoc, hread, chain, hoperator]
  simp only [hright size limit budget lsu rest hd hlsu hrest]
  rfl

lemma nestedWithin_succ {d budget : Nat} (h : d + 1 ≤ budget) :
    ∃ b, budget = b + 1 ∧ d ≤ b := ⟨budget - 1, by omega, by omega⟩

lemma exists_lexeme {w : Word} {ws : List Word} {ls : List Lexeme} (h : ls.map word = w :: ws) :
    ∃ lexeme ls', ls = lexeme :: ls' ∧ lexeme.kind = w.1 ∧ lexeme.chars = w.2 ∧
      ls'.map word = ws := by
  obtain ⟨lexeme, ls', rfl, hword, hls⟩ := List.map_eq_cons_iff.mp h
  exact ⟨lexeme, ls', rfl, by rw [← hword]; rfl, by rw [← hword]; rfl, hls⟩

lemma exists_word {w : Word} {ls : List Lexeme} (h : ls.map word = [w]) :
    ∃ start, ls = [⟨w.1, start, w.2⟩] := by
  obtain ⟨lexeme, ls, rfl, hkind, hchars, hnil⟩ := exists_lexeme h
  obtain rfl : ls = [] := List.map_eq_nil_iff.mp hnil
  exact ⟨lexeme.start, by rw [← hkind, ← hchars]⟩

lemma reads_negate {d : Nat} {w : Word} {ws : List Word} {e : Expr} (hw : w.1 = .minus)
    (h : Reads 8 d ws e) : Reads 8 (d + 1) (w :: ws) (.unary .negate e) := by
  intro size limit budget ls rest hd hls hrest
  obtain ⟨lexeme, ls, rfl, hkind, -, hls⟩ := exists_lexeme hls
  obtain ⟨budget, rfl, hdeep⟩ := nestedWithin_succ hd
  have hread := h size limit budget ls rest hdeep hls hrest
  simp only [readAt] at hread
  have hminus : startsWith .minus (lexeme :: ls ++ rest) = true := by simp [startsWith, hkind, hw]
  simp only [readAt, signed, hminus, if_true, nestedWithin]
  simp only [List.cons_append, List.tail_cons, atLevel, bind, Except.bind, hread]
  rfl

lemma reads_plus {d : Nat} {w : Word} {ws : List Word} {e : Expr} (hw : w.1 = .plus)
    (h : Reads 8 d ws e) : Reads 8 (d + 1) (w :: ws) e := by
  intro size limit budget ls rest hd hls hrest
  obtain ⟨lexeme, ls, rfl, hkind, -, hls⟩ := exists_lexeme hls
  obtain ⟨budget, rfl, hdeep⟩ := nestedWithin_succ hd
  have hread := h size limit budget ls rest hdeep hls hrest
  simp only [readAt] at hread
  have hminus : startsWith .minus (lexeme :: ls ++ rest) = false := by simp [startsWith, hkind, hw]
  have hplus : startsWith .plus (lexeme :: ls ++ rest) = true := by simp [startsWith, hkind, hw]
  simp only [readAt, signed, hminus, hplus, Bool.false_eq_true, if_false, if_true, nestedWithin]
  simp only [List.cons_append, List.tail_cons, atLevel, bind, Except.bind, hread]

/-- Whether a lexeme is a keyword is a matter of its word. -/
lemma startsWithWord_cons {keyword : String} {w : Word} {lexeme : Lexeme} (hkind : lexeme.kind = w.1)
    (hchars : lexeme.chars = w.2) (ls : List Lexeme) :
    startsWithWord keyword (lexeme :: ls) = isKeyword keyword w := by
  simp only [startsWithWord, Lexeme.isKeyword, isKeyword, hkind, hchars]

lemma reads_not {d : Nat} {w : Word} {ws : List Word} {e : Expr} (hw : isKeyword "NOT" w)
    (h : Reads 3 d ws e) : Reads 3 (d + 1) (w :: ws) (.unary .not e) := by
  intro size limit budget ls rest hd hls hrest
  obtain ⟨lexeme, ls, rfl, hkind, hchars, hls⟩ := exists_lexeme hls
  obtain ⟨budget, rfl, hdeep⟩ := nestedWithin_succ hd
  have hread := h size limit budget ls rest hdeep hls hrest
  simp only [readAt] at hread
  have hnot : startsWithWord "NOT" (lexeme :: ls ++ rest) = true :=
    (startsWithWord_cons hkind hchars _).trans hw
  simp only [readAt, negation, hnot, if_true, nestedWithin]
  simp only [List.cons_append, List.tail_cons, atLevel, bind, Except.bind, hread]
  rfl

lemma closes_of_ne_leftParen {lexeme : Lexeme} (h : lexeme.kind ≠ .leftParen) (ls : List Lexeme) :
    Closes 8 (lexeme :: ls) := by
  refine ⟨fun q hq => ?_, by simp [startsWith, h]⟩
  match q, hq with
  | q + 8, _ => rfl

lemma reads_power {a b : Nat} {w : Word} {ws us : List Word} {base exponent : Expr}
    (hbase : Reads 8 a ws base) (hw : w.1 = .caret) (hexponent : Reads 7 b us exponent) :
    Reads 7 (max a (b + 1)) (ws ++ w :: us) (.binary .power base exponent) := by
  intro size limit budget ls rest hd hls hrest
  obtain ⟨lsw, ls, rfl, hlsw, hls⟩ := List.map_eq_append_iff.mp hls
  obtain ⟨lexeme, lsu, rfl, hkind, -, hlsu⟩ := exists_lexeme hls
  rw [hw] at hkind
  obtain ⟨ha, hb⟩ := Nat.max_le.mp hd
  obtain ⟨budget, rfl, hdeep⟩ := nestedWithin_succ hb
  have hleft := hbase size limit (budget + 1) lsw (lexeme :: lsu ++ rest) ha hlsw
    (closes_of_ne_leftParen (by simp [hkind]) _)
  have hright := hexponent size limit budget lsu rest hdeep hlsu hrest
  have hcaret : startsWith .caret (lexeme :: lsu ++ rest) = true := by simp [startsWith, hkind]
  rw [List.append_assoc]
  simp only [readAt] at hleft hright
  simp only [readAt, power, hleft, bind, Except.bind, hcaret, if_true]
  simp only [nestedWithin, List.cons_append, List.tail_cons, atLevel, hright]
  rfl

/-! ## From level to level -/

/-- The first word of an expression of level `p`. -/
structure Begins (p : Nat) (w : Word) : Prop where
  rightParen : w.1 ≠ .rightParen
  rightBrace : w.1 ≠ .rightBrace
  not : 4 ≤ p → isKeyword "NOT" w = false
  sign : 9 ≤ p → w.1 ≠ .minus ∧ w.1 ≠ .plus

lemma Begins.mono {p q : Nat} {w : Word} (h : Begins q w) (hpq : p ≤ q) : Begins p w :=
  ⟨h.rightParen, h.rightBrace, fun hp => h.not (hp.trans hpq), fun hp => h.sign (hp.trans hpq)⟩

lemma Reads.negation {d : Nat} {w : Word} {ws : List Word} {e : Expr} (h : Reads 4 d (w :: ws) e)
    (hw : isKeyword "NOT" w = false) : Reads 3 d (w :: ws) e := by
  intro size limit budget ls rest hd hls hrest
  have hread := h size limit budget ls rest hd hls (hrest.mono (by decide))
  obtain ⟨lexeme, ls, rfl, hkind, hchars, -⟩ := exists_lexeme hls
  have hnot : startsWithWord "NOT" (lexeme :: ls ++ rest) = false :=
    (startsWithWord_cons hkind hchars _).trans hw
  simp only [readAt] at hread
  simp only [readAt, Expr.negation, hnot, hread, Bool.false_eq_true, if_false]

lemma Reads.power {d : Nat} {ws : List Word} {e : Expr} (h : Reads 8 d ws e) : Reads 7 d ws e := by
  intro size limit budget ls rest hd hls hrest
  have hread := h size limit budget ls rest hd hls (hrest.mono (by decide))
  have hcaret : startsWith .caret rest = false := by
    have hnone := hrest.operator 7 le_rfl
    simpa [operatorAt] using hnone
  simp only [readAt] at hread
  simp only [readAt, Expr.power, hread, bind, Except.bind, hcaret, Bool.false_eq_true, if_false]
  rfl

lemma Reads.signed {d : Nat} {w : Word} {ws : List Word} {e : Expr} (h : Reads 9 d (w :: ws) e)
    (hw : w.1 ≠ .minus ∧ w.1 ≠ .plus) : Reads 8 d (w :: ws) e := by
  intro size limit budget ls rest hd hls hrest
  have hread := h size limit budget ls rest hd hls (hrest.mono (by decide))
  obtain ⟨lexeme, ls, rfl, hkind, -, -⟩ := exists_lexeme hls
  have hminus : startsWith .minus (lexeme :: ls ++ rest) = false := by
    simp [startsWith, hkind, hw.1]
  have hplus : startsWith .plus (lexeme :: ls ++ rest) = false := by
    simp [startsWith, hkind, hw.2]
  simp only [readAt] at hread
  simp only [readAt, Expr.signed, hminus, hplus, hread, Bool.false_eq_true, if_false]

lemma Reads.previous {p d : Nat} {w : Word} {ws : List Word} {e : Expr} (hp : 1 ≤ p) (hp8 : p ≤ 8)
    (hw : Begins (p + 1) w) (h : Reads (p + 1) d (w :: ws) e) : Reads p d (w :: ws) e := by
  match p, hp, hp8 with
  | 1, _, _ | 2, _, _ | 4, _, _ | 5, _, _ | 6, _, _ => exact (h.left rfl).reads
  | 3, _, _ => exact h.negation (hw.not le_rfl)
  | 7, _, _ => exact h.power
  | 8, _, _ => exact h.signed (hw.sign le_rfl)

/-- What is read at a level is read at every level before it. -/
lemma Reads.earlier {p q d : Nat} {w : Word} {ws : List Word} {e : Expr} (hp : 1 ≤ p) (hpq : p ≤ q)
    (hq : q ≤ 9) (hw : Begins q w) (h : Reads q d (w :: ws) e) : Reads p d (w :: ws) e := by
  induction hpq using Nat.decreasingInduction with
  | self => exact h
  | of_succ k hk ih => exact (ih (by omega)).previous hp (by omega) (hw.mono hk)

/-- The words are read as the expression wherever an operand of precedence `q` may stand. -/
structure Readable (q d : Nat) (ws : List Word) (e : Expr) : Prop where
  begins : ∃ w ws', ws = w :: ws' ∧ Begins q w
  reads : ∀ p, 1 ≤ p → p ≤ q → p ≤ 9 → Reads p d ws e
  readsLeft : ∀ p, p ≤ q → isChain p → ReadsLeft p d ws e
  height : e.height ≤ ws.length

lemma Readable.mono {p q d d' : Nat} {ws : List Word} {e : Expr} (h : Readable q d ws e)
    (hpq : p ≤ q) (hd : d ≤ d') : Readable p d' ws e where
  begins := by
    obtain ⟨w, ws', hws, hw⟩ := h.begins
    exact ⟨w, ws', hws, hw.mono hpq⟩
  reads r hr hrp hr9 := (h.reads r hr (hrp.trans hpq) hr9).mono hd
  readsLeft r hrp hr := (h.readsLeft r (hrp.trans hpq) hr).mono hd
  height := h.height

lemma isChain_le {p : Nat} (h : isChain p) : 1 ≤ p ∧ p ≤ 6 := by
  simp only [isChain, Bool.or_eq_true, beq_iff_eq] at h
  omega

lemma readable_of_reads {q d : Nat} {w : Word} {ws : List Word} {e : Expr} (hq : isChain q = false)
    (hq1 : 1 ≤ q) (hq9 : q ≤ 9) (hw : Begins q w) (h : Reads q d (w :: ws) e)
    (hheight : e.height ≤ (w :: ws).length) : Readable q d (w :: ws) e where
  begins := ⟨w, ws, rfl, hw⟩
  reads p hp hpq _ := h.earlier hp hpq hq9 hw
  readsLeft p hpq hp := by
    have hne : p ≠ q := by
      rintro rfl
      rw [hp] at hq
      contradiction
    exact (h.earlier (by omega) (by omega) hq9 hw).left hp
  height := hheight

lemma readable_of_readsLeft {q d : Nat} {w : Word} {ws : List Word} {e : Expr} (hq : isChain q)
    (hw : Begins q w) (h : ReadsLeft q d (w :: ws) e)
    (hheight : e.height ≤ (w :: ws).length) : Readable q d (w :: ws) e where
  begins := ⟨w, ws, rfl, hw⟩
  reads p hp hpq _ := h.reads.earlier hp hpq (by have := isChain_le hq; omega) hw
  readsLeft p hpq hp := by
    rcases hpq.eq_or_lt with rfl | hlt
    · exact h
    · exact (h.reads.earlier (by omega) hlt (by have := isChain_le hq; omega) hw).left hp
  height := hheight

/-- What needs no parentheses. -/
lemma readable_of_primary {d : Nat} {w : Word} {ws : List Word} {e : Expr} (hw : Begins 9 w)
    (h : Reads 9 d (w :: ws) e) (hheight : e.height ≤ (w :: ws).length) :
    Readable 10 d (w :: ws) e := by
  have hreadable := readable_of_reads rfl (by decide) le_rfl hw h hheight
  refine ⟨⟨w, ws, rfl, hw.rightParen, hw.rightBrace, fun _ => hw.not (by decide),
    fun _ => hw.sign le_rfl⟩, ?_, ?_, hheight⟩
  · exact fun p hp _ hp9 => hreadable.reads p hp hp9 hp9
  · exact fun p _ hp => hreadable.readsLeft p (by have := isChain_le hp; omega) hp

theorem Readable.binary {p d : Nat} {ws vs us : List Word} {left right : Expr}
    {op : BinaryOperator} (hp : isChain p) (hleft : Readable p d ws left)
    (hright : Readable (p + 1) d us right) (hvs : vs ≠ [])
    (hop : ∀ ls rest, ls.map word = vs →
      operatorAt p (ls ++ rest) = some (op, rest) ∧ Closes (p + 1) (ls ++ rest)) :
    Readable p d (ws ++ vs ++ us) (.binary op left right) := by
  have hread := (hleft.readsLeft p le_rfl hp).binary
    (hright.reads (p + 1) (by omega) le_rfl (by have := isChain_le hp; omega)) hvs hop
  have hlength := List.length_pos_iff.mpr hvs
  have hheight : (Expr.binary op left right).height ≤ (ws ++ vs ++ us).length := by
    have hl := hleft.height
    have hr := hright.height
    simp only [Expr.height, List.length_append]
    omega
  obtain ⟨w, ws, rfl, hw⟩ := hleft.begins
  exact readable_of_readsLeft hp hw hread hheight

theorem Readable.power {a b : Nat} {ws us : List Word} {base exponent : Expr}
    (hbase : Readable 8 a ws base) (hexponent : Readable 7 b us exponent) :
    Readable 7 (max a (b + 1)) (ws ++ (.caret, ['^']) :: us) (.binary .power base exponent) := by
  have hread := reads_power (w := (.caret, ['^'])) (hbase.reads 8 (by decide) le_rfl (by decide)) rfl
    (hexponent.reads 7 (by decide) le_rfl (by decide))
  have hheight : (Expr.binary .power base exponent).height ≤
      (ws ++ ((.caret, ['^']) : Word) :: us).length := by
    have hl := hbase.height
    have hr := hexponent.height
    simp only [Expr.height, List.length_append, List.length_cons]
    omega
  obtain ⟨w, ws, rfl, hw⟩ := hbase.begins
  exact readable_of_reads rfl (by decide) (by decide) (hw.mono (by decide)) hread hheight

theorem Readable.negate {d : Nat} {ws : List Word} {e : Expr}
    (h : Readable 8 d ws e) : Readable 8 (d + 1) ((.minus, ['-']) :: ws) (.unary .negate e) := by
  have hread := reads_negate (w := (.minus, ['-'])) rfl (h.reads 8 (by decide) le_rfl (by decide))
  have hheight := h.height
  refine readable_of_reads rfl (by decide) (by decide) ⟨nofun, nofun, fun _ => rfl, by simp⟩ hread ?_
  simp only [Expr.height, List.length_cons]
  omega

theorem Readable.not {d : Nat} {ws : List Word} {e : Expr} {cs : List Char}
    (hcs : Text.equalIgnoringCase cs "NOT".toList) (h : Readable 3 d ws e) :
    Readable 3 (d + 1) ((.identifier, cs) :: ws) (.unary .not e) := by
  have hread := reads_not (w := (.identifier, cs)) hcs (h.reads 3 (by decide) le_rfl (by decide))
  have hheight := h.height
  refine readable_of_reads rfl (by decide) (by decide) ⟨nofun, nofun, by simp, by simp⟩ hread ?_
  simp only [Expr.height, List.length_cons]
  omega

end OlapFormula.Expr
