import OlapFormula.Proofs.Expr.Primary

/-!
# How deep reading nests

With room for as many levels of nesting as it needs, an expression is read. With room for fewer, reading
stops with an error, whatever comes after the expression.
-/

namespace OlapFormula.Expr

open Lexeme (word)

/-- The greatest of the depths, or none if there are none. -/
def deepest (depths : List Nat) : Nat := depths.foldr max 0

lemma deepest_cons (depth : Nat) (depths : List Nat) :
    deepest (depth :: depths) = max depth (deepest depths) := rfl

lemma le_deepest {depth : Nat} {depths : List Nat} (h : depth ∈ depths) : depth ≤ deepest depths := by
  induction depths with
  | nil => cases h
  | cons first rest ih =>
    rcases List.mem_cons.mp h with rfl | h
    · exact le_max_left ..
    · exact (ih h).trans (le_max_right ..)

lemma deepest_le {depths : List Nat} {bound : Nat} (h : ∀ depth ∈ depths, depth ≤ bound) :
    deepest depths ≤ bound := by
  induction depths with
  | nil => exact Nat.zero_le bound
  | cons first rest ih =>
    rw [List.forall_mem_cons] at h
    exact max_le h.1 (ih h.2)

/-- With room for fewer than `d` levels of nesting, reading the words stops with an error. -/
def Fails (p d : Nat) (ws : List Word) : Prop :=
  ∀ size limit budget ls rest, budget < d → ls.map word = ws →
    readAt size (nestedWithin size limit budget) p (ls ++ rest) = .error (.nestingTooDeep limit)

/-- The words are readable with room for `d` levels of nesting, and with no less. -/
structure Needs (q d : Nat) (ws : List Word) (e : Expr) : Prop extends Readable q d ws e where
  fails : ∀ p, 1 ≤ p → p ≤ q → p ≤ 9 → Fails p d ws
  depth_le : d ≤ ws.length

lemma Fails.left {p d : Nat} {ws : List Word} (hp : isChain p) (h : Fails (p + 1) d ws) :
    Fails p d ws := by
  intro size limit budget ls rest hd hls
  rw [readAt_chain hp]
  simp only [leftAssociative, h size limit budget ls rest hd hls]
  rfl

lemma Fails.negation {d : Nat} {w : Word} {ws : List Word} (hw : isKeyword "NOT" w = false)
    (h : Fails 4 d (w :: ws)) : Fails 3 d (w :: ws) := by
  intro size limit budget ls rest hd hls
  have hread := h size limit budget ls rest hd hls
  obtain ⟨lexeme, ls, rfl, hkind, hchars, -⟩ := exists_lexeme hls
  have hnot : startsWithWord "NOT" (lexeme :: ls ++ rest) = false :=
    (startsWithWord_cons hkind hchars _).trans hw
  simp only [readAt] at hread
  simp only [readAt, Expr.negation, hnot, hread, Bool.false_eq_true, if_false]

lemma Fails.power {d : Nat} {ws : List Word} (h : Fails 8 d ws) : Fails 7 d ws := by
  intro size limit budget ls rest hd hls
  have hread := h size limit budget ls rest hd hls
  simp only [readAt] at hread
  simp only [readAt, Expr.power, hread]
  rfl

lemma Fails.signed {d : Nat} {w : Word} {ws : List Word} (hw : w.1 ≠ .minus ∧ w.1 ≠ .plus)
    (h : Fails 9 d (w :: ws)) : Fails 8 d (w :: ws) := by
  intro size limit budget ls rest hd hls
  have hread := h size limit budget ls rest hd hls
  obtain ⟨lexeme, ls, rfl, hkind, -, -⟩ := exists_lexeme hls
  have hno (kind : LexemeKind) (hne : w.1 ≠ kind) : startsWith kind (lexeme :: ls ++ rest) = false := by
    simp [startsWith, hkind, hne]
  simp only [readAt] at hread
  simp only [readAt, Expr.signed, hno .minus hw.1, hno .plus hw.2, hread, Bool.false_eq_true, if_false]

lemma Fails.previous {p d : Nat} {w : Word} {ws : List Word} (hp : 1 ≤ p) (hp8 : p ≤ 8)
    (hw : Begins (p + 1) w) (h : Fails (p + 1) d (w :: ws)) : Fails p d (w :: ws) := by
  match p, hp, hp8 with
  | 1, _, _ | 2, _, _ | 4, _, _ | 5, _, _ | 6, _, _ => exact h.left rfl
  | 3, _, _ => exact h.negation (hw.not le_rfl)
  | 7, _, _ => exact h.power
  | 8, _, _ => exact h.signed (hw.sign le_rfl)

lemma Fails.earlier {p q d : Nat} {w : Word} {ws : List Word} (hp : 1 ≤ p) (hpq : p ≤ q)
    (hq : q ≤ 9) (hw : Begins q w) (h : Fails q d (w :: ws)) : Fails p d (w :: ws) := by
  induction hpq using Nat.decreasingInduction with
  | self => exact h
  | of_succ k hk ih => exact (ih (by omega)).previous hp (by omega) (hw.mono hk)

/-- Where an operand of the precedence is read last, too little room is noticed at every level. -/
lemma Readable.needs {q d : Nat} {ws : List Word} {e : Expr} (h : Readable q d ws e)
    (hfails : Fails (min q 9) d ws) (hd : d ≤ ws.length) : Needs q d ws e where
  toReadable := h
  fails p hp hpq hp9 := by
    obtain ⟨w, ws, rfl, hw⟩ := h.begins
    exact hfails.earlier hp (le_min hpq hp9) (min_le_right ..) (hw.mono (min_le_left ..))
  depth_le := hd

lemma Readable.needs_zero {q : Nat} {ws : List Word} {e : Expr} (h : Readable q 0 ws e) :
    Needs q 0 ws e :=
  h.needs (fun _ _ _ _ _ hbudget => absurd hbudget (Nat.not_lt_zero _)) (Nat.zero_le _)

lemma Needs.mono {p q d : Nat} {ws : List Word} {e : Expr} (h : Needs q d ws e) (hpq : p ≤ q) :
    Needs p d ws e where
  toReadable := h.toReadable.mono hpq le_rfl
  fails r hr hrp := h.fails r hr (hrp.trans hpq)
  depth_le := h.depth_le

lemma fails_negate {d : Nat} {w : Word} {ws : List Word} (hw : w.1 = .minus) (h : Fails 8 d ws) :
    Fails 8 (d + 1) (w :: ws) := by
  intro size limit budget ls rest hd hls
  obtain ⟨lexeme, ls, rfl, hkind, -, hls⟩ := exists_lexeme hls
  have hminus : startsWith .minus (lexeme :: ls ++ rest) = true := by simp [startsWith, hkind, hw]
  simp only [readAt, signed, hminus, if_true]
  cases budget with
  | zero => rfl
  | succ budget =>
    have hread := h size limit budget ls rest (by omega) hls
    simp only [readAt] at hread
    simp only [nestedWithin, List.cons_append, List.tail_cons, atLevel, bind, Except.bind, hread]

lemma fails_plus {d : Nat} {w : Word} {ws : List Word} (hw : w.1 = .plus) (h : Fails 8 d ws) :
    Fails 8 (d + 1) (w :: ws) := by
  intro size limit budget ls rest hd hls
  obtain ⟨lexeme, ls, rfl, hkind, -, hls⟩ := exists_lexeme hls
  have hminus : startsWith .minus (lexeme :: ls ++ rest) = false := by simp [startsWith, hkind, hw]
  have hplus : startsWith .plus (lexeme :: ls ++ rest) = true := by simp [startsWith, hkind, hw]
  simp only [readAt, signed, hminus, hplus, Bool.false_eq_true, if_false, if_true]
  cases budget with
  | zero => rfl
  | succ budget =>
    have hread := h size limit budget ls rest (by omega) hls
    simp only [readAt] at hread
    simp only [nestedWithin, List.cons_append, List.tail_cons, atLevel, bind, Except.bind, hread]

lemma fails_not {d : Nat} {w : Word} {ws : List Word} (hw : isKeyword "NOT" w) (h : Fails 3 d ws) :
    Fails 3 (d + 1) (w :: ws) := by
  intro size limit budget ls rest hd hls
  obtain ⟨lexeme, ls, rfl, hkind, hchars, hls⟩ := exists_lexeme hls
  have hnot : startsWithWord "NOT" (lexeme :: ls ++ rest) = true :=
    (startsWithWord_cons hkind hchars _).trans hw
  simp only [readAt, negation, hnot, if_true]
  cases budget with
  | zero => rfl
  | succ budget =>
    have hread := h size limit budget ls rest (by omega) hls
    simp only [readAt] at hread
    simp only [nestedWithin, List.cons_append, List.tail_cons, atLevel, bind, Except.bind, hread]

lemma fails_power {a b : Nat} {w : Word} {ws us : List Word} {base : Expr}
    (hbase : Reads 8 a ws base) (hfails : Fails 8 a ws) (hw : w.1 = .caret) (hexponent : Fails 7 b us) :
    Fails 7 (max a (b + 1)) (ws ++ w :: us) := by
  intro size limit budget ls rest hd hls
  obtain ⟨lsw, ls, rfl, hlsw, hls⟩ := List.map_eq_append_iff.mp hls
  obtain ⟨lexeme, lsu, rfl, hkind, -, hlsu⟩ := exists_lexeme hls
  rw [hw] at hkind
  rw [List.append_assoc]
  by_cases hsmall : budget < a
  · have hread := hfails size limit budget lsw (lexeme :: lsu ++ rest) hsmall hlsw
    simp only [readAt] at hread
    simp only [readAt, power, hread]
    rfl
  · have hread := hbase size limit budget lsw (lexeme :: lsu ++ rest) (by omega) hlsw
      (closes_of_ne_leftParen (by simp [hkind]) _)
    have hcaret : startsWith .caret (lexeme :: lsu ++ rest) = true := by simp [startsWith, hkind]
    simp only [readAt] at hread
    simp only [readAt, power, hread, bind, Except.bind, hcaret, if_true]
    cases budget with
    | zero => rfl
    | succ budget =>
      have hright := hexponent size limit budget lsu rest (by omega) hlsu
      simp only [readAt] at hright
      simp only [nestedWithin, List.cons_append, List.tail_cons, atLevel, hright]

lemma fails_binary {p a b : Nat} {ws vs us : List Word} {left : Expr} {op : BinaryOperator}
    (hleft : ReadsLeft p a ws left) (hfails : Fails p a ws) (hright : Fails (p + 1) b us) (hvs : vs ≠ [])
    (hop : ∀ ls rest, ls.map word = vs →
      operatorAt p (ls ++ rest) = some (op, rest) ∧ Closes (p + 1) (ls ++ rest)) :
    Fails p (max a b) (ws ++ vs ++ us) := by
  intro size limit budget ls rest hd hls
  obtain ⟨ls', lsu, rfl, hls', hlsu⟩ := List.map_eq_append_iff.mp hls
  obtain ⟨lsw, lsv, rfl, hlsw, hlsv⟩ := List.map_eq_append_iff.mp hls'
  rw [List.append_assoc, List.append_assoc]
  by_cases hsmall : budget < a
  · exact hfails size limit budget lsw _ hsmall hlsw
  · obtain ⟨hoperator, hcloses⟩ := hop lsv (lsu ++ rest) hlsv
    obtain ⟨count, hcount, hread⟩ :=
      hleft size limit budget lsw (lsv ++ (lsu ++ rest)) (by omega) hlsw hcloses
    have hlength : 0 < lsv.length := by
      rw [List.length_pos_iff]
      rintro rfl
      exact hvs hlsv.symm
    simp only [List.length_append] at hcount
    obtain ⟨m, rfl⟩ : ∃ m, count = m + 1 := ⟨count - 1, by omega⟩
    rw [hread, chain, hoperator]
    simp only [hright size limit budget lsu rest (by omega) hlsu]
    rfl

theorem Needs.binary {p a b : Nat} {ws vs us : List Word} {left right : Expr} {op : BinaryOperator}
    (hp : isChain p) (hleft : Needs p a ws left) (hright : Needs (p + 1) b us right) (hvs : vs ≠ [])
    (hop : ∀ ls rest, ls.map word = vs →
      operatorAt p (ls ++ rest) = some (op, rest) ∧ Closes (p + 1) (ls ++ rest)) :
    Needs p (max a b) (ws ++ vs ++ us) (.binary op left right) := by
  obtain ⟨hp1, hp6⟩ := isChain_le hp
  have hread := Readable.binary hp (hleft.toReadable.mono le_rfl (le_max_left a b))
    (hright.toReadable.mono le_rfl (le_max_right a b)) hvs hop
  have hfails := fails_binary (hleft.readsLeft p le_rfl hp) (hleft.fails p hp1 le_rfl (by omega))
    (hright.fails (p + 1) (by omega) le_rfl (by omega)) hvs hop
  have hleftLength := hleft.depth_le
  have hrightLength := hright.depth_le
  refine hread.needs ?_ ?_
  · rwa [min_eq_left (by omega)]
  · simp only [List.length_append]
    omega

theorem Needs.power {a b : Nat} {ws us : List Word} {base exponent : Expr}
    (hbase : Needs 8 a ws base) (hexponent : Needs 7 b us exponent) :
    Needs 7 (max a (b + 1)) (ws ++ (.caret, ['^']) :: us) (.binary .power base exponent) := by
  have hfails := fails_power (w := (.caret, ['^'])) (hbase.reads 8 (by decide) le_rfl (by decide))
    (hbase.fails 8 (by decide) le_rfl (by decide)) rfl (hexponent.fails 7 (by decide) le_rfl (by decide))
  have hbaseLength := hbase.depth_le
  have hexponentLength := hexponent.depth_le
  refine (hbase.toReadable.power hexponent.toReadable).needs hfails ?_
  simp only [List.length_append, List.length_cons]
  omega

theorem Needs.negate {d : Nat} {ws : List Word} {e : Expr} (h : Needs 8 d ws e) :
    Needs 8 (d + 1) ((.minus, ['-']) :: ws) (.unary .negate e) :=
  h.toReadable.negate.needs (fails_negate rfl (h.fails 8 (by decide) le_rfl (by decide)))
    (Nat.succ_le_succ h.depth_le)

theorem Needs.not {d : Nat} {ws : List Word} {e : Expr} {cs : List Char}
    (hcs : Text.equalIgnoringCase cs "NOT".toList) (h : Needs 3 d ws e) :
    Needs 3 (d + 1) ((.identifier, cs) :: ws) (.unary .not e) :=
  (h.toReadable.not hcs).needs (fails_not hcs (h.fails 3 (by decide) le_rfl (by decide)))
    (Nat.succ_le_succ h.depth_le)

/-! ## Brackets -/

lemma fails_parens {d : Nat} {opening closing : Word} {ws : List Word}
    (hopening : opening.1 = .leftParen) (h : Fails 1 d ws) :
    Fails 9 (d + 1) (opening :: (ws ++ [closing])) := by
  intro size limit budget ls rest hd hls
  obtain ⟨lexeme, ls, rfl, hkind, -, hls⟩ := exists_lexeme hls
  obtain ⟨ls, last, rfl, -, hls⟩ := exists_closing hls
  rw [hopening] at hkind
  cases budget with
  | zero =>
    simp only [readAt, List.cons_append, primary, hkind]
    rfl
  | succ budget =>
    have hread := h size limit budget ls (last :: rest) (by omega) hls
    simp only [readAt] at hread
    simp only [readAt, List.cons_append, List.append_assoc, List.nil_append, primary, hkind,
      nestedWithin, atLevel, bind, Except.bind, hread]

/-- The words are read as an item with room for `d` levels of nesting, and with no less. -/
structure NeedsItem (d : Nat) (ws : List Word) (e : Expr) : Prop extends ReadsItem d ws e where
  fails : Fails 1 d ws

lemma Needs.needsItem {d : Nat} {ws : List Word} {e : Expr} (h : Needs 1 d ws e) :
    NeedsItem d ws e where
  toReadsItem := h.toReadable.readsItem le_rfl
  fails := h.fails 1 le_rfl le_rfl (by decide)

section

variable {α : Type} {xs : List α} {words : α → List Word} {depth : α → Nat} {expr : α → Expr}

/-- Items are read until there is too little room for one. -/
lemma moreItems_fails (size limit : Nat) {budget : Nat}
    (h : ∀ x ∈ xs, NeedsItem (depth x) (words x) (expr x)) {ws : List Word}
    (hitems : AreMoreItems (xs.map words) ws) {count : Nat} (hcount : xs.length ≤ count)
    (hbudget : budget < deepest (xs.map depth)) {ls rest : List Lexeme} (hls : ls.map word = ws)
    (hrest : Closes 1 rest) :
    moreItems (readAt size (nestedWithin size limit budget) 1) count (ls ++ rest) =
      .error (.nestingTooDeep limit) := by
  induction xs generalizing count ls ws with
  | nil => exact absurd hbudget (Nat.not_lt_zero _)
  | cons x xs ih =>
    rw [List.forall_mem_cons] at h
    rw [List.map_cons, deepest_cons] at hbudget
    obtain - | ⟨hw, hmore⟩ := hitems
    obtain ⟨comma, ls, rfl, hkind, -, hls⟩ := exists_lexeme hls
    obtain ⟨lsu, lsv, rfl, hlsu, hlsv⟩ := List.map_eq_append_iff.mp hls
    obtain ⟨count, rfl⟩ : ∃ n, count = n + 1 := ⟨count - 1, by simp at hcount; omega⟩
    have hstart : startsWith .comma (comma :: (lsu ++ lsv) ++ rest) = true := by
      simp [startsWith, hkind, hw]
    rw [moreItems, if_pos hstart]
    by_cases hsmall : budget < depth x
    · have hfirst := h.1.fails size limit budget lsu (lsv ++ rest) hsmall hlsu
      simp only [List.cons_append, List.tail_cons, List.append_assoc, bind, Except.bind, hfirst]
    · have hfirst := h.1.reads size limit budget lsu (lsv ++ rest) (by omega) hlsu
        (closes_moreItems hmore hlsv hrest)
      have hothers := ih h.2 hmore (by simpa using hcount) (by omega) hlsv
      simp only [List.cons_append, List.tail_cons, List.append_assoc, bind, Except.bind, hfirst, hothers]

lemma items_fails (size limit : Nat) {budget : Nat}
    (h : ∀ x ∈ xs, NeedsItem (depth x) (words x) (expr x)) {ws : List Word}
    (hitems : AreItems (xs.map words) ws)
    (hbudget : budget < deepest (xs.map depth)) {kind : LexemeKind} (what : String)
    (hkind : kind = .rightParen ∨ kind = .rightBrace) {closing : Lexeme} (hclosing : closing.kind = kind)
    {ls : List Lexeme} (hls : ls.map word = ws) (rest : List Lexeme) :
    items size (readAt size (nestedWithin size limit budget) 1) kind what (ls ++ closing :: rest) =
      .error (.nestingTooDeep limit) := by
  have hcloses : Closes 1 (closing :: rest) :=
    closes_of_kind (by rw [hclosing]; exact Or.inr hkind) rest
  cases xs with
  | nil => exact absurd hbudget (Nat.not_lt_zero _)
  | cons x xs =>
    rw [List.forall_mem_cons] at h
    rw [List.map_cons, deepest_cons] at hbudget
    obtain - | hmore := hitems
    obtain ⟨lsu, lsv, rfl, hlsu, hlsv⟩ := List.map_eq_append_iff.mp hls
    have hstart : startsWith kind (lsu ++ (lsv ++ closing :: rest)) = false := by
      obtain ⟨w, us, hus, hparen, hbrace⟩ := h.1.begins
      rw [hus] at hlsu
      obtain ⟨lexeme, lsu, rfl, hlexeme, -, -⟩ := exists_lexeme hlsu
      rcases hkind with rfl | rfl <;> simp [startsWith, hlexeme, hparen, hbrace]
    rw [List.append_assoc]
    by_cases hsmall : budget < depth x
    · have hfirst := h.1.fails size limit budget lsu (lsv ++ closing :: rest) hsmall hlsu
      simp only [items, hstart, Bool.false_eq_true, if_false, hfirst, bind, Except.bind]
    · have hfirst := h.1.reads size limit budget lsu (lsv ++ closing :: rest) (by omega) hlsu
        (closes_moreItems hmore hlsv hcloses)
      have hcount : xs.length ≤ (lsv ++ closing :: rest).length := by
        have hcommas := hmore.length_le
        rw [← hlsv, List.length_map, List.length_map] at hcommas
        rw [List.length_append]
        omega
      have hdeep : budget < deepest (xs.map depth) := by omega
      have hothers := moreItems_fails size limit h.2 hmore hcount hdeep hlsv hcloses
      simp only [items, hstart, Bool.false_eq_true, if_false, hfirst, bind, Except.bind, hothers]

lemma fails_list (h : ∀ x ∈ xs, NeedsItem (depth x) (words x) (expr x)) {opening closing : Word}
    (hopening : opening.1 = .leftBrace) {ws : List Word} (hitems : AreItems (xs.map words) ws)
    (hclosing : closing.1 = .rightBrace) :
    Fails 9 (deepest (xs.map depth) + 1) (opening :: (ws ++ [closing])) := by
  intro size limit budget ls rest hd hls
  obtain ⟨lexeme, ls, rfl, hkind, -, hls⟩ := exists_lexeme hls
  obtain ⟨ls, last, rfl, hlast, hls⟩ := exists_closing hls
  rw [hopening] at hkind
  rw [hclosing] at hlast
  cases budget with
  | zero =>
    simp only [readAt, List.cons_append, primary, hkind]
    rfl
  | succ budget =>
    have hread := items_fails size limit h hitems (by omega : budget < _) "',' or '\x7d' in list"
      (Or.inr rfl) hlast hls rest
    simp only [readAt] at hread
    simp only [readAt, List.cons_append, List.append_assoc, List.nil_append, primary, hkind,
      nestedWithin, atLevel, bind, Except.bind, hread]

lemma fails_call (h : ∀ x ∈ xs, NeedsItem (depth x) (words x) (expr x)) {name : List Char}
    {opening closing : Word} (hopening : opening.1 = .leftParen) {ws : List Word}
    (hitems : AreItems (xs.map words) ws) (hclosing : closing.1 = .rightParen) :
    Fails 9 (deepest (xs.map depth) + 1)
      ((.identifier, name) :: opening :: (ws ++ [closing])) := by
  intro size limit budget ls rest hd hls
  obtain ⟨called, ls, rfl, hcalled, -, hls⟩ := exists_lexeme hls
  obtain ⟨lexeme, ls, rfl, hkind, -, hls⟩ := exists_lexeme hls
  obtain ⟨ls, last, rfl, hlast, hls⟩ := exists_closing hls
  rw [hopening] at hkind
  rw [hclosing] at hlast
  have hparen : ∀ ls, startsWith .leftParen (lexeme :: ls) = true := by simp [startsWith, hkind]
  cases budget with
  | zero =>
    simp only [readAt, List.cons_append, primary, hcalled, hparen, if_true]
    rfl
  | succ budget =>
    have hread := items_fails size limit h hitems (by omega : budget < _) "',' or ')'" (Or.inl rfl)
      hlast hls rest
    simp only [readAt] at hread
    simp only [readAt, List.cons_append, List.append_assoc, List.nil_append, primary, hcalled,
      hparen, if_true, nestedWithin, atLevel, bind, Except.bind, List.tail_cons, hread]

variable (h : ∀ x ∈ xs, Needs 1 (depth x) (words x) (expr x))

include h

lemma readable_items :
    List.Forall₂ (Readable 1 (deepest (xs.map depth))) (xs.map words) (xs.map expr) :=
  forall₂_map fun x hx => (h x hx).toReadable.mono le_rfl (le_deepest (List.mem_map_of_mem hx))

lemma deepest_le_length : deepest (xs.map depth) ≤ (listWords (xs.map words)).length :=
  deepest_le <| List.forall_mem_map.mpr fun x hx =>
    (h x hx).depth_le.trans ((areItems_listWords _).length_le_of_mem (List.mem_map_of_mem hx))

theorem needs_list :
    Needs 10 (deepest (xs.map depth) + 1)
      ((.leftBrace, ['\x7b']) :: (listWords (xs.map words) ++ [(.rightBrace, ['\x7d'])]))
      (.list (xs.map expr)) := by
  refine (readable_list (readable_items h)).needs
    (fails_list (fun x hx => (h x hx).needsItem) rfl (areItems_listWords _) rfl) ?_
  have hlength := deepest_le_length h
  simp only [List.length_cons, List.length_append]
  omega

theorem needs_call {name : List Char} (hname : isKeyword "NOT" (.identifier, name) = false) :
    Needs 10 (deepest (xs.map depth) + 1)
      ((.identifier, name) :: (.leftParen, ['(']) ::
        (listWords (xs.map words) ++ [(.rightParen, [')'])]))
      (.call (String.ofList (Text.upper name)) (xs.map expr)) := by
  refine (readable_call (readable_items h) hname).needs
    (fails_call (fun x hx => (h x hx).needsItem) rfl (areItems_listWords _) rfl) ?_
  have hlength := deepest_le_length h
  simp only [List.length_cons, List.length_append]
  omega

end

theorem Needs.parens {q d : Nat} {ws : List Word} {e : Expr} (h : Needs q d ws e) (hq : 1 ≤ q) :
    Needs 10 (d + 1) ((.leftParen, ['(']) :: (ws ++ [(.rightParen, [')'])])) e := by
  refine (h.toReadable.parens hq).needs (fails_parens rfl (h.fails 1 le_rfl hq (by decide))) ?_
  have hlength := h.depth_le
  simp only [List.length_cons, List.length_append]
  omega

/-- What needs more levels of nesting than the limits allow is not parsed. -/
lemma parse_of_fails {limits : NestingLimits} {text : String} {d : Nat} {w : Word} {ws : List Word}
    (hwords : Lexeme.words text.toList = w :: ws) (h : Fails 1 d (w :: ws)) (hdepth : limits.depth < d) :
    Expr.parse limits text = .error (.nestingTooDeep limits.depth) := by
  obtain ⟨lexeme, ls, hls, -⟩ := exists_lexeme hwords
  have hread := h (Text.byteLength text.toList) limits.depth limits.depth (Lexeme.scan text.toList) []
    hdepth hwords
  rw [List.append_nil] at hread
  have hlexemes : ofLexemes (Text.byteLength text.toList) limits.depth (Lexeme.scan text.toList) =
      .error (.nestingTooDeep limits.depth) := hread
  have hne : (Lexeme.scan text.toList).isEmpty = false := by
    rw [hls]
    rfl
  simp only [Expr.parse, hne, hlexemes, bind, Except.bind, Bool.false_eq_true, if_false]

end OlapFormula.Expr
