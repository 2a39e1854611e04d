import Mathlib.Data.List.Forall2
import OlapFormula.Proofs.Expr.Reading

/-!
# Reading brackets and single words

Parentheses, lists and calls read what is inside from the first level on; single words are read as they
are.
-/

namespace OlapFormula.Expr

open Lexeme (word)

lemma operatorAt_of_kind {lexeme : Lexeme}
    (h : lexeme.kind = .comma ∨ lexeme.kind = .rightParen ∨ lexeme.kind = .rightBrace) (p : Nat)
    (ls : List Lexeme) : operatorAt p (lexeme :: ls) = none := by
  obtain ⟨kind, start, chars⟩ := lexeme
  rcases h with rfl | rfl | rfl <;>
    match p with
    | 0 | 3 | 5 | 6 | 7 | _ + 8 => rfl
    | 1 | 2 => simp [operatorAt, wordOperator, startsWithWord, Lexeme.isKeyword]
    | 4 => simp [operatorAt, comparisonOperator, symbolOperator, ofComparison?, startsWithWord, Lexeme.isKeyword]

lemma closes_of_kind {lexeme : Lexeme}
    (h : lexeme.kind = .comma ∨ lexeme.kind = .rightParen ∨ lexeme.kind = .rightBrace)
    (ls : List Lexeme) : Closes 1 (lexeme :: ls) := by
  refine ⟨fun q _ => operatorAt_of_kind h q ls, ?_⟩
  rcases h with h | h | h <;> simp [startsWith, h]

lemma closes_nil : Closes 1 [] := by
  refine ⟨fun q _ => ?_, rfl⟩
  match q with
  | 0 | 1 | 2 | 3 | 4 | 5 | 6 | 7 | _ + 8 => rfl

/-- What is read with room for its nesting is parsed unless it is too high. -/
lemma parse_eq_of_reads {limits : NestingLimits} {text : String} {d : Nat} {w : Word} {ws : List Word}
    {e : Expr} (hwords : Lexeme.words text.toList = w :: ws) (h : Reads 1 d (w :: ws) e)
    (hdepth : d ≤ limits.depth) :
    Expr.parse limits text =
      if limits.height < e.height then .error (.nestingTooDeep limits.height) else .ok e := by
  obtain ⟨lexeme, ls, hls, -⟩ := exists_lexeme hwords
  have hread := h (Text.byteLength text.toList) limits.depth limits.depth (Lexeme.scan text.toList) []
    hdepth hwords closes_nil
  rw [List.append_nil] at hread
  have hlexemes : ofLexemes (Text.byteLength text.toList) limits.depth (Lexeme.scan text.toList) =
      .ok (e, []) := hread
  have hne : (Lexeme.scan text.toList).isEmpty = false := by
    rw [hls]
    rfl
  simp only [Expr.parse, hne, hlexemes, bind, Except.bind, Bool.false_eq_true, if_false, gt_iff_lt]
  split
  · rfl
  · rfl

/-- A text is parsed if its words are read and the limits leave room. -/
lemma parse_of_reads {limits : NestingLimits} {text : String} {d : Nat} {w : Word} {ws : List Word}
    {e : Expr} (hwords : Lexeme.words text.toList = w :: ws) (h : Reads 1 d (w :: ws) e)
    (hdepth : d ≤ limits.depth) (hheight : e.height ≤ limits.height) :
    Expr.parse limits text = .ok e := by
  rw [parse_eq_of_reads hwords h hdepth, if_neg (Nat.not_lt.mpr hheight)]

lemma expect_append {size : Nat} {kind : LexemeKind} {what : String} {lexeme : Lexeme}
    (h : lexeme.kind = kind) (ls : List Lexeme) : expect size kind what (lexeme :: ls) = .ok ls := by
  simp only [expect, h, if_true]

/-- The lexemes of words in brackets. -/
lemma exists_closing {closing : Word} {ws : List Word} {ls : List Lexeme}
    (h : ls.map word = ws ++ [closing]) :
    ∃ lsw lexeme, ls = lsw ++ [lexeme] ∧ lexeme.kind = closing.1 ∧ lsw.map word = ws := by
  obtain ⟨lsw, lsr, rfl, hlsw, hlsr⟩ := List.map_eq_append_iff.mp h
  obtain ⟨lexeme, lsr, rfl, hkind, -, hnil⟩ := exists_lexeme hlsr
  obtain rfl : lsr = [] := List.map_eq_nil_iff.mp hnil
  exact ⟨lsw, lexeme, rfl, hkind, hlsw⟩

lemma reads_parens {d : Nat} {opening closing : Word} {ws : List Word} {e : Expr}
    (hopening : opening.1 = .leftParen) (h : Reads 1 d ws e) (hclosing : closing.1 = .rightParen) :
    Reads 9 (d + 1) (opening :: (ws ++ [closing])) e := by
  intro size limit budget ls rest hd hls hrest
  obtain ⟨lexeme, ls, rfl, hkind, -, hls⟩ := exists_lexeme hls
  obtain ⟨ls, last, rfl, hlast, hls⟩ := exists_closing hls
  obtain ⟨budget, rfl, hdeep⟩ := nestedWithin_succ hd
  rw [hopening] at hkind
  rw [hclosing] at hlast
  have hread := h size limit budget ls (last :: rest) hdeep hls
    (closes_of_kind (Or.inr (Or.inl hlast)) rest)
  simp only [readAt] at hread
  simp only [readAt, List.cons_append, List.append_assoc, List.nil_append, primary, hkind,
    nestedWithin, atLevel, bind, Except.bind, hread, expect_append hlast]
  rfl

/-- The words are read as the expression, and can be told from the end of a list. -/
structure ReadsItem (d : Nat) (ws : List Word) (e : Expr) : Prop where
  begins : ∃ w ws', ws = w :: ws' ∧ w.1 ≠ .rightParen ∧ w.1 ≠ .rightBrace
  reads : Reads 1 d ws e
  height : e.height ≤ ws.length

lemma Readable.readsItem {q d : Nat} {ws : List Word} {e : Expr} (h : Readable q d ws e)
    (hq : 1 ≤ q) : ReadsItem d ws e where
  begins := by
    obtain ⟨w, ws', hws, hw⟩ := h.begins
    exact ⟨w, ws', hws, hw.rightParen, hw.rightBrace⟩
  reads := h.reads 1 le_rfl hq (by decide)
  height := h.height

lemma closes_moreItems {wss : List (List Word)} {ws : List Word} (h : AreMoreItems wss ws)
    {ls rest : List Lexeme} (hls : ls.map word = ws) (hrest : Closes 1 rest) :
    Closes 1 (ls ++ rest) := by
  cases h with
  | nil =>
    obtain rfl : ls = [] := List.map_eq_nil_iff.mp hls
    exact hrest
  | cons hcomma _ =>
    obtain ⟨comma, ls, rfl, hkind, -, -⟩ := exists_lexeme hls
    exact closes_of_kind (Or.inl (hkind.trans hcomma)) _

lemma moreItems_of_reads (size limit : Nat) {budget d : Nat} (hd : d ≤ budget) {wss : List (List Word)}
    {es : List Expr} (h : List.Forall₂ (ReadsItem d) wss es) {ws : List Word}
    (hitems : AreMoreItems wss ws) {count : Nat} (hcount : wss.length ≤ count)
    {ls rest : List Lexeme} (hls : ls.map word = ws) (hrest : Closes 1 rest)
    (hcomma : startsWith .comma rest = false) :
    moreItems (readAt size (nestedWithin size limit budget) 1) count (ls ++ rest) =
      .ok (es, rest) := by
  induction h generalizing count ls ws with
  | nil =>
    cases hitems
    obtain rfl : ls = [] := List.map_eq_nil_iff.mp hls
    cases count with
    | zero => rfl
    | succ count => simp [moreItems, hcomma]
  | @cons us e wss es hus _ ih =>
    obtain - | ⟨hw, hmore⟩ := hitems
    obtain ⟨comma, ls, rfl, hkind, -, hls⟩ := exists_lexeme hls
    obtain ⟨lsu, lsv, rfl, hlsu, hlsv⟩ := List.map_eq_append_iff.mp hls
    obtain ⟨count, rfl⟩ : ∃ n, count = n + 1 := ⟨count - 1, by simp at hcount; omega⟩
    have hfirst := hus.reads size limit budget lsu (lsv ++ rest) hd hlsu
      (closes_moreItems hmore hlsv hrest)
    have hothers := ih hmore (by simpa using hcount) hlsv
    have hstart : startsWith .comma (comma :: (lsu ++ lsv) ++ rest) = true := by
      simp [startsWith, hkind, hw]
    rw [moreItems, if_pos hstart]
    simp only [List.cons_append, List.tail_cons, List.append_assoc, bind, Except.bind, hfirst,
      hothers]
    rfl

lemma items_of_reads (size limit : Nat) {budget d : Nat} (hd : d ≤ budget) {wss : List (List Word)}
    {es : List Expr} (h : List.Forall₂ (ReadsItem d) wss es) {ws : List Word} (hitems : AreItems wss ws)
    {kind : LexemeKind} (what : String) (hkind : kind = .rightParen ∨ kind = .rightBrace)
    {closing : Lexeme} (hclosing : closing.kind = kind) {ls : List Lexeme} (hls : ls.map word = ws)
    (rest : List Lexeme) :
    items size (readAt size (nestedWithin size limit budget) 1) kind what (ls ++ closing :: rest) =
      .ok (es, rest) := by
  have hcloses : Closes 1 (closing :: rest) :=
    closes_of_kind (by rw [hclosing]; exact Or.inr hkind) rest
  cases h with
  | nil =>
    cases hitems
    obtain rfl : ls = [] := List.map_eq_nil_iff.mp hls
    simp [items, startsWith, hclosing]
    rfl
  | @cons us e wss es hus hwss =>
    obtain - | hmore := hitems
    obtain ⟨lsu, lsv, rfl, hlsu, hlsv⟩ := List.map_eq_append_iff.mp hls
    have hstart : startsWith kind (lsu ++ (lsv ++ closing :: rest)) = false := by
      obtain ⟨w, us, rfl, hparen, hbrace⟩ := hus.begins
      obtain ⟨lexeme, lsu, rfl, hlexeme, -, -⟩ := exists_lexeme hlsu
      rcases hkind with rfl | rfl <;> simp [startsWith, hlexeme, hparen, hbrace]
    have hcount : wss.length ≤ (lsv ++ closing :: rest).length := by
      have hcommas := hmore.length_le
      rw [← hlsv, List.length_map] at hcommas
      rw [List.length_append]
      omega
    have hcomma : startsWith .comma (closing :: rest) = false := by
      rcases hkind with rfl | rfl <;> simp [startsWith, hclosing]
    have hfirst := hus.reads size limit budget lsu (lsv ++ closing :: rest) hd hlsu
      (closes_moreItems hmore hlsv hcloses)
    have hothers := moreItems_of_reads size limit hd hwss hmore hcount hlsv hcloses hcomma
    rw [List.append_assoc]
    simp only [items, hstart, Bool.false_eq_true, if_false, hfirst, bind, Except.bind, pure,
      Except.pure, hothers, expect_append hclosing]

lemma forall₂_map {α β γ : Type} {R : β → γ → Prop} {xs : List α} {f : α → β} {g : α → γ}
    (h : ∀ x ∈ xs, R (f x) (g x)) : List.Forall₂ R (xs.map f) (xs.map g) := by
  rw [List.forall₂_map_left_iff, List.forall₂_map_right_iff, List.forall₂_same]
  exact h

lemma maxHeight_le {d : Nat} {wss : List (List Word)} {es : List Expr}
    (h : List.Forall₂ (ReadsItem d) wss es) {ws : List Word} (hitems : AreItems wss ws) :
    maxHeight es ≤ ws.length := by
  have hbound : ∀ us ∈ wss, us.length ≤ ws.length := fun us hus => hitems.length_le_of_mem hus
  clear hitems
  induction h with
  | nil => exact Nat.zero_le _
  | cons hus _ ih =>
    rw [List.forall_mem_cons] at hbound
    exact max_le (hus.height.trans hbound.1) (ih hbound.2)

lemma reads_list {d : Nat} {opening closing : Word} {ws : List Word} {wss : List (List Word)}
    {es : List Expr} (hopening : opening.1 = .leftBrace) (h : List.Forall₂ (ReadsItem d) wss es)
    (hitems : AreItems wss ws) (hclosing : closing.1 = .rightBrace) :
    Reads 9 (d + 1) (opening :: (ws ++ [closing])) (.list es) := by
  intro size limit budget ls rest hd hls hrest
  obtain ⟨lexeme, ls, rfl, hkind, -, hls⟩ := exists_lexeme hls
  obtain ⟨ls, last, rfl, hlast, hls⟩ := exists_closing hls
  obtain ⟨budget, rfl, hdeep⟩ := nestedWithin_succ hd
  rw [hopening] at hkind
  rw [hclosing] at hlast
  have hread := items_of_reads size limit hdeep h hitems "',' or '\x7d' in list" (Or.inr rfl) hlast
    hls rest
  simp only [readAt] at hread
  simp only [readAt, List.cons_append, List.append_assoc, List.nil_append, primary, hkind,
    nestedWithin, atLevel, bind, Except.bind, hread]
  rfl

lemma reads_call {d : Nat} {name : List Char} {opening closing : Word} {ws : List Word}
    {wss : List (List Word)} {es : List Expr} (hopening : opening.1 = .leftParen)
    (h : List.Forall₂ (ReadsItem d) wss es) (hitems : AreItems wss ws)
    (hclosing : closing.1 = .rightParen) :
    Reads 9 (d + 1) ((.identifier, name) :: opening :: (ws ++ [closing]))
      (.call (String.ofList (Text.upper name)) es) := by
  intro size limit budget ls rest hd hls hrest
  obtain ⟨called, ls, rfl, hcalled, hchars, hls⟩ := exists_lexeme hls
  obtain ⟨lexeme, ls, rfl, hkind, -, hls⟩ := exists_lexeme hls
  obtain ⟨ls, last, rfl, hlast, hls⟩ := exists_closing hls
  obtain ⟨budget, rfl, hdeep⟩ := nestedWithin_succ hd
  rw [hopening] at hkind
  rw [hclosing] at hlast
  have hread := items_of_reads size limit hdeep h hitems "',' or ')'" (Or.inl rfl) hlast hls rest
  have hparen : ∀ ls, startsWith .leftParen (lexeme :: ls) = true := by simp [startsWith, hkind]
  simp only [readAt] at hread
  simp only [readAt, List.cons_append, List.append_assoc, List.nil_append, primary, hcalled, hchars,
    hparen, if_true, nestedWithin, atLevel, bind, Except.bind, List.tail_cons, hread]
  rfl

/-- Words of several expressions with commas between them. -/
def listWords : List (List Word) → List Word
  | [] => []
  | ws :: wss => ws ++ wss.flatMap fun us => (.comma, [',']) :: us

lemma areItems_listWords (wss : List (List Word)) : AreItems wss (listWords wss) := by
  have hmore : ∀ wss : List (List Word),
      AreMoreItems wss (wss.flatMap fun us => (.comma, [',']) :: us) := by
    intro wss
    induction wss with
    | nil => exact .nil
    | cons us wss ih => exact .cons rfl ih
  cases wss with
  | nil => exact .nil
  | cons us wss => exact .cons (hmore wss)

theorem readable_list {d : Nat} {wss : List (List Word)} {es : List Expr}
    (h : List.Forall₂ (Readable 1 d) wss es) :
    Readable 10 (d + 1) ((.leftBrace, ['\x7b']) :: (listWords wss ++ [(.rightBrace, ['\x7d'])]))
      (.list es) := by
  have hread : List.Forall₂ (ReadsItem d) wss es := h.imp fun _ _ hus => hus.readsItem le_rfl
  have hheight := maxHeight_le hread (areItems_listWords wss)
  refine readable_of_primary ⟨nofun, nofun, fun _ => rfl, fun _ => ⟨nofun, nofun⟩⟩
    (reads_list rfl hread (areItems_listWords wss) rfl) ?_
  simp only [height, List.length_cons, List.length_append]
  omega

theorem readable_call {d : Nat} {wss : List (List Word)} {es : List Expr}
    (h : List.Forall₂ (Readable 1 d) wss es) {name : List Char}
    (hname : isKeyword "NOT" (.identifier, name) = false) :
    Readable 10 (d + 1)
      ((.identifier, name) :: (.leftParen, ['(']) :: (listWords wss ++ [(.rightParen, [')'])]))
      (.call (String.ofList (Text.upper name)) es) := by
  have hread : List.Forall₂ (ReadsItem d) wss es := h.imp fun _ _ hus => hus.readsItem le_rfl
  have hheight := maxHeight_le hread (areItems_listWords wss)
  refine readable_of_primary ⟨nofun, nofun, fun _ => hname, fun _ => ⟨nofun, nofun⟩⟩
    (reads_call rfl hread (areItems_listWords wss) rfl) ?_
  simp only [height, List.length_cons, List.length_append]
  omega

theorem Readable.parens {q d : Nat} {ws : List Word} {e : Expr} (h : Readable q d ws e) (hq : 1 ≤ q) :
    Readable 10 (d + 1) ((.leftParen, ['(']) :: (ws ++ [(.rightParen, [')'])])) e := by
  have hheight := h.height
  refine readable_of_primary ⟨nofun, nofun, fun _ => rfl, fun _ => ⟨nofun, nofun⟩⟩
    (reads_parens rfl (h.reads 1 le_rfl hq (by decide)) rfl) ?_
  simp only [List.length_cons, List.length_append]
  omega

lemma reads_word {w : Word} {e : Expr}
    (h : ∀ size nested lexeme rest, lexeme.kind = w.1 → lexeme.chars = w.2 →
      startsWith .leftParen rest = false →
      primary size nested (lexeme :: rest) = .ok (e, rest)) : Reads 9 0 [w] e := by
  intro size limit budget ls rest _ hls hrest
  obtain ⟨lexeme, ls, rfl, hkind, hchars, hnil⟩ := exists_lexeme hls
  obtain rfl : ls = [] := List.map_eq_nil_iff.mp hnil
  exact h size _ lexeme rest hkind hchars hrest.paren

lemma reads_number (cs : List Char) : Reads 9 0 [(.number, cs)] (.number (String.ofList cs)) := by
  apply reads_word
  intro size nested lexeme rest hkind hchars _
  simp [primary, hkind, Lexeme.text, hchars]

lemma reads_string (cs : List Char) :
    Reads 9 0 [(.string, cs)] (.string (String.ofList (Text.unquote cs))) := by
  apply reads_word
  intro size nested lexeme rest hkind hchars _
  simp [primary, hkind, hchars]

lemma reads_field {cs : List Char} {r : FieldReference} (h : FieldReference.parse? cs = some r) :
    Reads 9 0 [(.field, cs)] (.field r) := by
  apply reads_word
  intro size nested lexeme rest hkind hchars _
  simp [primary, hkind, hchars, h]

/-- `TRUE`, `FALSE` and `NULL`. -/
lemma reads_name {cs : List Char} {e : Expr} (h : ofName? ⟨.identifier, 0, cs⟩ = some e) :
    Reads 9 0 [(.identifier, cs)] e := by
  apply reads_word
  intro size nested lexeme rest hkind hchars hparen
  have hname : ofName? lexeme = some e := by
    simpa [ofName?, Lexeme.isKeyword, hkind, hchars] using h
  simp [primary, hkind, hparen, hname]

lemma begins_of_kind {w : Word} (h : w.1 = .number ∨ w.1 = .string ∨ w.1 = .field) : Begins 9 w := by
  rcases h with h | h | h <;> exact ⟨by simp [h], by simp [h], by simp [h, isKeyword], by simp [h]⟩

theorem readable_number (cs : List Char) :
    Readable 10 0 [(.number, cs)] (.number (String.ofList cs)) :=
  readable_of_primary (begins_of_kind (Or.inl rfl)) (reads_number cs) le_rfl

theorem readable_string (cs : List Char) :
    Readable 10 0 [(.string, cs)] (.string (String.ofList (Text.unquote cs))) :=
  readable_of_primary (begins_of_kind (Or.inr (Or.inl rfl))) (reads_string cs) le_rfl

theorem readable_field {cs : List Char} {r : FieldReference} (h : FieldReference.parse? cs = some r) :
    Readable 10 0 [(.field, cs)] (.field r) :=
  readable_of_primary (begins_of_kind (Or.inr (Or.inr rfl))) (reads_field h) le_rfl

theorem readable_name {cs : List Char} {e : Expr}
    (h : ofName? ⟨.identifier, 0, cs⟩ = some e) (hnot : isKeyword "NOT" (.identifier, cs) = false)
    (hheight : e.height ≤ 1) : Readable 10 0 [(.identifier, cs)] e :=
  readable_of_primary ⟨nofun, nofun, fun _ => hnot, fun _ => ⟨nofun, nofun⟩⟩ (reads_name h) hheight

end OlapFormula.Expr
