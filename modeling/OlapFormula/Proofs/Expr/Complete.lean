import OlapFormula.Proofs.Expr.Nesting
import OlapFormula.Proofs.Expr.Operators

/-!
# What the grammar derives is read

Words are read as the expression that they derive, if nothing after them belongs to it and there is room
for as many levels of nesting as they need. Everything that the grammar puts after an operand is such an
end.
-/

namespace OlapFormula.Expr

/-- The words are read as the expression with room for `d` levels of nesting, and with no less. -/
structure IsRead (rule : Rule) (d : Nat) (ws : List Word) (e : Expr) : Prop where
  begins : ∃ w ws', ws = w :: ws' ∧ w.1 ≠ .rightParen ∧ w.1 ≠ .rightBrace ∧
    (rule = .primary → w.1 ≠ .minus ∧ w.1 ≠ .plus)
  reads : Reads rule.level d ws e
  readsLeft : isChain rule.level → ReadsLeft rule.level d ws e
  fails : Fails rule.level d ws
  depth_le : d ≤ ws.length
  height : e.height ≤ ws.length


/-- After what a rule derives, its operators may follow. -/
lemma isRead_of_readsLeft {rule next : Rule} (hnext : rule.operand? = some next) {d : Nat}
    {ws : List Word} {e : Expr}
    (hbegins : ∃ w ws', ws = w :: ws' ∧ w.1 ≠ .rightParen ∧ w.1 ≠ .rightBrace)
    (h : ReadsLeft rule.level d ws e) (hfails : Fails rule.level d ws) (hdepth : d ≤ ws.length)
    (hheight : e.height ≤ ws.length) : IsRead rule d ws e where
  begins := by
    obtain ⟨w, ws', hws, hparen, hbrace⟩ := hbegins
    exact ⟨w, ws', hws, hparen, hbrace, fun hrule => by cases hrule; cases hnext⟩
  reads := h.reads
  readsLeft _ := h
  fails := hfails
  depth_le := hdepth
  height := hheight

lemma IsRead.operand {rule next : Rule} (hnext : rule.operand? = some next) {d : Nat} {ws : List Word}
    {e : Expr} (h : IsRead next d ws e) : IsRead rule d ws e := by
  obtain ⟨hchain, hlevel⟩ := Rule.isChain_level hnext
  obtain ⟨w, ws', hws, hparen, hbrace, -⟩ := h.begins
  have hread := h.reads
  have hfails := h.fails
  rw [hlevel] at hread hfails
  exact isRead_of_readsLeft hnext ⟨w, ws', hws, hparen, hbrace⟩ (hread.left hchain)
    (hfails.left hchain) h.depth_le h.height

lemma IsRead.binary {rule next : Rule} (hnext : rule.operand? = some next) {a b : Nat}
    {ws vs us : List Word} {op : BinaryOperator} {left right : Expr} (hleft : IsRead rule a ws left)
    (hop : rule.HasOperator vs op) (hright : IsRead next b us right) :
    IsRead rule (max a b) (ws ++ vs ++ us) (.binary op left right) := by
  obtain ⟨hchain, hlevel⟩ := Rule.isChain_level hnext
  have hreadRight := hright.reads.mono (le_max_right a b)
  have hfailsRight := hright.fails
  rw [hlevel] at hreadRight hfailsRight
  have hoperator : ∀ ls rest, ls.map Lexeme.word = vs →
      operatorAt rule.level (ls ++ rest) = some (op, rest) ∧ Closes (rule.level + 1) (ls ++ rest) :=
    fun ls rest hls => operatorAt_of_hasOperator hop hls rest
  have hread := ((hleft.readsLeft hchain).mono (le_max_left a b)).binary hreadRight hop.ne_nil hoperator
  have hfails := fails_binary (hleft.readsLeft hchain) hleft.fails hfailsRight hop.ne_nil hoperator
  refine isRead_of_readsLeft hnext ?_ hread hfails ?_ ?_
  · obtain ⟨w, ws, rfl, hparen, hbrace, -⟩ := hleft.begins
    exact ⟨w, ws ++ vs ++ us, rfl, hparen, hbrace⟩
  · have hdepthLeft := hleft.depth_le
    have hdepthRight := hright.depth_le
    simp only [List.length_append]
    omega
  · have hlength := List.length_pos_iff.mpr hop.ne_nil
    have hheightLeft := hleft.height
    have hheightRight := hright.height
    simp only [Expr.height, List.length_append]
    omega

/-- A rule without operators of its own. -/
lemma isRead_of_reads {rule : Rule} (hrule : isChain rule.level = false) {d : Nat} {ws : List Word}
    {e : Expr} (hbegins : ∃ w ws', ws = w :: ws' ∧ w.1 ≠ .rightParen ∧ w.1 ≠ .rightBrace ∧
      (rule = .primary → w.1 ≠ .minus ∧ w.1 ≠ .plus))
    (h : Reads rule.level d ws e) (hfails : Fails rule.level d ws) (hdepth : d ≤ ws.length)
    (hheight : e.height ≤ ws.length) : IsRead rule d ws e where
  begins := hbegins
  reads := h
  readsLeft hchain := by
    rw [hrule] at hchain
    contradiction
  fails := hfails
  depth_le := hdepth
  height := hheight

lemma IsRead.not {d : Nat} {w : Word} {ws : List Word} {e : Expr} (hw : isKeyword "NOT" w)
    (h : IsRead .negation d ws e) : IsRead .negation (d + 1) (w :: ws) (.unary .not e) := by
  have hheight := h.height
  refine isRead_of_reads rfl ⟨_, _, rfl, by simp [kind_of_word hw]⟩ (reads_not hw h.reads)
    (fails_not hw h.fails) (Nat.succ_le_succ h.depth_le) ?_
  simp only [Expr.height, List.length_cons]
  omega

lemma IsRead.comparison {d : Nat} {w : Word} {ws : List Word} {e : Expr}
    (hw : isKeyword "NOT" w = false) (h : IsRead .comparison d (w :: ws) e) :
    IsRead .negation d (w :: ws) e := by
  obtain ⟨_, _, hws, hparen, hbrace, -⟩ := h.begins
  cases hws
  exact isRead_of_reads rfl ⟨_, _, rfl, hparen, hbrace, by simp⟩ (h.reads.negation hw)
    (h.fails.negation hw) h.depth_le h.height

lemma IsRead.base {d : Nat} {ws : List Word} {e : Expr} (h : IsRead .signed d ws e) :
    IsRead .power d ws e := by
  obtain ⟨w, ws, rfl, hparen, hbrace, -⟩ := h.begins
  exact isRead_of_reads rfl ⟨w, ws, rfl, hparen, hbrace, by simp⟩ h.reads.power h.fails.power h.depth_le
    h.height

lemma IsRead.power {a b : Nat} {w : Word} {ws us : List Word} {base exponent : Expr}
    (hbase : IsRead .signed a ws base) (hw : w.1 = .caret) (hexponent : IsRead .power b us exponent) :
    IsRead .power (max a (b + 1)) (ws ++ w :: us) (.binary .power base exponent) := by
  have hdepthBase := hbase.depth_le
  have hdepthExponent := hexponent.depth_le
  have hheightBase := hbase.height
  have hheightExponent := hexponent.height
  refine isRead_of_reads rfl ?_ (reads_power hbase.reads hw hexponent.reads)
    (fails_power hbase.reads hbase.fails hw hexponent.fails) ?_ ?_
  · obtain ⟨v, ws, rfl, hparen, hbrace, -⟩ := hbase.begins
    exact ⟨v, ws ++ w :: us, rfl, hparen, hbrace, by simp⟩
  · simp only [List.length_cons, List.length_append]
    omega
  · simp only [Expr.height, List.length_cons, List.length_append]
    omega

lemma IsRead.negate {d : Nat} {w : Word} {ws : List Word} {e : Expr} (hw : w.1 = .minus)
    (h : IsRead .signed d ws e) : IsRead .signed (d + 1) (w :: ws) (.unary .negate e) := by
  have hheight := h.height
  refine isRead_of_reads rfl ⟨_, _, rfl, by simp [hw]⟩ (reads_negate hw h.reads)
    (fails_negate hw h.fails) (Nat.succ_le_succ h.depth_le) ?_
  simp only [Expr.height, List.length_cons]
  omega

lemma IsRead.plus {d : Nat} {w : Word} {ws : List Word} {e : Expr} (hw : w.1 = .plus)
    (h : IsRead .signed d ws e) : IsRead .signed (d + 1) (w :: ws) e :=
  isRead_of_reads rfl ⟨_, _, rfl, by simp [hw]⟩ (reads_plus hw h.reads) (fails_plus hw h.fails)
    (Nat.succ_le_succ h.depth_le) (Nat.le_succ_of_le h.height)

lemma IsRead.primary {d : Nat} {ws : List Word} {e : Expr} (h : IsRead .primary d ws e) :
    IsRead .signed d ws e := by
  obtain ⟨w, ws, rfl, hparen, hbrace, hsign⟩ := h.begins
  exact isRead_of_reads rfl ⟨w, ws, rfl, hparen, hbrace, by simp⟩ (h.reads.signed (hsign rfl))
    (h.fails.signed (hsign rfl)) h.depth_le h.height

lemma isRead_word {kind : LexemeKind} {cs : List Char} {e : Expr}
    (hkind : kind = .number ∨ kind = .string ∨ kind = .field ∨ kind = .identifier)
    (h : Reads 9 0 [(kind, cs)] e) (hheight : e.height ≤ 1) : IsRead .primary 0 [(kind, cs)] e := by
  refine isRead_of_reads rfl ⟨_, _, rfl, ?_⟩ h ?_ (Nat.zero_le _) hheight
  · rcases hkind with rfl | rfl | rfl | rfl <;> simp
  · exact fun _ _ _ _ _ hbudget => absurd hbudget (Nat.not_lt_zero _)

lemma isRead_name {w : Word} {keyword : String} {e : Expr} (hw : isKeyword keyword w)
    (hname : ∀ lexeme : Lexeme, lexeme.isKeyword keyword → ofName? lexeme = some e)
    (hheight : e.height ≤ 1) : IsRead .primary 0 [w] e := by
  obtain ⟨kind, cs⟩ := w
  have hkeyword : Lexeme.isKeyword ⟨kind, 0, cs⟩ keyword := hw
  obtain rfl : kind = .identifier := kind_of_isKeyword hkeyword
  exact isRead_word (by simp) (reads_name (hname _ hkeyword)) hheight

lemma IsRead.parens {d : Nat} {opening closing : Word} {ws : List Word} {e : Expr}
    (hopening : opening.1 = .leftParen) (h : IsRead .disjunction d ws e)
    (hclosing : closing.1 = .rightParen) :
    IsRead .primary (d + 1) (opening :: (ws ++ [closing])) e := by
  have hdepth := h.depth_le
  have hheight := h.height
  refine isRead_of_reads rfl ⟨_, _, rfl, by simp [hopening]⟩ (reads_parens hopening h.reads hclosing)
    (fails_parens hopening h.fails) ?_ ?_
  · simp only [List.length_cons, List.length_append]
    omega
  · simp only [List.length_cons, List.length_append]
    omega

lemma IsRead.needsItem {d : Nat} {ws : List Word} {e : Expr} (h : IsRead .disjunction d ws e) :
    NeedsItem d ws e where
  begins := by
    obtain ⟨w, ws', hws, hparen, hbrace, -⟩ := h.begins
    exact ⟨w, ws', hws, hparen, hbrace⟩
  reads := h.reads
  fails := h.fails
  height := h.height

section

variable {items : List (List Word × Expr)} {depth : List Word × Expr → Nat}
  (h : ∀ item ∈ items, IsRead .disjunction (depth item) item.1 item.2) {ws : List Word}
  (hitems : AreItems (items.map (·.1)) ws) {opening closing : Word}

include h

lemma readsItems : List.Forall₂ (ReadsItem (deepest (items.map depth))) (items.map (·.1))
    (items.map (·.2)) :=
  forall₂_map fun item hitem =>
    { (h item hitem).needsItem.toReadsItem with
      reads := (h item hitem).reads.mono (le_deepest (List.mem_map_of_mem hitem)) }

include hitems

lemma deepest_le_items : deepest (items.map depth) ≤ ws.length :=
  deepest_le <| List.forall_mem_map.mpr fun item hitem =>
    (h item hitem).depth_le.trans (hitems.length_le_of_mem (List.mem_map_of_mem hitem))

lemma isRead_list (hopening : opening.1 = .leftBrace) (hclosing : closing.1 = .rightBrace) :
    IsRead .primary (deepest (items.map depth) + 1) (opening :: (ws ++ [closing]))
      (.list (items.map (·.2))) := by
  have hdepth := deepest_le_items h hitems
  have hheight := maxHeight_le (readsItems h) hitems
  refine isRead_of_reads rfl ⟨_, _, rfl, by simp [hopening]⟩
    (reads_list hopening (readsItems h) hitems hclosing)
    (fails_list (fun item hitem => (h item hitem).needsItem) hopening hitems hclosing) ?_ ?_
  · simp only [List.length_cons, List.length_append]
    omega
  · simp only [Expr.height, List.length_cons, List.length_append]
    omega

lemma isRead_call {name : List Char} (hopening : opening.1 = .leftParen)
    (hclosing : closing.1 = .rightParen) :
    IsRead .primary (deepest (items.map depth) + 1)
      ((.identifier, name) :: opening :: (ws ++ [closing]))
      (.call (String.ofList (Text.upper name)) (items.map (·.2))) := by
  have hdepth := deepest_le_items h hitems
  have hheight := maxHeight_le (readsItems h) hitems
  refine isRead_of_reads rfl ⟨_, _, rfl, by simp⟩
    (reads_call hopening (readsItems h) hitems hclosing)
    (fails_call (fun item hitem => (h item hitem).needsItem) hopening hitems hclosing) ?_ ?_
  · simp only [List.length_cons, List.length_append]
    omega
  · simp only [Expr.height, List.length_cons, List.length_append]
    omega

end

lemma isRead_false {w : Word} (hw : isKeyword "FALSE" w) : IsRead .primary 0 [w] (.boolean false) := by
  refine isRead_name hw (fun _ h => ?_) le_rfl
  have htrue := isKeyword_eq_false h (by decide : _ ≠ Text.lowerAscii "TRUE".toList)
  simp [ofName?, htrue, h]

lemma isRead_null {w : Word} (hw : isKeyword "NULL" w) : IsRead .primary 0 [w] .null := by
  refine isRead_name hw (fun _ h => ?_) le_rfl
  have htrue := isKeyword_eq_false h (by decide : _ ≠ Text.lowerAscii "TRUE".toList)
  have hfalse := isKeyword_eq_false h (by decide : _ ≠ Text.lowerAscii "FALSE".toList)
  simp [ofName?, htrue, hfalse, h]

/-- What a rule derives is read at its level. -/
theorem Derives.isRead {rule : Rule} {ws : List Word} {e : Expr} (h : Derives rule ws e) :
    ∃ d, IsRead rule d ws e := by
  induction h with
  | operand hnext _ ih => exact ih.imp fun _ h => h.operand hnext
  | binary hnext _ hop _ ihleft ihright =>
    obtain ⟨a, hleft⟩ := ihleft
    obtain ⟨b, hright⟩ := ihright
    exact ⟨_, hleft.binary hnext hop hright⟩
  | not hw _ ih => exact ih.elim fun _ h => ⟨_, h.not hw⟩
  | comparison hw _ ih => exact ih.imp fun _ h => h.comparison hw
  | base _ ih => exact ih.imp fun _ h => h.base
  | power _ hw _ ihbase ihexponent =>
    obtain ⟨a, hbase⟩ := ihbase
    obtain ⟨b, hexponent⟩ := ihexponent
    exact ⟨_, hbase.power hw hexponent⟩
  | negate hw _ ih => exact ih.elim fun _ h => ⟨_, h.negate hw⟩
  | plus hw _ ih => exact ih.elim fun _ h => ⟨_, h.plus hw⟩
  | primary _ ih => exact ih.imp fun _ h => h.primary
  | number cs => exact ⟨0, isRead_word (by simp) (reads_number cs) le_rfl⟩
  | string cs => exact ⟨0, isRead_word (by simp) (reads_string cs) le_rfl⟩
  | field hreference => exact ⟨0, isRead_word (by simp) (reads_field hreference) le_rfl⟩
  | parens hopening _ hclosing ih => exact ih.elim fun _ h => ⟨_, h.parens hopening hclosing⟩
  | true hw => exact ⟨0, isRead_name hw (fun _ h => if_pos h) le_rfl⟩
  | false hw => exact ⟨0, isRead_false hw⟩
  | null hw => exact ⟨0, isRead_null hw⟩
  | list hopening _ hitems hclosing ih =>
    choose! depth hdepth using ih
    exact ⟨_, isRead_list hdepth hitems hopening hclosing⟩
  | call hopening _ hitems hclosing ih =>
    choose! depth hdepth using ih
    exact ⟨_, isRead_call hdepth hitems hopening hclosing⟩

/-- A text is parsed exactly if the limits allow for its levels of nesting. -/
theorem IsRead.parse_iff {limits : NestingLimits} {text : String} {d : Nat} {e : Expr}
    (h : IsRead .disjunction d (Lexeme.words text.toList) e) :
    Expr.parse limits text = .ok e ↔ d ≤ limits.depth ∧ e.height ≤ limits.height := by
  obtain ⟨w, ws, hws, -⟩ := h.begins
  have hreads := h.reads
  have hfails := h.fails
  rw [hws] at hreads hfails
  refine ⟨fun hparse => ?_, fun hroom => parse_of_reads hws hreads hroom.1 hroom.2⟩
  have hdepth : d ≤ limits.depth := by
    by_contra hdeep
    rw [parse_of_fails hws hfails (Nat.not_le.mp hdeep)] at hparse
    cases hparse
  refine ⟨hdepth, ?_⟩
  by_contra hhigh
  rw [parse_eq_of_reads hws hreads hdepth, if_pos (Nat.not_le.mp hhigh)] at hparse
  cases hparse

/-- A text whose words derive an expression is parsed as it, if the limits allow for as many levels as
there are lexemes. -/
theorem Derives.parse {limits : NestingLimits} {text : String} {e : Expr}
    (h : Derives .disjunction (Lexeme.words text.toList) e)
    (hdepth : (Lexeme.scan text.toList).length ≤ limits.depth)
    (hheight : (Lexeme.scan text.toList).length ≤ limits.height) : Expr.parse limits text = .ok e := by
  rw [← Lexeme.length_words] at hdepth hheight
  obtain ⟨d, hread⟩ := h.isRead
  exact hread.parse_iff.mpr ⟨hread.depth_le.trans hdepth, hread.height.trans hheight⟩

end OlapFormula.Expr
