import OlapFormula.Proofs.Expr.Fields
import OlapFormula.Proofs.Presentation.Exposed

/-!
# Fields and lexemes

Fields are looked for in two ways: with all the lexemes of a text, and alone, when only what it refers to is
of interest. Strings end in the same place for both, and so do fields, so both find the same fields, in
texts that are half typed as well.
-/

namespace OlapFormula

namespace Lexeme

/-- Only quotes and brackets begin strings and fields. -/
lemma kind_of_classify {kind : LexemeKind} {c : Char} {cs : List Char} {length : Nat}
    (h : classify c cs = (kind, length)) (hquote : c ≠ '"') (hbracket : c ≠ '[') :
    kind ≠ .field ∧ kind ≠ .unterminated ∧ (kind = .unexpected → length = 1) := by
  have hregular {other : LexemeKind} {n : Nat} (hother : (other, n) = (kind, length))
      (hne : other ∉ [.field, .unterminated, .unexpected]) :
      kind ≠ .field ∧ kind ≠ .unterminated ∧ (kind = .unexpected → length = 1) := by
    obtain ⟨rfl, -⟩ := Prod.mk.inj hother
    simp only [List.mem_cons, List.not_mem_nil, or_false, not_or] at hne
    exact ⟨hne.1, hne.2.1, fun hunexpected => absurd hunexpected hne.2.2⟩
  unfold classify at h
  split at h
  any_goals first | exact hregular h (by decide) | skip
  · exact absurd rfl hquote
  · exact absurd rfl hbracket
  · split_ifs at h
    · exact hregular h (by decide)
    · exact hregular h (by decide)
    · obtain ⟨rfl, rfl⟩ := Prod.mk.inj h
      exact ⟨by decide, by decide, fun _ => rfl⟩

/-- Strings and fields apart, lexemes have neither quotes nor brackets. -/
lemma not_mem_of_classify {kind : LexemeKind} {c : Char} {body rest : List Char}
    (h : classify c (body ++ rest) = (kind, 1 + body.length)) (hquote : c ≠ '"') (hbracket : c ≠ '[') :
    '"' ∉ c :: body ∧ '[' ∉ c :: body := by
  obtain ⟨-, hclosed, hunexpected⟩ := kind_of_classify h hquote hbracket
  by_cases hkind : kind = .unexpected
  · have hlength := hunexpected hkind
    obtain rfl : body = [] := List.eq_nil_of_length_eq_zero (by omega)
    exact ⟨by simpa using hquote.symm, by simpa using hbracket.symm⟩
  · rcases protected_or_isOpen h 0 ⟨hclosed, hkind⟩ with hprotected | hopen
    · have hescape : c = '\\' := by
        by_contra hne
        rw [Presentation.protectedAfter_eq_none_iff.mpr ⟨hquote, hbracket, hne⟩] at hprotected
        cases hprotected
      subst hescape
      exact absurd (Prod.mk.inj h).1.symm hkind
    · exact ⟨hopen.not_mem '"' (by simp), hopen.not_mem '[' (by simp)⟩

end Lexeme

namespace FieldReference

lemma spansFrom_append {start : Nat} (xs cs : List Char) :
    spansFrom xs.length start (xs ++ cs) = spansFrom 0 (start + Text.byteLength xs) cs := by
  induction xs generalizing start with
  | nil => rfl
  | cons x xs ih =>
    rw [List.length_cons, List.cons_append, spansFrom, ih, Text.byteLength, Nat.add_assoc]

lemma spansFrom_plain {start : Nat} {xs : List Char} (hquote : '"' ∉ xs) (hbracket : '[' ∉ xs)
    (cs : List Char) : spansFrom 0 start (xs ++ cs) = spansFrom 0 (start + Text.byteLength xs) cs := by
  induction xs generalizing start with
  | nil => rfl
  | cons x xs ih =>
    rw [List.mem_cons, not_or] at hquote hbracket
    rw [List.cons_append, spansFrom]
    rw [if_neg (Ne.symm hquote.1), if_neg (Ne.symm hbracket.1), ih hquote.2 hbracket.2, Text.byteLength,
      Nat.add_assoc]

/-- Fields are found where the text is read as lexemes of this kind, whatever else stands in it. -/
theorem spansFrom_of_scans {start : Nat} {cs : List Char} {ls : List Lexeme}
    (h : Lexeme.Scans start cs ls) :
    spansFrom 0 start cs =
      (ls.filter (·.kind == .field)).map fun lexeme => (lexeme.span, parse? lexeme.chars) := by
  induction h with
  | nil start => rfl
  | @blank start c cs ls hc _ ih =>
    have hplain := Presentation.ne_special_of_isBlank hc
    exact (spansFrom_plain (hplain '"' (by simp)) (hplain '[' (by simp)) cs).trans ih
  | @lexeme start kind c body rest ls hc hclassify hrest ih =>
    by_cases hquote : c = '"'
    · subst hquote
      rw [List.cons_append, spansFrom, if_pos rfl]
      rcases Lexeme.classify_quote hclassify with ⟨rfl, hsplit⟩ | ⟨rfl, hsplit, rfl⟩
      · simp only [hsplit]
        rw [spansFrom_append, Nat.add_assoc]
        exact ih
      · cases hrest
        simp only [hsplit]
        rfl
    by_cases hbracket : c = '['
    · subst hbracket
      rw [List.cons_append, spansFrom, if_neg (by decide), if_pos rfl]
      rcases Lexeme.classify_bracket hclassify with ⟨rfl, hsplit⟩ | ⟨rfl, hsplit, rfl⟩
      · rw [List.cons_append] at hsplit
        simp only [hsplit, List.length_cons, Nat.add_sub_cancel]
        rw [spansFrom_append, Nat.add_assoc]
        exact congrArg _ ih
      · cases hrest
        rw [List.cons_append] at hsplit
        simp only [hsplit]
        rfl
    · obtain ⟨hfield, -⟩ := Lexeme.kind_of_classify hclassify hquote hbracket
      obtain ⟨hquote, hbracket⟩ := Lexeme.not_mem_of_classify hclassify hquote hbracket
      rw [spansFrom_plain hquote hbracket, ih, List.filter_cons_of_neg (by simpa using hfield)]

/-- The fields of a text are its lexemes of this kind. -/
theorem spans_eq (cs : List Char) :
    spans cs = ((Lexeme.scan cs).filter (·.kind == .field)).map fun lexeme =>
      (lexeme.span, parse? lexeme.chars) :=
  spansFrom_of_scans (Lexeme.scans_scan cs)

/-- The references of a text are those among its words. -/
lemma filterMap_spans (cs : List Char) :
    (spans cs).filterMap (·.2) = Expr.references (Lexeme.words cs) := by
  rw [spans_eq, List.filterMap_map, List.filterMap_filter, Expr.references, Lexeme.words,
    List.filterMap_map]
  refine List.filterMap_congr fun lexeme _ => ?_
  by_cases hkind : lexeme.kind = .field <;> simp [Expr.reference?, Lexeme.word, hkind]

end FieldReference

end OlapFormula
