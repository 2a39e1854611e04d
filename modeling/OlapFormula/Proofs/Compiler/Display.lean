import OlapFormula.Compiler
import OlapFormula.Proofs.Expr.Sound
import OlapFormula.Proofs.Presentation.Exposed

/-!
# Compiling text as it is shown

With a decimal comma, a formula that is shown passes the guard and is compiled to what its canonical text
is compiled to.
-/

namespace OlapFormula

namespace Presentation

/-- Every decimal point stands in front of a digit. -/
def HasPlainPoints (cs : List Char) : Prop :=
  ∀ number ∈ Lexeme.scan cs, number.kind = .number → ∀ place < number.chars.length,
    number.chars[place]? = some '.' → (number.chars[place + 1]?).any Char.isDigit = true

lemma HasPlainPoints.exists_digit {cs : List Char} (h : HasPlainPoints cs) {number : Lexeme}
    (hmem : number ∈ Lexeme.scan cs) (hkind : number.kind = .number) {whole rest : List Char}
    (hchars : number.chars = whole ++ '.' :: rest) :
    ∃ d after, rest = d :: after ∧ d.isDigit = true := by
  have hdigit := h number hmem hkind whole.length (by simp [hchars]) (by simp [hchars])
  rw [hchars, List.getElem?_append_right (Nat.le_succ _), Nat.succ_sub le_rfl, Nat.sub_self,
    List.getElem?_cons_succ] at hdigit
  cases rest with
  | nil => cases hdigit
  | cons d after => exact ⟨d, after, rfl, hdigit⟩

lemma decimalMark?_eq_some {number : Lexeme} (h : Lexeme.IsNumber number.chars) {whole after : List Char}
    {d : Char} (hchars : number.chars = whole ++ '.' :: d :: after) (hd : d.isDigit = true) :
    decimalMark? number = some (number.start + Text.byteLength whole) := by
  have hcount := h.count_point
  rw [hchars, List.count_append, List.count_cons_self] at hcount
  have hwhole : ∀ c ∈ whole, (c != '.') = true := fun c hc => by
    rw [bne_iff_ne]
    rintro rfl
    have := List.count_pos_iff.mpr hc
    omega
  unfold decimalMark?
  rw [hchars, List.takeWhile_append_of_pos hwhole, List.takeWhile_cons_of_neg (by simp), List.append_nil]
  dsimp only
  rw [List.drop_left]
  exact if_pos hd

lemma eq_point_of_toDisplayChar {c : Char} (h : toDisplayChar .comma c = ',') : c = '.' := by
  by_contra hpoint
  rw [toDisplayChar_comma, if_neg hpoint] at h
  split at h
  · exact absurd h (by decide)
  · contradiction

lemma mem_decimalMarks {cs : List Char} (hpoints : HasPlainPoints cs) {place : Nat}
    (hpoint : StandsAt (Lexeme.scan cs) '.' place) {shown : List Char}
    (hshown : toCanonical .comma shown = cs) : place ∈ decimalMarks .comma shown := by
  rcases hpoint with hblank | ⟨number, hmem, hopen, before, after, hchars, rfl⟩
  · exact absurd hblank (by decide)
  · obtain ⟨hkind, hnumber⟩ := hopen.point (by rw [hchars]; simp)
    obtain ⟨d, rest, rfl, hd⟩ := hpoints.exists_digit hmem hkind hchars
    unfold decimalMarks
    rw [hshown]
    refine List.mem_filterMap.mpr ⟨number, List.mem_filter.mpr ⟨hmem, ?_⟩, ?_⟩
    · rw [hkind]
      rfl
    · exact decimalMark?_eq_some hnumber hchars hd

lemma standsAt_of_append {cs : List Char} (hregular : ∀ lexeme ∈ Lexeme.scan cs, lexeme.kind.IsRegular)
    {before after : List (Char × Bool)} {c : Char} (hc : exposure cs = before ++ (c, true) :: after) :
    StandsAt (Lexeme.scan cs) c (Text.byteLength (before.map (·.1))) := by
  have hstands := standsAt_of_exposure (Lexeme.scans_scan cs) hregular hc
  rwa [Nat.zero_add] at hstands

/-- In a formula semicolons are protected. -/
lemma ne_semicolon_of_isRegular {cs : List Char}
    (hregular : ∀ lexeme ∈ Lexeme.scan cs, lexeme.kind.IsRegular) :
    ∀ p ∈ exposure cs, p.2 → p.1 ≠ ';' := by
  rintro ⟨c, exposed⟩ hmem rfl rfl
  obtain ⟨before, after, hsplit⟩ := List.append_of_mem hmem
  rcases standsAt_of_append hregular hsplit with hblank | ⟨lexeme, -, hopen, pre, post, hchars, -⟩
  · exact absurd hblank (by decide)
  · exact hopen.not_mem ';' (by simp) (by rw [hchars]; simp)

/-- A formula is shown in such a way that it can be read back, and nothing is wrong with its separators. -/
theorem checkSeparators_toDisplay {cs : List Char}
    (hregular : ∀ lexeme ∈ Lexeme.scan cs, lexeme.kind.IsRegular) (hpoints : HasPlainPoints cs) :
    toCanonical .comma (toDisplay .comma cs) = cs ∧ checkSeparators .comma (toDisplay .comma cs) = [] := by
  have hback : toCanonical .comma (toDisplay .comma cs) = cs := by
    rw [toDisplay_comma, toCanonical_comma]
    refine mapFrom_mapFrom isExchange_toDisplayChar (noNewSuffix_toDisplayChar cs) fun p hp hexposed => ?_
    exact toCanonicalChar_toDisplayChar (ne_semicolon_of_isRegular hregular p hp hexposed)
  refine ⟨hback, eachExposed_eq_nil_of fun before c after hshown => ?_⟩
  rw [exposure_toDisplay] at hshown
  obtain ⟨before, rest, hsplit, rfl, hrest⟩ := List.map_eq_append_iff.mp hshown
  obtain ⟨⟨d, exposed⟩, after, rfl, hd, -⟩ := List.map_eq_cons_iff.mp hrest
  obtain ⟨rfl, rfl⟩ : toDisplayChar .comma d = c ∧ exposed = true := by
    obtain ⟨hc, rfl⟩ := Prod.mk.inj hd
    exact ⟨hc, rfl⟩
  rw [byteLength_map_exchanged isExchange_toDisplayChar, Nat.zero_add]
  unfold separatorMessages
  rw [if_neg (by decide), if_neg (toDisplayChar_ne_point d), if_neg]
  rintro hcomma
  simp only [Bool.and_eq_true, decide_eq_true_eq, Bool.not_eq_true', List.contains_eq_mem,
    decide_eq_false_iff_not] at hcomma
  refine hcomma.2 (mem_decimalMarks hpoints ?_ hback)
  obtain rfl : d = '.' := eq_point_of_toDisplayChar hcomma.1.1
  exact standsAt_of_append hregular hsplit

end Presentation

namespace Compiler

/-- With a decimal comma, a formula is shown without misplaced separators, and what is shown is compiled
and validated as the formula itself. Points without digits after them are left out: `1.` is shown as `1,`,
where the comma could separate arguments. -/
theorem compileDisplay_toDisplay {compiler : Compiler} (hlocale : compiler.settings.locale = .comma)
    {text : String} {e : Expr} (hparse : Expr.parse compiler.settings.limits text = .ok e)
    (hpoints : Presentation.HasPlainPoints text.toList) :
    compiler.checkSeparators (compiler.toDisplay text) = [] ∧
      ∀ editing : Option String,
        compiler.compileDisplay editing (compiler.toDisplay text) = compiler.compile editing text ∧
        compiler.validateDisplay editing (compiler.toDisplay text) = compiler.validate editing text := by
  have hregular : ∀ lexeme ∈ Lexeme.scan text.toList, lexeme.kind.IsRegular := fun lexeme hmem =>
    (Expr.derives_of_parse hparse).isRegular lexeme.word (List.mem_map_of_mem hmem)
  obtain ⟨hback, hsilent⟩ := Presentation.checkSeparators_toDisplay hregular hpoints
  have hcanonical : compiler.toCanonical (compiler.toDisplay text) = text := by
    unfold toCanonical toDisplay
    rw [hlocale, String.toList_ofList, hback, String.ofList_toList]
  have hmessages : compiler.checkSeparators (compiler.toDisplay text) = [] := by
    unfold checkSeparators toDisplay
    rw [hlocale, String.toList_ofList, hsilent]
  refine ⟨hmessages, fun editing => ?_⟩
  unfold compileDisplay validateDisplay
  rw [hmessages, hcanonical]
  exact ⟨rfl, rfl⟩

theorem compileDisplay_toDisplay_of_literals :
    let model : Model := .ofMembers .hana [{ id := "City" }] [{ id := "Sales" }]
    let compiler : Compiler := { settings := { locale := .comma }, model }
    let text := "IF([Sales] > 1.5, MAX(.5e2, LENGTH(\"a,b;c.\")), 2)"
    compiler.toDisplay text = "IF([Sales] > 1,5; MAX(,5e2; LENGTH(\"a,b;c.\")); 2)" ∧
      (∃ e, Expr.parse compiler.settings.limits text = .ok e) ∧
      Presentation.HasPlainPoints text.toList ∧
      compiler.checkSeparators (compiler.toDisplay text) = [] ∧
      ∀ editing : Option String,
        compiler.compileDisplay editing (compiler.toDisplay text) = compiler.compile editing text ∧
        compiler.validateDisplay editing (compiler.toDisplay text) = compiler.validate editing text := by
  intro model compiler text
  have hpoints : Presentation.HasPlainPoints text.toList := by
    unfold Presentation.HasPlainPoints
    decide +kernel
  obtain ⟨e, hparse⟩ := Expr.exists_parse
    (show (Expr.parse compiler.settings.limits text).isOk = true by decide +kernel)
  exact ⟨by decide +kernel, ⟨e, hparse⟩, hpoints, compileDisplay_toDisplay rfl hparse hpoints⟩

end Compiler

end OlapFormula
