import Mathlib.Data.List.DropRight
import OlapFormula.Proofs.Expr.Sound
import OlapFormula.Proofs.Lexeme.Tiling
import OlapFormula.Proofs.Token.Nesting

/-!
# What is cut out of a text

Tokens are made of lexemes: they begin where one begins or the one before it ends, and they end so too. A
walk over lexemes that come one after the other therefore comes only to places where the text can be cut,
whatever the text is.
-/

namespace OlapFormula

namespace Lexeme

/-- From a place on the text is made up of these lexemes and of what is between them. -/
def AreIn (cs : List Char) (start : Nat) : List Lexeme → Prop
  | [] => Span.IsIn cs ⟨start, Text.byteLength cs⟩
  | l :: ls => Span.IsIn cs ⟨start, l.start⟩ ∧ l.IsIn cs ∧ AreIn cs l.stop ls

variable {cs : List Char} {start : Nat} {l : Lexeme} {ls ms : List Lexeme}

lemma areIn_of_areBetween (h : AreBetween start (Text.byteLength cs) ls) (hstart : Text.IsBoundary cs start)
    (hls : ∀ l ∈ ls, l.IsIn cs) : AreIn cs start ls := by
  induction ls generalizing start with
  | nil => exact ⟨h, hstart, Text.isBoundary_byteLength cs⟩
  | cons l ls ih =>
    obtain ⟨hle, -, hrest⟩ := h
    obtain ⟨hl, hls⟩ := List.forall_mem_cons.mp hls
    exact ⟨⟨hle, hstart, hl.span.start⟩, hl, ih hrest hl.span.stop hls⟩

lemma areIn_scan (cs : List Char) : AreIn cs 0 (scan cs) := by
  have hbetween := (scans_scan cs).areBetween
  rw [Nat.zero_add] at hbetween
  exact areIn_of_areBetween hbetween (Text.isBoundary_zero cs) fun _ => isIn_of_mem_scan

namespace AreIn

lemma mono {earlier : Nat} (hstart : Span.IsIn cs ⟨earlier, start⟩) (h : AreIn cs start ls) :
    AreIn cs earlier ls := by
  cases ls with
  | nil => exact hstart.trans h
  | cons l ls => exact ⟨hstart.trans h.1, h.2⟩

/-- Up to the end of the lexeme that comes next. -/
lemma toStop (h : AreIn cs start (l :: ls)) : Span.IsIn cs ⟨start, l.stop⟩ := h.1.trans h.2.1.span

lemma tail (h : AreIn cs start (l :: ls)) : AreIn cs start ls := h.2.2.mono h.toStop

lemma after (h : AreIn cs start (ls ++ l :: ms)) : l.IsIn cs ∧ AreIn cs l.stop ms := by
  induction ls with
  | nil => exact h.2
  | cons k ls ih => exact ih h.tail

lemma toEnd (h : AreIn cs start ls) : Span.IsIn cs ⟨start, Text.byteLength cs⟩ := by
  induction ls generalizing start with
  | nil => exact h
  | cons l ls ih => exact h.toStop.trans (ih h.2.2)

end AreIn

end Lexeme

/-- The members of the filter are cut out of the text. -/
def WrittenFilter.IsCutFrom (cs : List Char) (filter : WrittenFilter) : Prop :=
  ∃ members : Option Span, filter.members = members.map (textIn cs) ∧ ∀ span ∈ members, span.IsIn cs

structure DimensionToken.IsCutFrom (cs : List Char) (token : DimensionToken) : Prop where
  span : token.span.IsIn cs
  interaction : token.interaction.IsIn cs
  text : token.text = textIn cs token.span
  filter : token.filter.IsCutFrom cs

/-- The arguments can be cut out of the text, and so can the last one where it is blank and left out. -/
def Token.AreArguments (cs : List Char) (isFirst : Bool) (arguments : List Span) : Prop :=
  ∃ earlier last, arguments = earlier ++ Token.lastArgument cs (isFirst && earlier.isEmpty) last ∧
    ∀ span ∈ earlier ++ [last], span.IsIn cs

structure WrittenCall.IsCutFrom (cs : List Char) (call : WrittenCall) : Prop where
  arguments : Token.AreArguments cs true call.arguments
  dimensions : ∀ token ∈ call.dimensions, token.IsCutFrom cs

def TokenPayload.IsCutFrom (cs : List Char) : TokenPayload → Prop
  | .filter written => written.IsCutFrom cs
  | .call written => written.IsCutFrom cs

/-- The token and all that it is made of can be cut out of the text. -/
structure Token.IsCutFrom (cs : List Char) (token : Token) : Prop where
  span : token.span.IsIn cs
  interaction : token.interaction.IsIn cs
  text : token.text = textIn cs token.span
  payload : ∀ payload ∈ token.payload, payload.IsCutFrom cs

namespace Token

open Lexeme (AreIn)

variable {cs : List Char} {start : Nat} {l : Lexeme} {ls : List Lexeme}

lemma text_eq (h : l.IsIn cs) : l.text = textIn cs l.span := by
  rw [Lexeme.text, textIn, h.slice]

/-- A token that is nothing but a span of the text. -/
lemma isCutFrom_of_span {token : Token} (hspan : token.span.IsIn cs) (hinteraction : token.interaction.IsIn cs)
    (htext : token.text = textIn cs token.span) (hpayload : token.payload = none) : token.IsCutFrom cs :=
  ⟨hspan, hinteraction, htext, by simp [hpayload]⟩

/-- A token that is one lexeme. -/
lemma isCutFrom_of_lexeme (h : l.IsIn cs) (kind : TokenKind) (types : List DataType) :
    IsCutFrom cs { kind, types, text := l.text, span := l.span } :=
  isCutFrom_of_span h.span h.span (text_eq h) rfl

/-! ## References -/

lemma isIn_pastBraces? {depth place : Nat} (h : AreIn cs start ls) (hplace : pastBraces? depth ls = some place) :
    Span.IsIn cs ⟨start, place⟩ := by
  induction ls generalizing depth with
  | nil => cases hplace
  | cons l ls ih =>
    rw [pastBraces?] at hplace
    split at hplace
    · exact ih h.tail hplace
    · split at hplace
      · cases hplace
        exact h.toStop
      · exact ih h.tail hplace
    · exact ih h.tail hplace

lemma isIn_memberSpan? {span : Span} (h : AreIn cs start ls)
    (hspan : memberSpan? (Text.byteLength cs) ls = some span) :
    Span.IsIn cs ⟨start, span.start⟩ ∧ span.IsIn cs := by
  cases ls with
  | nil => cases hspan
  | cons l ls =>
    rw [memberSpan?] at hspan
    split at hspan
    · cases hspan
      exact ⟨h.1, h.2.1.span⟩
    split at hspan
    · cases hspan
      refine ⟨h.1, ?_⟩
      cases hplace : pastBraces? 1 ls with
      | none => exact h.2.1.span.trans h.2.2.toEnd
      | some place => exact h.2.1.span.trans (isIn_pastBraces? h.2.2 hplace)
    · cases hspan

lemma areIn_filterOperator? {operator : String} {last : Lexeme} {rest : List Lexeme} (h : AreIn cs start ls)
    (hfilter : filterOperator? ls = some (operator, last, rest)) :
    Span.IsIn cs ⟨start, last.stop⟩ ∧ AreIn cs last.stop rest := by
  cases ls with
  | nil => cases hfilter
  | cons first ls =>
    unfold filterOperator? at hfilter
    dsimp only at hfilter
    split at hfilter
    · cases hfilter
      exact ⟨h.toStop, h.2.2⟩
    split at hfilter
    · cases hfilter
      exact ⟨h.toStop, h.2.2⟩
    split at hfilter
    · cases ls with
      | nil => cases hfilter
      | cons second ls =>
        dsimp only at hfilter
        split at hfilter
        · cases hfilter
          exact ⟨h.tail.toStop, h.2.2.2.2⟩
        · cases hfilter
    · cases hfilter

lemma isCutFrom_ofDimension (reference : FieldReference) (h : AreIn cs start (l :: ls)) :
    (ofDimension cs l reference ls).IsCutFrom cs := by
  obtain ⟨-, hl, hls⟩ := h
  unfold ofDimension
  cases hfilter : filterOperator? ls with
  | none => exact ⟨hl.span, hl.span, text_eq hl, none, rfl, fun _ => nofun⟩
  | some found =>
    obtain ⟨operator, last, rest⟩ := found
    obtain ⟨hlast, hrest⟩ := areIn_filterOperator? hls hfilter
    have hoperator : Span.IsIn cs ⟨l.start, last.stop⟩ := hl.span.trans hlast
    refine ⟨hl.span, ?_, text_eq hl, memberSpan? (Text.byteLength cs) rest, rfl, fun span hspan => ?_⟩
    · dsimp only
      cases hspan : memberSpan? (Text.byteLength cs) rest with
      | none => exact hoperator
      | some span =>
        obtain ⟨hbefore, hin⟩ := isIn_memberSpan? hrest hspan
        exact (hoperator.trans hbefore).trans hin
    · exact (isIn_memberSpan? hrest hspan).2

lemma isCutFrom_of_mem_dimensions (h : AreIn cs start ls) :
    ∀ token ∈ dimensions cs ls, token.IsCutFrom cs := by
  induction ls generalizing start with
  | nil => exact fun _ => nofun
  | cons l ls ih =>
    rw [dimensions]
    split
    · next reference _ =>
      split
      · exact List.forall_mem_cons.mpr ⟨isCutFrom_ofDimension reference h, ih h.tail⟩
      · exact ih h.tail
    · exact ih h.tail

/-! ## Calls -/

/-- What a walk over a call from a place on finds can be cut out of the text. -/
structure CallShape.IsCutFrom (cs : List Char) (isFirst : Bool) (start : Nat) (shape : CallShape) : Prop where
  arguments : AreArguments cs isFirst shape.arguments
  stop : Span.IsIn cs ⟨start, shape.stop⟩

lemma isCutFrom_last {isFirst closed : Bool} {place stop : Nat} (hplace : Span.IsIn cs ⟨start, place⟩)
    (hstop : Span.IsIn cs ⟨start, stop⟩) :
    CallShape.IsCutFrom cs isFirst start ⟨lastArgument cs isFirst ⟨start, place⟩, stop, closed⟩ :=
  ⟨⟨[], ⟨start, place⟩, by simp, List.forall_mem_singleton.mpr hplace⟩, hstop⟩

/-- Wherever the walk over a call is, what it finds from there on can be cut out of the text. -/
theorem isCutFrom_shapeFrom {isFirst : Bool} {depth : Nat} (hdepth : 1 ≤ depth) (h : AreIn cs start ls) :
    (shapeFrom cs isFirst depth start ls).IsCutFrom cs isFirst start := by
  induction ls generalizing isFirst depth start with
  | nil => exact isCutFrom_last h h
  | cons l ls ih =>
    rcases meets hdepth l ls with ⟨inner, hinner, hmeets⟩ | hmeets | hmeets
    · rw [hmeets]
      exact ih hinner h.tail
    · have hrest : (shapeFrom cs false 1 l.stop ls).IsCutFrom cs false l.stop := ih le_rfl h.2.2
      obtain ⟨⟨earlier, last, hmore, hin⟩, hstop⟩ := hrest
      rw [hmeets]
      refine ⟨⟨⟨start, l.start⟩ :: earlier, last, ?_, ?_⟩, h.toStop.trans hstop⟩
      · rw [hmore, List.isEmpty_cons, Bool.and_false, Bool.false_and, List.cons_append]
      · exact List.forall_mem_cons.mpr ⟨h.1, hin⟩
    · rw [hmeets]
      exact isCutFrom_last h.1 h.toStop

lemma AreArguments.isIn {isFirst : Bool} {arguments : List Span} (h : AreArguments cs isFirst arguments) :
    ∀ span ∈ arguments, span.IsIn cs := by
  obtain ⟨earlier, last, rfl, hin⟩ := h
  intro span hspan
  rcases List.mem_append.mp hspan with hearlier | hlast
  · exact hin span (List.mem_append_left _ hearlier)
  · rw [lastArgument] at hlast
    split at hlast
    · cases hlast
    · exact hin span (List.mem_append_right _ hlast)

/-- White space at the ends of a span can be cut off. -/
lemma isIn_trimSpan {span : Span} (h : span.IsIn cs) : (trimSpan cs span).IsIn cs := by
  obtain ⟨before, after, hcs, hstart⟩ := h.exists_slice
  rw [trimSpan]
  generalize Text.slice cs span = inner at hcs ⊢
  obtain ⟨blanks, hblanks⟩ : Text.trimStart inner <:+ inner := List.dropWhile_suffix _
  obtain ⟨blanks', hblanks'⟩ : Text.trimEnd (Text.trimStart inner) <+: Text.trimStart inner :=
    List.rdropWhile_prefix _ _
  have hspan : Span.IsIn ((before ++ blanks) ++ (Text.trimEnd (Text.trimStart inner) ++ (blanks' ++ after)))
      ⟨Text.byteLength (before ++ blanks), _⟩ := Span.isIn_append ..
  have hlength : Text.byteLength inner = Text.byteLength blanks + Text.byteLength (Text.trimStart inner) := by
    rw [← Text.byteLength_append, hblanks]
  have hplace : Text.byteLength (before ++ blanks) =
      span.start + (Text.byteLength inner - Text.byteLength (Text.trimStart inner)) := by
    rw [Text.byteLength_append, hstart, hlength, Nat.add_sub_cancel]
  have htext : (before ++ blanks) ++ (Text.trimEnd (Text.trimStart inner) ++ (blanks' ++ after)) = cs := by
    rw [← List.append_assoc (Text.trimEnd _), hblanks', List.append_assoc, ← List.append_assoc blanks,
      hblanks, hcs]
  rwa [htext, hplace] at hspan

lemma isCutFrom_ofCall {item? : String → Option FunctionItem} {dimensions : List DimensionToken}
    (hdimensions : ∀ token ∈ dimensions, token.IsCutFrom cs) {name paren : Lexeme} {inner : List Lexeme}
    (h : AreIn cs start (name :: paren :: inner)) :
    ∀ token ∈ ofCall item? cs dimensions name paren inner, token.IsCutFrom cs := by
  obtain ⟨-, hname, hparen⟩ := h
  have hshape : (shapeFrom cs true 1 paren.stop inner).IsCutFrom cs true paren.stop :=
    isCutFrom_shapeFrom le_rfl hparen.2.2
  have hspan : Span.IsIn cs ⟨name.start, (shapeFrom cs true 1 paren.stop inner).stop⟩ :=
    (hname.span.trans hparen.toStop).trans hshape.stop
  intro token htoken
  rcases List.mem_cons.mp htoken with rfl | hargument
  · refine ⟨hspan, hspan, rfl, fun payload hpayload => ?_⟩
    cases hpayload
    exact ⟨hshape.arguments, fun token htoken => hdimensions token (List.mem_of_mem_filter htoken)⟩
  · obtain ⟨position, hposition, rfl⟩ := List.mem_mapIdx.mp hargument
    have hin := hshape.arguments.isIn _ (List.getElem_mem hposition)
    exact isCutFrom_of_span (isIn_trimSpan hin) hin rfl rfl

lemma isCutFrom_of_mem_calls {item? : String → Option FunctionItem} {dimensions : List DimensionToken}
    (hdimensions : ∀ token ∈ dimensions, token.IsCutFrom cs) (h : AreIn cs start ls) :
    ∀ token ∈ calls item? cs dimensions ls, token.IsCutFrom cs := by
  induction ls generalizing start with
  | nil => exact fun _ => nofun
  | cons name ls ih =>
    rw [calls]
    split
    · next paren inner hopening =>
      obtain ⟨rfl, -, -⟩ := opening?_eq_some hopening
      exact List.forall_mem_append.mpr ⟨isCutFrom_ofCall hdimensions h, ih h.tail⟩
    · exact ih h.tail

lemma isCutFrom_toToken {dimension : DimensionToken} (h : dimension.IsCutFrom cs) :
    dimension.toToken.IsCutFrom cs := by
  refine ⟨h.span, h.interaction, h.text, fun payload hpayload => ?_⟩
  cases hpayload
  exact h.filter

theorem isCutFrom_of_mem_scanWith (item? : String → Option FunctionItem) (cs : List Char) :
    ∀ token ∈ scanWith item? cs, token.IsCutFrom cs := by
  have hlexeme (p : Lexeme → Bool) : ∀ l ∈ (Lexeme.scan cs).filter p, l.IsIn cs := fun _ hl =>
    Lexeme.isIn_of_mem_scan (List.mem_of_mem_filter hl)
  have hdimensions := isCutFrom_of_mem_dimensions (Lexeme.areIn_scan cs)
  have hmeasures : ∀ token ∈ measures (Lexeme.scan cs), token.IsCutFrom cs :=
    List.forall_mem_map.mpr fun l hl => isCutFrom_of_lexeme (hlexeme _ l hl) _ _
  have hnumbers : ∀ token ∈ numbers (Lexeme.scan cs), token.IsCutFrom cs :=
    List.forall_mem_map.mpr fun l hl => isCutFrom_of_lexeme (hlexeme _ l hl) _ _
  have hbrackets : ∀ token ∈ brackets cs, token.IsCutFrom cs := by
    rw [brackets, FieldReference.spans_eq, List.map_map]
    refine List.forall_mem_map.mpr fun l hl => ?_
    have hin := (hlexeme _ l hl).span
    exact isCutFrom_of_span hin hin rfl rfl
  intro token htoken
  have hmem := (List.mergeSort_perm _ precedes).mem_iff.mp htoken
  simp only [List.mem_append] at hmem
  rcases hmem with (((hcall | hdimension) | hmeasure) | hnumber) | hbracket
  · exact isCutFrom_of_mem_calls hdimensions (Lexeme.areIn_scan cs) token hcall
  · obtain ⟨dimension, hmem, rfl⟩ := List.mem_map.mp hdimension
    exact isCutFrom_toToken (hdimensions dimension hmem)
  · exact hmeasures token hmeasure
  · exact hnumbers token hnumber
  · exact hbrackets token hbracket

end Token

/-- What is left of a text behind a formula can be cut off. -/
lemma Expr.isIn_of_ofLexemes {cs : List Char} {size limit : Nat} {e : Expr} {l : Lexeme} {rest : List Lexeme}
    (h : ofLexemes size limit (Lexeme.scan cs) = .ok (e, l :: rest)) :
    Span.IsIn cs ⟨l.start, Text.byteLength cs⟩ := by
  obtain ⟨used, hused, -⟩ := parses_disjunction (parsesWithin_nestedWithin _ _ _) _ _ _ h
  have hin := Lexeme.areIn_scan cs
  rw [hused] at hin
  obtain ⟨hl, hrest⟩ := hin.after
  exact hl.span.trans hrest.toEnd

/-- Every text is made up of its lexemes, and nothing is cut out of it by them where it cannot be cut. -/
theorem Lexeme.scan_tiles (cs : List Char) :
    Cursor.Reads ⟨0, cs⟩ (scan cs) ∧
      (∀ cursor, Relation.ReflTransGen Cursor.MovesTo ⟨0, cs⟩ cursor → cursor.IsIn cs) ∧
      AreTiles cs (scan cs) ∧
      (∀ l ∈ scan cs, scan l.chars = [⟨l.kind, 0, l.chars⟩]) ∧
      (∀ l ∈ scan cs, l.kind = .field → FieldReference.fieldEnd? cs l.start = some l.stop) ∧
      (∀ start stop, FieldReference.fieldEnd? cs start = some stop → Span.IsIn cs ⟨start, stop⟩) ∧
      (∀ limit e l rest, Expr.ofLexemes (Text.byteLength cs) limit (scan cs) = .ok (e, l :: rest) →
        Span.IsIn cs ⟨l.start, Text.byteLength cs⟩) ∧
      ∀ item?, ∀ token ∈ Token.scanWith item? cs, token.IsCutFrom cs := by
  exact ⟨Cursor.reads_of_scans (scans_scan cs), fun _ => Cursor.isIn_of_reachable, areTiles_scan cs,
    fun _ => scan_chars, fun _ => fieldEnd?_of_mem_scan, fun _ _ => FieldReference.isIn_of_fieldEnd?,
    fun _ _ _ _ => Expr.isIn_of_ofLexemes, fun item? => Token.isCutFrom_of_mem_scanWith item? cs⟩

end OlapFormula
