import Mathlib.Logic.Relation
import OlapFormula.Proofs.Lexeme.Fields
import OlapFormula.Proofs.Lexeme.Cutting

/-!
# Lexemes cover a text

The lexemes are found by a cursor that takes one after the other off the text, and with each of them moves
on. So they stand side by side with nothing but white space between them, begin and end between characters,
and are read alone as they are read in the text.
-/

namespace OlapFormula

namespace Text

/-- The place is one between two characters, or an end of the text. -/
def IsBoundary (cs : List Char) (place : Nat) : Prop :=
  ∃ before after, cs = before ++ after ∧ byteLength before = place

variable {cs : List Char} {place : Nat}

lemma isBoundary_zero (cs : List Char) : IsBoundary cs 0 := ⟨[], cs, rfl, rfl⟩

lemma isBoundary_byteLength (cs : List Char) : IsBoundary cs (byteLength cs) :=
  ⟨cs, [], (List.append_nil cs).symm, rfl⟩

lemma splitAt?_eq_some {before after : List Char} (h : splitAt? place cs = some (before, after)) :
    cs = before ++ after ∧ byteLength before = place := by
  fun_induction splitAt? place cs generalizing before with
  | case1 cs =>
    cases h
    exact ⟨rfl, rfl⟩
  | case2 => cases h
  | case3 n c cs hsize ih =>
    obtain ⟨⟨inner, rest⟩, hinner, hpair⟩ := Option.map_eq_some_iff.mp h
    cases hpair
    obtain ⟨rfl, hlength⟩ := ih hinner
    exact ⟨rfl, by rw [byteLength, hlength]; omega⟩
  | case4 => cases h

end Text

/-- The span can be cut out of the text. -/
structure Span.IsIn (cs : List Char) (span : Span) : Prop where
  le : span.start ≤ span.stop
  start : Text.IsBoundary cs span.start
  stop : Text.IsBoundary cs span.stop

namespace Span

variable {cs : List Char} {span : Span}

/-- What stands in a span that can be cut out stands between what is before it and what is after it. -/
lemma IsIn.exists_slice (h : span.IsIn cs) :
    ∃ before after, cs = before ++ (Text.slice cs span ++ after) ∧
      span.start = Text.byteLength before := by
  obtain ⟨start, stop⟩ := span
  obtain ⟨hle, ⟨before, rest, rfl, rfl⟩, upTo, after, hcs, rfl⟩ := h
  obtain ⟨inner, rfl, rfl⟩ : ∃ inner, upTo = before ++ inner ∧ rest = inner ++ after := by
    rcases List.append_eq_append_iff.mp hcs with h | ⟨inner, rfl, rfl⟩
    · exact h
    · -- the end is not before the start, so that nothing is between them
      have hlength : Text.byteLength (upTo ++ inner) ≤ Text.byteLength upTo := hle
      rw [Text.byteLength_append] at hlength
      obtain rfl : inner = [] := Text.eq_nil_of_byteLength (by omega)
      exact ⟨[], by simp, rfl⟩
  have hslice := Text.slice_append before inner after
  rw [← Text.byteLength_append] at hslice
  rw [hslice]
  exact ⟨before, after, rfl, rfl⟩

lemma IsIn.trans {start place stop : Nat} (h : IsIn cs ⟨start, place⟩) (hstop : IsIn cs ⟨place, stop⟩) :
    IsIn cs ⟨start, stop⟩ :=
  ⟨h.le.trans hstop.le, h.start, hstop.stop⟩

lemma isIn_append (before inner after : List Char) :
    Span.IsIn (before ++ (inner ++ after))
      ⟨Text.byteLength before, Text.byteLength before + Text.byteLength inner⟩ where
  le := Nat.le_add_right ..
  start := ⟨before, inner ++ after, rfl, rfl⟩
  stop := ⟨before ++ inner, after, by simp, Text.byteLength_append before inner⟩

end Span

/-! ## The cursor -/

/-- A place in a text, and what comes after it. -/
structure Cursor where
  place : Nat
  rest : List Char

namespace Cursor

open Lexeme (classify Scans)

/-- The cursor past the white space that comes next. -/
def afterBlanks (cursor : Cursor) : Cursor :=
  ⟨cursor.place + Text.byteLength (cursor.rest.takeWhile Text.isBlank), Text.trimStart cursor.rest⟩

/-- The next lexeme and the cursor past it; none if nothing but white space is left. -/
def next? (cursor : Cursor) : Option (Lexeme × Cursor) :=
  match cursor.afterBlanks with
  | ⟨_, []⟩ => none
  | ⟨place, c :: cs⟩ =>
    let (kind, length) := classify c cs
    let lexeme : Lexeme := ⟨kind, place, (c :: cs).take length⟩
    some (lexeme, ⟨lexeme.stop, (c :: cs).drop length⟩)

/-- The cursor comes to the end of the text after these lexemes. -/
inductive Reads : Cursor → List Lexeme → Prop
  | stop {cursor : Cursor} : cursor.next? = none → Reads cursor []
  | move {cursor after : Cursor} {lexeme : Lexeme} {ls : List Lexeme} :
    cursor.next? = some (lexeme, after) → Reads after ls → Reads cursor (lexeme :: ls)

/-- The cursor takes a lexeme and is past it then. -/
def MovesTo (cursor after : Cursor) : Prop := ∃ lexeme, cursor.next? = some (lexeme, after)

/-- The cursor stands at its place in the text. -/
def IsIn (cs : List Char) (cursor : Cursor) : Prop :=
  ∃ before, cs = before ++ cursor.rest ∧ Text.byteLength before = cursor.place

variable {cursor after : Cursor} {lexeme : Lexeme} {ls : List Lexeme}

lemma afterBlanks_blank {start : Nat} {c : Char} {cs : List Char} (hc : Text.isBlank c = true) :
    afterBlanks ⟨start, c :: cs⟩ = afterBlanks ⟨start + c.utf8Size, cs⟩ := by
  rw [afterBlanks, afterBlanks, Text.trimStart, Text.trimStart, List.takeWhile_cons_of_pos hc,
    List.dropWhile_cons_of_pos hc, Text.byteLength, Nat.add_assoc]

lemma afterBlanks_lexeme {start : Nat} {c : Char} {cs : List Char} (hc : Text.isBlank c = false) :
    afterBlanks ⟨start, c :: cs⟩ = ⟨start, c :: cs⟩ := by
  have hneg : ¬ Text.isBlank c = true := by simp [hc]
  rw [afterBlanks, Text.trimStart, List.takeWhile_cons_of_neg hneg, List.dropWhile_cons_of_neg hneg]
  rfl

/-- What a lexeme is taken off, where there is one. -/
lemma next?_eq_some (h : cursor.next? = some (lexeme, after)) :
    ∃ blanks c body, cursor.rest = blanks ++ (c :: body ++ after.rest) ∧
      lexeme.start = cursor.place + Text.byteLength blanks ∧ lexeme.chars = c :: body ∧
      after.place = lexeme.stop := by
  have hrest : cursor.rest = cursor.rest.takeWhile Text.isBlank ++ cursor.afterBlanks.rest :=
    List.takeWhile_append_dropWhile.symm
  have hplace : cursor.afterBlanks.place =
      cursor.place + Text.byteLength (cursor.rest.takeWhile Text.isBlank) := rfl
  unfold next? at h
  split at h
  · cases h
  · next place c cs heq =>
    rw [heq] at hrest hplace
    obtain ⟨body, rest, rfl, hlength⟩ := Lexeme.exists_classify c cs
    generalize classify c (body ++ rest) = found at h hlength
    obtain ⟨kind, length⟩ := found
    obtain rfl : length = 1 + body.length := hlength
    dsimp only at h
    rw [Lexeme.take_lexeme, Nat.add_comm 1, List.drop_succ_cons, List.drop_left] at h
    obtain ⟨rfl, rfl⟩ := Prod.mk.inj (Option.some.inj h)
    exact ⟨_, c, body, hrest, hplace, rfl, rfl⟩

lemma MovesTo.isIn {cs : List Char} (h : MovesTo cursor after) (hin : cursor.IsIn cs) : after.IsIn cs := by
  obtain ⟨lexeme, hnext⟩ := h
  obtain ⟨before, rfl, hbefore⟩ := hin
  obtain ⟨blanks, c, body, hrest, hstart, hchars, hplace⟩ := next?_eq_some hnext
  refine ⟨before ++ (blanks ++ c :: body), by rw [hrest]; simp, ?_⟩
  rw [hplace, Lexeme.stop, hstart, hchars, Text.byteLength_append, Text.byteLength_append, hbefore,
    Nat.add_assoc]

/-- Wherever the cursor comes to, it stands at its place in the text. -/
lemma isIn_of_reachable {cs : List Char} (h : Relation.ReflTransGen MovesTo ⟨0, cs⟩ cursor) :
    cursor.IsIn cs := by
  induction h with
  | refl => exact ⟨[], rfl, rfl⟩
  | tail _ hmove ih => exact hmove.isIn ih

theorem reads_of_scans {start : Nat} {cs : List Char} (h : Scans start cs ls) : Reads ⟨start, cs⟩ ls := by
  induction h with
  | nil start => exact .stop rfl
  | @blank start c cs ls hc _ ih =>
    have hnext : next? ⟨start, c :: cs⟩ = next? ⟨start + c.utf8Size, cs⟩ := by
      rw [next?, afterBlanks_blank hc]
      rfl
    cases ih with
    | stop hstop => exact .stop (hnext.trans hstop)
    | move hmove hrest => exact .move (hnext.trans hmove) hrest
  | @lexeme start kind c body rest ls hc hclassify _ ih =>
    refine .move ?_ ih
    rw [List.cons_append, next?, afterBlanks_lexeme hc]
    dsimp only
    rw [hclassify]
    dsimp only
    rw [Lexeme.take_lexeme, Nat.add_comm 1, List.drop_succ_cons, List.drop_left]
    rfl

end Cursor

/-! ## Tiles -/

namespace Lexeme

/-- The lexeme can be cut out of the text at its place. -/
structure IsIn (cs : List Char) (l : Lexeme) : Prop where
  span : l.span.IsIn cs
  slice : Text.slice cs l.span = l.chars

/-- The lexemes stand in the text one after the other, and what they leave out of it is white space. -/
structure AreTiles (cs : List Char) (ls : List Lexeme) : Prop where
  isIn : ∀ l ∈ ls, l.IsIn cs
  start_lt_stop : ∀ l ∈ ls, l.start < l.stop
  pairwise : ls.Pairwise fun a b => a.start < b.start ∧ a.stop ≤ b.start
  isBlank : ∀ before c after, cs = before ++ c :: after →
    (∀ l ∈ ls, ¬ (l.start ≤ Text.byteLength before ∧ Text.byteLength before < l.stop)) →
    Text.isBlank c = true
  unterminated : ∀ l ∈ ls, l.kind = .unterminated →
    ls.getLast? = some l ∧ l.stop = Text.byteLength cs

variable {start stop : Nat} {cs : List Char} {ls : List Lexeme} {l : Lexeme}

lemma AreBetween.pairwise (h : AreBetween start stop ls) :
    ls.Pairwise fun a b => a.start < b.start ∧ a.stop ≤ b.start := by
  induction ls generalizing start with
  | nil => exact .nil
  | cons l ls ih =>
    obtain ⟨-, hsize, hrest⟩ := h
    refine .cons (fun m hm => ?_) (ih hrest)
    have hle := hrest.start_le hm
    exact ⟨hsize.trans_le hle, hle⟩

/-- Only white space is left out by the lexemes of a text. -/
lemma Scans.isBlank_of_left_out (h : Scans start cs ls) {before after : List Char} {c : Char}
    (hcs : cs = before ++ c :: after)
    (hout : ∀ l ∈ ls, ¬ (l.start ≤ start + Text.byteLength before ∧
      start + Text.byteLength before < l.stop)) : Text.isBlank c = true := by
  induction h generalizing before with
  | nil start => simp at hcs
  | @blank start d cs ls hd _ ih =>
    cases before with
    | nil =>
      obtain ⟨rfl, -⟩ := List.cons.inj hcs
      exact hd
    | cons b before =>
      obtain ⟨rfl, rfl⟩ := List.cons.inj hcs
      refine ih rfl fun l hl => ?_
      rw [Nat.add_assoc]
      exact hout l hl
  | @lexeme start kind d body rest ls _ _ _ ih =>
    obtain ⟨hhead, hlater⟩ := List.forall_mem_cons.mp hout
    have hbehind (passed : List Char) (hbefore : before = d :: body ++ passed)
        (hrest : rest = passed ++ c :: after) : Text.isBlank c = true := by
      refine ih hrest fun l hl => ?_
      rw [Nat.add_assoc, ← Text.byteLength_append, ← hbefore]
      exact hlater l hl
    rcases List.append_eq_append_iff.mp hcs with ⟨passed, hbefore, hrest⟩ | ⟨inside, hbody, hrest⟩
    · exact hbehind passed hbefore hrest
    · cases inside with
      | nil => exact hbehind [] (by simpa using hbody.symm) hrest.symm
      | cons e inside =>
        have hlt := place_lt_stop (l := ⟨kind, start, d :: body⟩) hbody
        exact absurd ⟨Nat.le_add_right .., hlt⟩ hhead

/-- A field is what is split off a text as one, and only at the end of a text a lexeme is not closed. -/
lemma classify_cases {kind : LexemeKind} {c : Char} {body rest : List Char}
    (h : classify c (body ++ rest) = (kind, 1 + body.length)) :
    (kind = .field ∧ FieldReference.splitField (c :: body ++ rest) = some (c :: body, rest)) ∨
      (kind = .unterminated ∧ rest = []) ∨ kind ≠ .field ∧ kind ≠ .unterminated := by
  by_cases hquote : c = '"'
  · subst hquote
    rcases classify_quote h with ⟨rfl, -⟩ | ⟨hkind, -, hrest⟩
    · exact .inr (.inr ⟨by decide, by decide⟩)
    · exact .inr (.inl ⟨hkind, hrest⟩)
  by_cases hbracket : c = '['
  · subst hbracket
    rcases classify_bracket h with hfield | ⟨hkind, -, hrest⟩
    · exact .inl hfield
    · exact .inr (.inl ⟨hkind, hrest⟩)
  · obtain ⟨hfield, hclosed, -⟩ := kind_of_classify h hquote hbracket
    exact .inr (.inr ⟨hfield, hclosed⟩)

/-- What is not closed is read up to the end of the text. -/
lemma Scans.getLast?_of_unterminated (h : Scans start cs ls) (hl : l ∈ ls) (hkind : l.kind = .unterminated) :
    ls.getLast? = some l ∧ l.stop = start + Text.byteLength cs := by
  induction h with
  | nil start => cases hl
  | @blank start c cs ls _ _ ih =>
    obtain ⟨hlast, hstop⟩ := ih hl
    exact ⟨hlast, by rw [hstop, Text.byteLength, Nat.add_assoc]⟩
  | @lexeme start kind c body rest ls _ hclassify hrest ih =>
    rcases List.mem_cons.mp hl with rfl | hl
    · obtain rfl : kind = .unterminated := hkind
      obtain rfl : rest = [] := by
        rcases classify_cases hclassify with ⟨hfield, -⟩ | ⟨-, hnil⟩ | ⟨-, hclosed⟩
        · cases hfield
        · exact hnil
        · exact absurd rfl hclosed
      cases hrest
      rw [List.append_nil]
      exact ⟨rfl, rfl⟩
    · obtain ⟨hlast, hstop⟩ := ih hl
      rw [hstop, Text.byteLength_append, Nat.add_assoc, List.getLast?_cons, hlast]
      exact ⟨rfl, rfl⟩

lemma isIn_of_mem_scan (hl : l ∈ scan cs) : l.IsIn cs := by
  obtain ⟨before, after, hcs, hstart⟩ := (scans_scan cs).exists_of_mem hl
  have hspan : l.span = ⟨Text.byteLength before, Text.byteLength before + Text.byteLength l.chars⟩ := by
    rw [span, stop, hstart, Nat.zero_add]
  rw [List.append_assoc] at hcs
  subst hcs
  have hin := Span.isIn_append before l.chars after
  have hslice := Text.slice_append before l.chars after
  rw [← hspan] at hin hslice
  exact ⟨hin, hslice⟩

theorem areTiles_scan (cs : List Char) : AreTiles cs (scan cs) := by
  have hscans := scans_scan cs
  refine ⟨fun _ => isIn_of_mem_scan, fun l hl => ?_, hscans.areBetween.pairwise,
    fun before c after hcs hout => ?_, fun l hl hkind => ?_⟩
  · obtain ⟨_, c, body, _, -, -, hchars, -⟩ := hscans.exists_classified hl
    have hlt : l.start + Text.byteLength [] < l.stop := place_lt_stop hchars
    exact hlt
  · exact hscans.isBlank_of_left_out hcs (by simpa only [Nat.zero_add] using hout)
  · rw [← Nat.zero_add (Text.byteLength cs)]
    exact hscans.getLast?_of_unterminated hl hkind

/-- Places are counted in bytes, and a quote that is not closed runs to the end. -/
example : (scan "é1 \"ä ".toList).map (·.span) = [⟨0, 3⟩, ⟨4, 8⟩] := by decide +kernel

/-- The text of a lexeme is this one lexeme. -/
theorem scan_chars (hl : l ∈ scan cs) : scan l.chars = [⟨l.kind, 0, l.chars⟩] := by
  obtain ⟨_, c, body, rest, -, -, hchars, hblank, hclassify⟩ := (scans_scan cs).exists_classified hl
  have hbefore : classify c (body ++ ([] ++ rest)) = (l.kind, 1 + body.length) := hclassify
  have halone : classify c (body ++ []) = (l.kind, 1 + body.length) := classify_of_append hbefore
  have hscans : Scans 0 (c :: body ++ []) [⟨l.kind, 0, c :: body⟩] := .lexeme hblank halone (.nil _)
  rw [List.append_nil] at hscans
  rw [hchars]
  exact scans_iff.mp hscans

/-- A field ends where the search for its end finds it. -/
lemma fieldEnd?_of_mem_scan (hl : l ∈ scan cs) (hkind : l.kind = .field) :
    FieldReference.fieldEnd? cs l.start = some l.stop := by
  obtain ⟨before, c, body, rest, rfl, hstart, hchars, -, hclassify⟩ := (scans_scan cs).exists_classified hl
  rw [hkind] at hclassify
  have hsplit : FieldReference.splitField (c :: body ++ rest) = some (c :: body, rest) := by
    rcases classify_cases hclassify with ⟨-, hsplit⟩ | ⟨hopen, -⟩ | ⟨hother, -⟩
    · exact hsplit
    · cases hopen
    · exact absurd rfl hother
  rw [stop, hstart, Nat.zero_add, hchars, FieldReference.fieldEnd?, Text.splitAt?_append]
  simp only [Option.bind_eq_bind, Option.bind_some, hsplit, Option.pure_def]

end Lexeme

/-- The end of a field is a place in the text behind its start. -/
lemma FieldReference.isIn_of_fieldEnd? {cs : List Char} {start stop : Nat}
    (h : fieldEnd? cs start = some stop) : Span.IsIn cs ⟨start, stop⟩ := by
  simp only [fieldEnd?, Option.bind_eq_bind, Option.bind_eq_some_iff, Prod.exists] at h
  obtain ⟨before, rest, hcut, field, after, hsplit, hstop⟩ := h
  obtain ⟨rfl, rfl⟩ := Text.splitAt?_eq_some hcut
  obtain ⟨rfl, -⟩ := splitField_eq_some hsplit
  cases hstop
  exact Span.isIn_append before field after

end OlapFormula
