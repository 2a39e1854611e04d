import OlapFormula.Proofs.Lexeme.Places
import OlapFormula.Proofs.Lexeme.Spelling
import OlapFormula.Proofs.Presentation.Inverse

/-!
# Separators of formulas

In a text without open strings or brackets and without characters that begin no word, the scanner and
the converter agree on what is protected. So of the characters to which separators apply, points are
decimal points, and semicolons and backslashes do not occur.
-/

namespace OlapFormula

namespace Lexeme

lemma isNamePart_of_isNameStart {c : Char} (h : isNameStart c = true) : isNamePart c = true := by
  unfold isNameStart at h
  unfold isNamePart
  rw [Bool.or_eq_true] at h
  rcases h with h | h <;> simp [h]

lemma IsNumber.count_point {cs : List Char} (h : IsNumber cs) : cs.count '.' ≤ 1 := by
  obtain ⟨whole, fraction, exponent, rfl, hwhole, hfraction, hexponent⟩ := h
  have hdigits {ds : List Char} (hds : ∀ c ∈ ds, c.isDigit = true) : ds.count '.' = 0 :=
    List.count_eq_zero.mpr fun hmem => absurd (hds _ hmem) (by decide)
  have hmark : exponent.count '.' = 0 :=
    List.count_eq_zero.mpr fun hmem => absurd (hexponent _ hmem) (by unfold IsExponentChar; decide)
  rw [List.count_append, List.count_append, hdigits hwhole, hmark]
  rcases hfraction with rfl | ⟨digits, rfl, hds⟩
  · simp
  · rw [List.count_cons, hdigits hds]
    simp

/-- Numbers consist of digits, points, signs and the marks of exponents. -/
lemma IsNumber.not_mem {cs : List Char} (h : IsNumber cs) {c : Char}
    (hc : c.isDigit = false ∧ c ∉ ['.', 'e', 'E', '+', '-']) : c ∉ cs := by
  obtain ⟨whole, fraction, exponent, rfl, hwhole, hfraction, hexponent⟩ := h
  have hdigits {ds : List Char} (hds : ∀ d ∈ ds, d.isDigit = true) : c ∉ ds := fun hmem => by
    rw [hds c hmem] at hc
    cases hc.1
  have hmark : c ∉ exponent := fun hmem => by
    rcases hexponent c hmem with hdigit | hmark
    · rw [hdigit] at hc
      cases hc.1
    · exact hc.2 (List.mem_cons_of_mem _ hmark)
  have hpoint : c ∉ fraction := by
    rcases hfraction with rfl | ⟨digits, rfl, hds⟩
    · exact List.not_mem_nil
    · rw [List.mem_cons, not_or]
      exact ⟨fun h => hc.2 (h ▸ List.mem_cons_self ..), hdigits hds⟩
  simp only [List.mem_append, not_or]
  exact ⟨⟨hdigits hwhole, hpoint⟩, hmark⟩

/-- Separators apply to every character of the lexeme, and a point is one of a number. -/
structure IsOpen (lexeme : Lexeme) : Prop where
  not_mem : ∀ c ∈ ['"', '[', '\\', ';'], c ∉ lexeme.chars
  point : '.' ∈ lexeme.chars → lexeme.kind = .number ∧ IsNumber lexeme.chars

lemma isOpen_of_symbols {kind : LexemeKind} {start : Nat} {cs : List Char}
    (h : ['"', '[', '\\', ';', '.'].all (fun c => !cs.contains c) = true) : IsOpen ⟨kind, start, cs⟩ := by
  simp only [List.all_cons, List.all_nil, Bool.and_true, Bool.and_eq_true, Bool.not_eq_true',
    List.contains_eq_mem, decide_eq_false_iff_not] at h
  exact ⟨by simp [h], fun hpoint => absurd hpoint h.2.2.2.2⟩

lemma isOpen_of_name {kind : LexemeKind} {start : Nat} {cs : List Char}
    (h : ∀ c ∈ cs, isNamePart c = true) : IsOpen ⟨kind, start, cs⟩ := by
  have hpart : ['"', '[', '\\', ';', '.'].all (fun c => !isNamePart c) = true := by decide +kernel
  have hnot : ∀ c ∈ ['"', '[', '\\', ';', '.'], c ∉ cs := fun c hc hmem => by
    have hfalse := List.all_eq_true.mp hpart c hc
    rw [h c hmem] at hfalse
    cases hfalse
  exact ⟨fun c hc => hnot c (List.mem_append_left ['.'] hc), fun hpoint => absurd hpoint (hnot '.' (by simp))⟩

lemma isOpen_of_number {start : Nat} {cs : List Char} (h : IsNumber cs) : IsOpen ⟨.number, start, cs⟩ := by
  have hother : ['"', '[', '\\', ';'].all (fun c =>
      !c.isDigit && !(['.', 'e', 'E', '+', '-'].contains c)) = true := by
    decide
  refine ⟨fun c hc => h.not_mem ?_, fun _ => ⟨rfl, h⟩⟩
  have hother := List.all_eq_true.mp hother c hc
  rwa [Bool.and_eq_true, Bool.not_eq_true', Bool.not_eq_true', List.contains_eq_mem,
    decide_eq_false_iff_not] at hother

lemma isNumber_of_numberLength {c : Char} {body rest : List Char}
    (h : numberLength (c :: (body ++ rest)) = 1 + body.length) : IsNumber (c :: body) := by
  obtain ⟨number, after, hcs, hlength, hnumber⟩ := exists_number (c :: (body ++ rest))
  rw [h, Nat.add_comm] at hlength
  rwa [(List.append_inj (show c :: body ++ rest = number ++ after from hcs) hlength).1]

lemma forall_of_length_takeWhile {p : Char → Bool} {body rest : List Char}
    (h : ((body ++ rest).takeWhile p).length = body.length) : ∀ c ∈ body, p c = true := by
  have hsplit := List.takeWhile_append_dropWhile (p := p) (l := body ++ rest)
  rw [← (List.append_inj hsplit h).1]
  exact fun c hc => List.mem_takeWhile_imp hc

/-- A regular lexeme is protected as a whole or open as a whole. -/
lemma protected_or_isOpen {kind : LexemeKind} {c : Char} {body rest : List Char}
    (h : classify c (body ++ rest) = (kind, 1 + body.length)) (start : Nat)
    (hregular : kind.IsRegular) :
    Presentation.protectedAfter c (body ++ rest) = some body.length ∨ IsOpen ⟨kind, start, c :: body⟩ := by
  have hone {d : Char} (hbody : 1 = 1 + body.length)
      (hd : ['"', '[', '\\', ';', '.'].all (fun e => !([d].contains e)) = true) :
      IsOpen ⟨kind, start, d :: body⟩ := by
    obtain rfl : body = [] := List.eq_nil_of_length_eq_zero (by omega)
    exact isOpen_of_symbols hd
  have htwo {d e : Char} {cs : List Char} (hcs : body ++ rest = e :: cs) (hbody : 2 = 1 + body.length)
      (hde : ['"', '[', '\\', ';', '.'].all (fun x => !([d, e].contains x)) = true) :
      IsOpen ⟨kind, start, d :: body⟩ := by
    obtain ⟨x, rfl⟩ := List.length_eq_one_iff.mp (show body.length = 1 by omega)
    obtain ⟨rfl, rfl⟩ := List.cons.inj hcs
    exact isOpen_of_symbols hde
  have hwhole := h
  unfold classify at h
  split at h
  any_goals first
    | exact Or.inr (hone (Prod.mk.inj h).2 (by decide))
    | exact Or.inr (htwo (by assumption) (Prod.mk.inj h).2 (by decide))
  · left
    rcases classify_quote hwhole with ⟨-, hsplit⟩ | ⟨rfl, -⟩
    · simp only [Presentation.protectedAfter, if_true, hsplit]
    · exact absurd rfl hregular.1
  · left
    rcases classify_bracket hwhole with ⟨-, hsplit⟩ | ⟨rfl, -⟩
    · rw [List.cons_append] at hsplit
      unfold Presentation.protectedAfter
      rw [if_neg (by decide), if_pos rfl, hsplit]
      rfl
    · exact absurd rfl hregular.1
  · right
    split_ifs at h with hnumber hname
    · obtain ⟨rfl, hlength⟩ := Prod.mk.inj h
      exact isOpen_of_number (isNumber_of_numberLength hlength)
    · obtain ⟨rfl, hlength⟩ := Prod.mk.inj h
      refine isOpen_of_name (List.forall_mem_cons.mpr ⟨isNamePart_of_isNameStart hname, ?_⟩)
      exact forall_of_length_takeWhile (Nat.add_left_cancel hlength)
    · exact absurd (Prod.mk.inj h).1.symm hregular.2

/-- Separators apply to numbers. -/
lemma isOpen_of_kind {c : Char} {body rest : List Char} (start : Nat)
    (h : classify c (body ++ rest) = (.number, 1 + body.length)) : IsOpen ⟨.number, start, c :: body⟩ := by
  rcases protected_or_isOpen h start (by decide) with hprotected | hopen
  · exfalso
    have hne : ¬(c ≠ '"' ∧ c ≠ '[' ∧ c ≠ '\\') := fun hne => by
      rw [Presentation.protectedAfter_eq_none_iff.mpr hne] at hprotected
      cases hprotected
    simp only [not_and_or, not_not] at hne
    rcases hne with rfl | rfl | rfl
    · rcases classify_quote h with ⟨hkind, -⟩ | ⟨hkind, -⟩ <;> cases hkind
    · rcases classify_bracket h with ⟨hkind, -⟩ | ⟨hkind, -⟩ <;> cases hkind
    · exact absurd (Prod.mk.inj h).1 (by decide)
  · exact hopen

lemma Scans.isOpen_of_kind {start : Nat} {cs : List Char} {ls : List Lexeme} (h : Scans start cs ls)
    {number : Lexeme} (hmem : number ∈ ls) (hkind : number.kind = .number) : IsOpen number := by
  induction h with
  | nil => cases hmem
  | blank _ _ ih => exact ih hmem
  | @lexeme start kind c body rest ls _ hclassify _ ih =>
    rcases List.mem_cons.mp hmem with rfl | hmem
    · obtain rfl : kind = .number := hkind
      exact Lexeme.isOpen_of_kind start hclassify
    · exact ih hmem

end Lexeme

namespace Presentation

open Lexeme (IsOpen Scans)

lemma exposureFrom_append_protected {c : Char} {body rest : List Char}
    (h : protectedAfter c (body ++ rest) = some body.length) :
    exposureFrom 0 (c :: body ++ rest) =
      (c :: body).map (fun d => (d, false)) ++ exposureFrom 0 rest := by
  have hskip (xs : List Char) :
      exposureFrom xs.length (xs ++ rest) = xs.map (fun d => (d, false)) ++ exposureFrom 0 rest := by
    induction xs with
    | nil => rfl
    | cons x xs ih => rw [List.length_cons, List.cons_append, exposureFrom, ih, List.map_cons,
        List.cons_append]
  rw [List.cons_append, exposureFrom]
  simp only [h, hskip, List.map_cons, List.cons_append]

lemma exposureFrom_append_exposed {xs rest : List Char} (h : ∀ c ∈ ['"', '[', '\\'], c ∉ xs) :
    exposureFrom 0 (xs ++ rest) = xs.map (fun d => (d, true)) ++ exposureFrom 0 rest := by
  induction xs with
  | nil => rfl
  | cons x xs ih =>
    have hnone : protectedAfter x (xs ++ rest) = none := by
      apply protectedAfter_eq_none_iff.mpr
      refine ⟨?_, ?_, ?_⟩ <;> rintro rfl
      · exact h '"' (by simp) (List.mem_cons_self ..)
      · exact h '[' (by simp) (List.mem_cons_self ..)
      · exact h '\\' (by simp) (List.mem_cons_self ..)
    rw [List.cons_append, exposureFrom]
    simp only [hnone, List.map_cons, List.cons_append]
    rw [ih fun c hc hmem => h c hc (List.mem_cons_of_mem _ hmem)]

/-- Where a character stands that separators apply to: it is white space or part of a lexeme. -/
def StandsAt (ls : List Lexeme) (c : Char) (place : Nat) : Prop :=
  Text.isBlank c = true ∨ ∃ lexeme ∈ ls, IsOpen lexeme ∧ ∃ before after,
    lexeme.chars = before ++ c :: after ∧ place = lexeme.start + Text.byteLength before

lemma StandsAt.cons {ls : List Lexeme} {c : Char} {place : Nat} (h : StandsAt ls c place)
    (lexeme : Lexeme) : StandsAt (lexeme :: ls) c place :=
  h.imp_right fun ⟨other, hmem, h⟩ => ⟨other, List.mem_cons_of_mem _ hmem, h⟩

lemma append_eq_append_cons {α : Type} {xs ys before after : List α} {x : α}
    (h : xs ++ ys = before ++ x :: after) :
    (∃ between, xs = before ++ x :: between) ∨ ∃ between, before = xs ++ between ∧
      ys = between ++ x :: after := by
  rcases List.append_eq_append_iff.mp h with ⟨between, rfl, hys⟩ | ⟨between, rfl, hafter⟩
  · exact Or.inr ⟨between, rfl, hys⟩
  · cases between with
    | nil => exact Or.inr ⟨[], by simp, by simpa using hafter.symm⟩
    | cons y between =>
      obtain ⟨rfl, -⟩ := List.cons.inj hafter
      exact Or.inl ⟨between, rfl⟩

lemma map_fst_map (exposed : Bool) (cs : List Char) :
    (cs.map fun c => (c, exposed)).map (·.1) = cs := by
  rw [List.map_map]
  exact List.map_id cs

lemma ne_special_of_isBlank {c : Char} (h : Text.isBlank c = true) : ∀ d ∈ ['"', '[', '\\'], d ∉ [c] := by
  have hspecial : ['"', '[', '\\'].all (fun d => !Text.isBlank d) = true := by decide
  intro d hd hmem
  have hnot := List.all_eq_true.mp hspecial d hd
  rw [List.mem_singleton.mp hmem, h] at hnot
  cases hnot

/-- The scanner and the converter agree on where a lexeme ends, and separators apply to all of it or to
nothing in it. -/
lemma exposureFrom_lexeme {kind : LexemeKind} {c : Char} {body rest : List Char}
    (h : Lexeme.classify c (body ++ rest) = (kind, 1 + body.length)) (start : Nat)
    (hregular : kind.IsRegular) :
    ∃ exposed, exposureFrom 0 (c :: body ++ rest) =
        (c :: body).map (fun d => (d, exposed)) ++ exposureFrom 0 rest ∧
      (exposed = true ↔ IsOpen ⟨kind, start, c :: body⟩) := by
  have hspecial (hopen : IsOpen ⟨kind, start, c :: body⟩) : ∀ d ∈ ['"', '[', '\\'], d ∉ c :: body :=
    fun d hd => hopen.not_mem d (List.mem_append_left [';'] hd)
  rcases Lexeme.protected_or_isOpen h start hregular with hprotected | hopen
  · refine ⟨false, exposureFrom_append_protected hprotected, nofun, fun hopen => ?_⟩
    have hnone : protectedAfter c (body ++ rest) = none := by
      refine protectedAfter_eq_none_iff.mpr ⟨?_, ?_, ?_⟩ <;> rintro rfl <;>
        exact hspecial hopen _ (by simp) List.mem_cons_self
    rw [hnone] at hprotected
    cases hprotected
  · exact ⟨true, exposureFrom_append_exposed (hspecial hopen), fun _ => hopen, fun _ => rfl⟩

/-- The scanner and the converter agree on where literals and fields end. -/
theorem standsAt_of_exposure {start : Nat} {cs : List Char} {ls : List Lexeme} (h : Scans start cs ls)
    (hregular : ∀ lexeme ∈ ls, lexeme.kind.IsRegular) {before after : List (Char × Bool)} {c : Char}
    (hc : exposureFrom 0 cs = before ++ (c, true) :: after) :
    StandsAt ls c (start + Text.byteLength (before.map (·.1))) := by
  induction h generalizing before with
  | nil start => simp [exposureFrom] at hc
  | @blank start d cs ls hd _ ih =>
    rw [show d :: cs = [d] ++ cs from rfl, exposureFrom_append_exposed (ne_special_of_isBlank hd)] at hc
    rcases append_eq_append_cons hc with ⟨between, hfirst⟩ | ⟨between, rfl, hrest⟩
    · have hmem : (c, true) ∈ [d].map fun e => (e, true) := by rw [hfirst]; simp
      obtain rfl : c = d := by simpa using hmem
      exact Or.inl hd
    · have hlater := ih hregular hrest
      rwa [Nat.add_assoc] at hlater
  | @lexeme start kind d body rest ls hd hclassify _ ih =>
    rw [List.forall_mem_cons] at hregular
    obtain ⟨exposed, hexposure, hopen⟩ := exposureFrom_lexeme hclassify start hregular.1
    rw [hexposure] at hc
    rcases append_eq_append_cons hc with ⟨between, hsplit⟩ | ⟨between, rfl, hrest⟩
    · obtain ⟨pre, post, hchars, rfl, hpost⟩ := List.map_eq_append_iff.mp hsplit
      obtain ⟨e, post, rfl, he, -⟩ := List.map_eq_cons_iff.mp hpost
      obtain ⟨rfl, rfl⟩ := Prod.mk.inj he
      refine Or.inr ⟨_, List.mem_cons_self .., hopen.mp rfl, pre, post, hchars, ?_⟩
      rw [map_fst_map]
    · have hplace := ih hregular.2 hrest
      rw [List.map_append, map_fst_map, Text.byteLength_append, ← Nat.add_assoc]
      exact hplace.cons _

/-- Separators apply to a character of an open lexeme wherever the lexeme stands. -/
lemma exposure_of_isOpen {start : Nat} {cs : List Char} {ls : List Lexeme} (h : Scans start cs ls)
    (hregular : ∀ lexeme ∈ ls, lexeme.kind.IsRegular) {lexeme : Lexeme} (hmem : lexeme ∈ ls)
    (hopen : IsOpen lexeme) {pre post : List Char} {c : Char} (hchars : lexeme.chars = pre ++ c :: post) :
    ∃ before after, exposureFrom 0 cs = before ++ (c, true) :: after ∧
      lexeme.start + Text.byteLength pre = start + Text.byteLength (before.map (·.1)) := by
  have hlater {start : Nat} {xs cs : List Char} {exposed : Bool}
      (h : ∃ before after, exposureFrom 0 cs = before ++ (c, true) :: after ∧ lexeme.start +
        Text.byteLength pre = start + Text.byteLength xs + Text.byteLength (before.map (·.1))) :
      ∃ before after,
        xs.map (fun d => (d, exposed)) ++ exposureFrom 0 cs = before ++ (c, true) :: after ∧
          lexeme.start + Text.byteLength pre = start + Text.byteLength (before.map (·.1)) := by
    obtain ⟨before, after, hexposure, hplace⟩ := h
    refine ⟨xs.map (fun d => (d, exposed)) ++ before, after, by rw [hexposure, List.append_assoc], ?_⟩
    rw [hplace, List.map_append, map_fst_map, Text.byteLength_append, Nat.add_assoc]
  induction h with
  | nil => cases hmem
  | @blank start d cs ls hd _ ih =>
    rw [show d :: cs = [d] ++ cs from rfl, exposureFrom_append_exposed (ne_special_of_isBlank hd)]
    exact hlater (ih hregular hmem)
  | @lexeme start kind d body rest ls _ hclassify _ ih =>
    rw [List.forall_mem_cons] at hregular
    obtain ⟨exposed, hexposure, hfirst⟩ := exposureFrom_lexeme hclassify start hregular.1
    rw [hexposure]
    rcases List.mem_cons.mp hmem with rfl | hmem
    · obtain rfl : exposed = true := hfirst.mpr hopen
      rw [show d :: body = pre ++ c :: post from hchars]
      refine ⟨pre.map fun e => (e, true), post.map (fun e => (e, true)) ++ exposureFrom 0 rest, ?_, ?_⟩
      · simp
      · rw [map_fst_map]
    · exact hlater (ih hregular.2 hmem)

end Presentation

end OlapFormula
