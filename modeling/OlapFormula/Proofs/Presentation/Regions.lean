import Mathlib.Data.List.Chain
import OlapFormula.Presentation
import OlapFormula.Proofs.FieldReference.Splitting

/-!
# Protected regions

String literals, fields and characters after a backslash keep their places when separators outside of
them are exchanged for one another, as long as no exchange puts a point in front of a bracket, where
it would be read as the start of a suffix.
-/

namespace OlapFormula.Presentation

/-- The regions of a text that starts at place `start` to which separators do not apply; the first
`skip` characters belong to a region before it. -/
def protectedSpansFrom (skip start : Nat) : List Char → List Span
  | [] => []
  | c :: cs =>
    let next := start + c.utf8Size
    match skip with
    | skip + 1 => protectedSpansFrom skip next cs
    | 0 =>
      match protectedAfter c cs with
      | some more =>
        ⟨start, next + Text.byteLength (cs.take more)⟩ :: protectedSpansFrom more next cs
      | none => protectedSpansFrom 0 next cs

/-- The regions of a text to which separators do not apply, each with its bytes. -/
def protectedSpans (cs : List Char) : List Span := protectedSpansFrom 0 0 cs

/-- Exchanges separators for one another and keeps every other character. -/
structure IsExchange (f : Char → Char) : Prop where
  fixed : ∀ c, c ∉ ['.', ',', ';'] → f c = c
  separator : ∀ c, c ∈ ['.', ',', ';'] → f c ∈ ['.', ',', ';']

variable {f : Char → Char}

lemma IsExchange.eq_iff (hf : IsExchange f) {c d : Char} (hd : d ∉ ['.', ',', ';']) :
    f c = d ↔ c = d := by
  by_cases hc : c ∈ ['.', ',', ';']
  · have hfc := hf.separator c hc
    constructor
    · rintro rfl
      exact absurd hfc hd
    · rintro rfl
      exact absurd hc hd
  · rw [hf.fixed c hc]

lemma forall_separator {p : Char → Prop} [DecidablePred p]
    (h : ['.', ',', ';'].all (fun c => decide (p c)) = true) : ∀ c ∈ ['.', ',', ';'], p c :=
  fun c hc => of_decide_eq_true (List.all_eq_true.mp h c hc)

lemma IsExchange.utf8Size (hf : IsExchange f) (c : Char) : (f c).utf8Size = c.utf8Size := by
  have hsize : ∀ d ∈ ['.', ',', ';'], d.utf8Size = 1 := forall_separator (by decide)
  by_cases hc : c ∈ ['.', ',', ';']
  · rw [hsize _ (hf.separator c hc), hsize c hc]
  · rw [hf.fixed c hc]

/-- What becomes of a character, given whether separators apply to it. -/
def mapChar (f : Char → Char) (p : Char × Bool) : Char := if p.2 then f p.1 else p.1

lemma IsExchange.mapChar_eq_iff (hf : IsExchange f) {p : Char × Bool} {d : Char}
    (hd : d ∉ ['.', ',', ';']) : mapChar f p = d ↔ p.1 = d := by
  unfold mapChar
  split
  · exact hf.eq_iff hd
  · rfl

/-- The text with its separators exchanged, except in the first `skip` characters. -/
def mapFrom (f : Char → Char) (skip : Nat) (cs : List Char) : List Char :=
  (exposureFrom skip cs).map (mapChar f)

@[simp] lemma mapFrom_nil (skip : Nat) : mapFrom f skip [] = [] := by simp [mapFrom, exposureFrom]

lemma mapFrom_succ (skip : Nat) (c : Char) (cs : List Char) :
    mapFrom f (skip + 1) (c :: cs) = c :: mapFrom f skip cs := by
  simp [mapFrom, exposureFrom, mapChar]

lemma mapFrom_protected {c : Char} {cs : List Char} {more : Nat}
    (h : protectedAfter c cs = some more) :
    mapFrom f 0 (c :: cs) = c :: mapFrom f more cs := by
  simp [mapFrom, exposureFrom, h, mapChar]

lemma mapFrom_exposed {c : Char} {cs : List Char} (h : protectedAfter c cs = none) :
    mapFrom f 0 (c :: cs) = f c :: mapFrom f 0 cs := by
  simp [mapFrom, exposureFrom, h, mapChar]

lemma mapFrom_append (xs cs : List Char) :
    mapFrom f xs.length (xs ++ cs) = xs ++ mapFrom f 0 cs := by
  induction xs with
  | nil => rfl
  | cons x xs ih => rw [List.length_cons, List.cons_append, mapFrom_succ, ih, List.cons_append]

lemma mapFrom_length (cs : List Char) : mapFrom f cs.length cs = cs := by
  have h := mapFrom_append (f := f) cs []
  rwa [List.append_nil, mapFrom_nil, List.append_nil] at h

lemma take_mapFrom (skip : Nat) (cs : List Char) : (mapFrom f skip cs).take skip = cs.take skip := by
  induction cs generalizing skip with
  | nil => simp
  | cons c cs ih =>
    cases skip with
    | zero => simp
    | succ skip => rw [mapFrom_succ, List.take_succ_cons, List.take_succ_cons, ih]

lemma head?_exposureFrom (skip : Nat) (c : Char) (cs : List Char) :
    ∃ exposed rest, exposureFrom skip (c :: cs) = (c, exposed) :: rest := by
  unfold exposureFrom
  split
  · exact ⟨_, _, rfl⟩
  · split
    · exact ⟨_, _, rfl⟩
    · exact ⟨_, _, rfl⟩

lemma head?_mapFrom (hf : IsExchange f) {skip : Nat} {cs : List Char} {d : Char}
    (hd : d ∉ ['.', ',', ';']) : (mapFrom f skip cs).head? = some d ↔ cs.head? = some d := by
  cases cs with
  | nil => simp
  | cons c cs =>
    obtain ⟨exposed, rest, hexposure⟩ := head?_exposureFrom skip c cs
    rw [mapFrom, hexposure, List.map_cons, List.head?_cons, List.head?_cons, Option.some_inj,
      Option.some_inj, hf.mapChar_eq_iff hd]

/-- Only quotes, brackets and backslashes open a region. -/
lemma protectedAfter_eq_none_iff {c : Char} {cs : List Char} :
    protectedAfter c cs = none ↔ c ≠ '"' ∧ c ≠ '[' ∧ c ≠ '\\' := by
  unfold protectedAfter
  by_cases hquote : c = '"'
  · rw [if_pos hquote]
    cases Text.splitAfterQuote cs <;> simp [hquote]
  by_cases hbracket : c = '['
  · rw [if_neg hquote, if_pos hbracket]
    cases FieldReference.splitField (c :: cs) <;> simp [hbracket]
  rw [if_neg hquote, if_neg hbracket]
  by_cases hescape : c = '\\'
  · rw [if_pos hescape]
    simp [hescape]
  · simp [hquote, hbracket, hescape]

lemma IsExchange.protectedAfter_eq_none (hf : IsExchange f) {c : Char} {cs : List Char}
    (h : protectedAfter c cs = none) (ds : List Char) : protectedAfter (f c) ds = none := by
  have hne := protectedAfter_eq_none_iff.mp h
  apply protectedAfter_eq_none_iff.mpr
  refine ⟨?_, ?_, ?_⟩
  · exact fun hc => hne.1 ((hf.eq_iff (by decide)).mp hc)
  · exact fun hc => hne.2.1 ((hf.eq_iff (by decide)).mp hc)
  · exact fun hc => hne.2.2 ((hf.eq_iff (by decide)).mp hc)

/-- No character becomes a point in front of a bracket. -/
def NoNewSuffix (f : Char → Char) (exposures : List (Char × Bool)) : Prop :=
  exposures.IsChain fun p q => p.2 → q.1 = '[' → f p.1 = '.' → p.1 = '.'

lemma NoNewSuffix.tail {p : Char × Bool} {exposures : List (Char × Bool)}
    (h : NoNewSuffix f (p :: exposures)) : NoNewSuffix f exposures := List.IsChain.of_cons h

lemma NoNewSuffix.drop {xs cs : List Char} (h : NoNewSuffix f (exposureFrom xs.length (xs ++ cs))) :
    NoNewSuffix f (exposureFrom 0 cs) := by
  induction xs with
  | nil => exact h
  | cons x xs ih => exact ih h.tail

lemma noSuffix_mapFrom (hf : IsExchange f) {cs : List Char} (h : NoNewSuffix f (exposureFrom 0 cs))
    (hnone : FieldReference.NoSuffix cs) : FieldReference.NoSuffix (mapFrom f 0 cs) := by
  intro suffixed hsuffixed
  cases cs with
  | nil => simp at hsuffixed
  | cons c cs =>
    cases hc : protectedAfter c cs with
    | some more =>
      rw [mapFrom_protected hc] at hsuffixed
      have hpoint : c = '.' := (List.cons.inj hsuffixed).1
      subst hpoint
      simp [protectedAfter] at hc
    | none =>
      rw [mapFrom_exposed hc] at hsuffixed
      obtain ⟨hpoint, rfl⟩ := List.cons.inj hsuffixed
      by_cases hbracket : cs.head? = some '['
      · -- the brackets are not closed, so all that follows is protected
        obtain ⟨ds, rfl⟩ := List.head?_eq_some_iff.mp hbracket
        obtain ⟨exposed, after, hexposure⟩ := head?_exposureFrom 0 '[' ds
        have hchain : NoNewSuffix f ((c, true) :: exposureFrom 0 ('[' :: ds)) := by
          simpa only [exposureFrom, hc] using h
        rw [hexposure] at hchain
        obtain rfl : c = '.' := (List.isChain_cons_cons.mp hchain).1 rfl rfl hpoint
        have hopen := hnone _ rfl
        have hprotected : protectedAfter '[' ds = some ds.length := by
          simp [protectedAfter, FieldReference.splitField, hopen]
        rw [mapFrom_protected hprotected, mapFrom_length]
        exact hopen
      · refine FieldReference.splitBrackets_of_head fun hmapped => hbracket ?_
        exact (head?_mapFrom hf (by decide)).mp hmapped

/-- A region is as long in the exchanged text. -/
lemma protectedAfter_mapFrom (hf : IsExchange f) {c : Char} {cs : List Char} {more : Nat}
    (h : protectedAfter c cs = some more) (hnew : NoNewSuffix f (exposureFrom more cs)) :
    protectedAfter c (mapFrom f more cs) = some more := by
  unfold protectedAfter at h ⊢
  by_cases hquote : c = '"'
  · rw [if_pos hquote] at h ⊢
    cases hsplit : Text.splitAfterQuote cs with
    | none =>
      rw [hsplit] at h
      cases h
      rw [mapFrom_length, hsplit]
    | some pair =>
      obtain ⟨body, rest⟩ := pair
      rw [hsplit] at h
      cases h
      obtain ⟨rfl, hrest, hread⟩ := Text.splitAfterQuote_eq_some hsplit
      have hhead : (mapFrom f 0 rest).head? ≠ some '"' :=
        fun hmapped => hrest ((head?_mapFrom hf (by decide)).mp hmapped)
      rw [mapFrom_append, hread _ hhead]
  rw [if_neg hquote] at h ⊢
  by_cases hbracket : c = '['
  · rw [if_pos hbracket] at h ⊢
    cases hsplit : FieldReference.splitField (c :: cs) with
    | none =>
      rw [hsplit] at h
      cases h
      rw [mapFrom_length, hsplit]
    | some pair =>
      obtain ⟨field, rest⟩ := pair
      rw [hsplit] at h
      obtain ⟨hfield, hread⟩ := FieldReference.splitField_eq_some hsplit
      obtain ⟨d, field, rfl⟩ :=
        List.exists_cons_of_length_pos (FieldReference.length_pos_of_splitField hsplit)
      rw [List.cons_append] at hfield
      obtain ⟨rfl, rfl⟩ := List.cons.inj hfield
      cases h
      rw [List.length_cons, Nat.add_sub_cancel] at hnew ⊢
      rw [mapFrom_append, ← List.cons_append,
        hread _ (noSuffix_mapFrom hf hnew.drop)]
      rfl
  · rw [if_neg hbracket] at h ⊢
    exact h

/-- The same places are exposed in the exchanged text. -/
theorem exposureFrom_mapFrom (hf : IsExchange f) {skip : Nat} {cs : List Char}
    (hnew : NoNewSuffix f (exposureFrom skip cs)) :
    exposureFrom skip (mapFrom f skip cs) =
      (exposureFrom skip cs).map fun p => (mapChar f p, p.2) := by
  induction cs generalizing skip with
  | nil => simp [exposureFrom]
  | cons c cs ih =>
    cases skip with
    | succ skip =>
      rw [mapFrom_succ]
      simp only [exposureFrom, List.map_cons, ih hnew.tail]
      rfl
    | zero =>
      cases hc : protectedAfter c cs with
      | some more =>
        have htail : NoNewSuffix f (exposureFrom more cs) := by
          simp only [exposureFrom, hc] at hnew
          exact hnew.tail
        rw [mapFrom_protected hc]
        simp only [exposureFrom, protectedAfter_mapFrom hf hc htail, hc, List.map_cons, ih htail]
        rfl
      | none =>
        have htail : NoNewSuffix f (exposureFrom 0 cs) := by
          simp only [exposureFrom, hc] at hnew
          exact hnew.tail
        rw [mapFrom_exposed hc]
        simp only [exposureFrom, hf.protectedAfter_eq_none hc, hc, List.map_cons, ih htail]
        rfl

/-- The same bytes are protected in the exchanged text. -/
theorem protectedSpansFrom_mapFrom (hf : IsExchange f) {skip : Nat} (start : Nat) {cs : List Char}
    (hnew : NoNewSuffix f (exposureFrom skip cs)) :
    protectedSpansFrom skip start (mapFrom f skip cs) = protectedSpansFrom skip start cs := by
  induction cs generalizing skip start with
  | nil => simp
  | cons c cs ih =>
    cases skip with
    | succ skip =>
      rw [mapFrom_succ]
      simp only [protectedSpansFrom, ih _ hnew.tail]
    | zero =>
      cases hc : protectedAfter c cs with
      | some more =>
        have htail : NoNewSuffix f (exposureFrom more cs) := by
          simp only [exposureFrom, hc] at hnew
          exact hnew.tail
        rw [mapFrom_protected hc]
        simp only [protectedSpansFrom, protectedAfter_mapFrom hf hc htail, hc, take_mapFrom,
          ih _ htail]
      | none =>
        have htail : NoNewSuffix f (exposureFrom 0 cs) := by
          simp only [exposureFrom, hc] at hnew
          exact hnew.tail
        rw [mapFrom_exposed hc]
        simp only [protectedSpansFrom, hf.protectedAfter_eq_none hc, hc, hf.utf8Size, ih _ htail]

lemma map_fst_exposureFrom (skip : Nat) (cs : List Char) :
    (exposureFrom skip cs).map (·.1) = cs := by
  induction cs generalizing skip with
  | nil => rfl
  | cons c cs ih =>
    unfold exposureFrom
    split
    · rw [List.map_cons, ih]
    · split
      · rw [List.map_cons, ih]
      · rw [List.map_cons, ih]

lemma byteLength_map_mapChar (hf : IsExchange f) (exposures : List (Char × Bool)) :
    Text.byteLength (exposures.map (mapChar f)) = Text.byteLength (exposures.map (·.1)) := by
  have hsize : ∀ p : Char × Bool, (mapChar f p).utf8Size = p.1.utf8Size := by
    intro p
    unfold mapChar
    split
    · exact hf.utf8Size p.1
    · rfl
  induction exposures with
  | nil => rfl
  | cons p exposures ih =>
    rw [List.map_cons, List.map_cons, Text.byteLength, Text.byteLength, ih, hsize]

/-- Places stay where they are. -/
lemma byteLength_map_exchanged (hf : IsExchange f) (exposures : List (Char × Bool)) :
    Text.byteLength ((exposures.map fun p => (mapChar f p, p.2)).map (·.1)) =
      Text.byteLength (exposures.map (·.1)) := by
  rw [List.map_map]
  exact byteLength_map_mapChar hf exposures

lemma byteLength_mapFrom (hf : IsExchange f) (skip : Nat) (cs : List Char) :
    Text.byteLength (mapFrom f skip cs) = Text.byteLength cs := by
  rw [mapFrom, byteLength_map_mapChar hf, map_fst_exposureFrom]

end OlapFormula.Presentation
