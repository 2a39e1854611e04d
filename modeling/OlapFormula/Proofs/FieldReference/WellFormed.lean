import Mathlib.Data.List.TakeWhile
import OlapFormula.FieldReference.Scan

/-!
# Well-formed field references

The references that can be written so that they are read again: `FieldReference.parse?` returns only
well-formed references, and reads each of them from its written form.
-/

namespace OlapFormula.FieldReference

/-- An id that needs no quotes: not blank, without brackets and without double quotes. -/
structure IsPlainId (id : List Char) : Prop where
  not_blank : Text.isAllBlank id = false
  plain : ∀ c ∈ id, c ≠ '"' ∧ c ≠ '[' ∧ c ≠ ']'

/-- The text starts like the id of a dimension, a property or a hierarchy. -/
def HasMark (cs : List Char) : Prop :=
  ∃ kind : FieldKind, kind.isDimension ∧ ∃ body, cs = kind.mark.toList ++ body

structure IsWellFormed (r : FieldReference) : Prop where
  kind : r.kind ≠ .unknown
  id : IsPlainId r.id.toList
  suffix : ∀ s, r.suffix = some s → IsPlainId s.id.toList
  datasource : ∀ name, r.datasource = some name → name.toList ≠ [] ∧ '"' ∉ name.toList
  head : r.kind = .measure → r.datasource = none → ¬HasMark r.id.toList

/-- What may stand between brackets, given whether a double quote is open before it. -/
def IsClosable : (quoted : Bool) → List Char → Prop
  | quoted, [] => quoted = false
  | quoted, c :: cs =>
    if c = '"' then IsClosable (!quoted) cs
    else (quoted = true ∨ c ≠ '[' ∧ c ≠ ']') ∧ IsClosable quoted cs

lemma isClosable_plain {cs : List Char} (h : '"' ∉ cs) :
    IsClosable false cs ↔ ∀ c ∈ cs, c ≠ '[' ∧ c ≠ ']' := by
  induction cs with
  | nil => simp [IsClosable]
  | cons c cs ih =>
    have hc : c ≠ '"' := fun hc => h (by simp [hc])
    have hcs : '"' ∉ cs := fun hcs => h (List.mem_cons_of_mem c hcs)
    simp [IsClosable, hc, ih hcs]

lemma isClosable_quoted {name : List Char} (h : '"' ∉ name) (cs : List Char) :
    IsClosable true (name ++ '"' :: cs) ↔ IsClosable false cs := by
  induction name with
  | nil => simp [IsClosable]
  | cons c name ih =>
    have hc : c ≠ '"' := fun hc => h (by simp [hc])
    have hname : '"' ∉ name := fun hn => h (List.mem_cons_of_mem c hn)
    simp [IsClosable, hc, ih hname]

/-- Splitting at the closing bracket, and what the two parts can be. -/
theorem splitClosing_eq_some_iff {quoted : Bool} {cs inner rest : List Char} :
    splitClosing quoted cs = some (inner, rest) ↔
      cs = inner ++ ']' :: rest ∧ IsClosable quoted inner := by
  induction cs generalizing quoted inner with
  | nil => simp [splitClosing]
  | cons c cs ih =>
    unfold splitClosing
    by_cases hq : c = '"'
    · subst hq
      cases inner with
      | nil => simp
      | cons d inner => simp [IsClosable, Option.map_eq_some_iff, ih]; grind
    · by_cases hclose : c = ']' ∧ quoted = false
      · obtain ⟨rfl, rfl⟩ := hclose
        cases inner with
        | nil => simp [IsClosable]
        | cons d inner => simp [IsClosable]; grind
      · have hlast : ¬(c = ']' && !quoted) = true := by simpa using hclose
        rw [if_neg hq, if_neg hlast]
        by_cases hopen : c = '[' ∧ quoted = false
        · obtain ⟨rfl, rfl⟩ := hopen
          cases inner with
          | nil => simp
          | cons d inner => simp [IsClosable]; grind
        · have hopens : ¬(c = '[' && !quoted) = true := by simpa using hopen
          rw [if_neg hopens]
          cases inner with
          | nil => simp [IsClosable]; grind
          | cons d inner => simp [IsClosable, Option.map_eq_some_iff, ih]; grind

lemma splitBracket_eq_some_iff {cs inner rest : List Char} :
    splitBracket cs = some (inner, rest) ↔
      cs = '[' :: (inner ++ ']' :: rest) ∧ IsClosable false inner := by
  unfold splitBracket
  split
  · simp [splitClosing_eq_some_iff]
  · rename_i hcs
    simp only [reduceCtorEq, false_iff, not_and]
    intro h
    exact absurd h (hcs _)

def datasourceChars : Option String → List Char
  | none => []
  | some name => '"' :: name.toList ++ ['"', ':']

/-- A name that may stand between double quotes before an id. -/
def IsDatasource (datasource : Option String) : Prop :=
  ∀ name, datasource = some name → name.toList ≠ [] ∧ '"' ∉ name.toList

lemma takeWhile_append_quote {name : List Char} (h : '"' ∉ name) (cs : List Char) :
    (name ++ '"' :: cs).takeWhile (· != '"') = name ∧
      (name ++ '"' :: cs).dropWhile (· != '"') = '"' :: cs := by
  have hname : ∀ c ∈ name, (c != '"') = true := by
    intro c hc
    simpa using fun hq : c = '"' => h (hq ▸ hc)
  rw [List.takeWhile_append_of_pos hname, List.dropWhile_append_of_pos hname]
  simp

lemma splitDatasource_plain {body : List Char} (h : '"' ∉ body) :
    splitDatasource body = some (none, body) := by
  unfold splitDatasource
  split
  · simp at h
  · simp [h]

/-- A name between double quotes and an id are read as they are written, and nothing else is. -/
theorem splitDatasource_eq_some_iff {body id : List Char} {datasource : Option String} :
    splitDatasource body = some (datasource, id) ↔
      body = datasourceChars datasource ++ id ∧ '"' ∉ id ∧ IsDatasource datasource := by
  constructor
  · intro h
    unfold splitDatasource at h
    split at h
    · rename_i quoted
      split at h
      · rename_i rest hdrop
        dsimp only at h
        split at h
        · simp at h
        · rename_i hname
          simp only [Option.some.injEq, Prod.mk.injEq] at h
          obtain ⟨rfl, rfl⟩ := h
          simp only [Bool.or_eq_true, not_or, List.isEmpty_iff, List.contains_iff_mem] at hname
          have hquoted := List.takeWhile_append_dropWhile (p := (· != '"')) (l := quoted)
          rw [hdrop] at hquoted
          refine ⟨by simp [datasourceChars, hquoted], hname.2, ?_⟩
          rintro name hsome
          simp only [Option.some.injEq] at hsome
          subst hsome
          rw [String.toList_ofList]
          refine ⟨hname.1, fun hq => ?_⟩
          simpa using List.mem_takeWhile_imp hq
      · simp at h
    · split at h
      · simp at h
      · rename_i hq
        simp only [Option.some.injEq, Prod.mk.injEq] at h
        obtain ⟨rfl, rfl⟩ := h
        exact ⟨rfl, by simpa using hq, by simp [IsDatasource]⟩
  · rintro ⟨rfl, hid, hname⟩
    cases datasource with
    | none => exact splitDatasource_plain hid
    | some name =>
      obtain ⟨hne, hq⟩ := hname name rfl
      have hsplit := takeWhile_append_quote hq (':' :: id)
      have hchars : datasourceChars (some name) ++ id = '"' :: (name.toList ++ '"' :: ':' :: id) := by
        simp [datasourceChars]
      rw [hchars]
      unfold splitDatasource
      simp only [hsplit.1, hsplit.2, String.ofList_toList]
      rw [if_neg]
      simp [hid]
      exact fun h => hne (by simp [h])

lemma isClosable_datasource {datasource : Option String} (h : IsDatasource datasource)
    (cs : List Char) : IsClosable false (datasourceChars datasource ++ cs) ↔ IsClosable false cs := by
  cases datasource with
  | none => simp [datasourceChars]
  | some name =>
    have hname := isClosable_quoted (h name rfl).2 (':' :: cs)
    simp only [datasourceChars, List.cons_append, List.append_assoc, List.nil_append, IsClosable]
    simpa [IsClosable] using hname

lemma isClosable_mark (kind : FieldKind) (cs : List Char) :
    IsClosable false (kind.mark.toList ++ cs) ↔ IsClosable false cs := by
  cases kind <;> simp [FieldKind.mark, IsClosable]

lemma hasMark_append_close (head tail : List Char) :
    HasMark (head ++ ']' :: tail) ↔ HasMark head := by
  constructor
  · rintro ⟨kind, hkind, body, h⟩
    refine ⟨kind, hkind, head.drop 2, ?_⟩
    match head with
    | [] | [_] | _ :: _ :: _ => cases kind <;> simp_all [FieldKind.mark, FieldKind.isDimension]
  · rintro ⟨kind, hkind, body, rfl⟩
    exact ⟨kind, hkind, body ++ ']' :: tail, by simp⟩

lemma trimStart_bracket (cs : List Char) : Text.trimStart ('[' :: cs) = '[' :: cs := rfl

lemma classify_mark {kind : FieldKind} (hkind : kind.isDimension) (cs : List Char) :
    FieldKind.classify ('[' :: (kind.mark.toList ++ cs)) = kind := by
  cases kind <;> first | rfl | simp [FieldKind.isDimension] at hkind

lemma classify_of_not_hasMark {cs : List Char} (h : ¬HasMark cs) :
    FieldKind.classify ('[' :: cs) = .measure := by
  unfold FieldKind.classify
  rw [trimStart_bracket]
  split
  · rename_i body hbody
    exact absurd ⟨.dimension, rfl, body, List.tail_eq_of_cons_eq hbody⟩ h
  · rename_i body hbody
    exact absurd ⟨.property, rfl, body, List.tail_eq_of_cons_eq hbody⟩ h
  · rename_i body hbody
    exact absurd ⟨.hierarchy, rfl, body, List.tail_eq_of_cons_eq hbody⟩ h
  · rfl
  · rename_i hother
    exact absurd rfl (hother cs)

/-- The letters that tell the kind are the mark of the kind. -/
lemma classify_bracket (head tail : List Char) :
    let kind := FieldKind.classify ('[' :: (head ++ ']' :: tail))
    kind ≠ .unknown ∧ head = kind.mark.toList ++ head.drop kind.mark.length ∧
      (kind = .measure → ¬HasMark head) := by
  intro kind
  by_cases h : HasMark head
  · obtain ⟨marked, hmarked, body, rfl⟩ := h
    have hkind : kind = marked := by
      simp only [kind, List.append_assoc]
      exact classify_mark hmarked _
    rw [hkind]
    have hdrop : (marked.mark.toList ++ body).drop marked.mark.length = body := by
      rw [← String.length_toList, List.drop_left]
    rw [hdrop]
    refine ⟨?_, rfl, ?_⟩
    · rintro rfl
      simp [FieldKind.isDimension] at hmarked
    · rintro rfl
      simp [FieldKind.isDimension] at hmarked
  · have hkind : kind = .measure := classify_of_not_hasMark ((hasMark_append_close _ _).not.mpr h)
    rw [hkind]
    exact ⟨by decide, by simp [FieldKind.mark], fun _ => h⟩

def suffixChars : Option FieldSuffix → List Char
  | none => []
  | some suffix => '.' :: '[' :: (suffix.kind.mark.toList ++ suffix.id.toList ++ [']'])

lemma isPlainId_of_isClosable {id : List Char}
    (hid : (Text.isAllBlank id || id.contains '"') = false) (h : IsClosable false id) :
    IsPlainId id := by
  simp only [Bool.or_eq_false_iff, List.contains_eq_mem, decide_eq_false_iff_not] at hid
  rw [isClosable_plain hid.2] at h
  refine ⟨hid.1, fun c hc => ⟨?_, h c hc⟩⟩
  rintro rfl
  exact hid.2 hc

lemma IsPlainId.quote_not_mem {id : List Char} (h : IsPlainId id) : '"' ∉ id :=
  fun hq => (h.plain _ hq).1 rfl

lemma IsPlainId.isClosable {id : List Char} (h : IsPlainId id) : IsClosable false id := by
  rw [isClosable_plain h.quote_not_mem]
  exact fun c hc => (h.plain c hc).2

lemma suffix_of_read {kind : SuffixKind} {id : List Char} {suffix : Option FieldSuffix}
    (h : (if (Text.isAllBlank id || id.contains '"') = true then none
      else some (some ⟨kind, String.ofList id⟩)) = some suffix) (hid : IsClosable false id) :
    suffix = some ⟨kind, String.ofList id⟩ ∧ IsPlainId id := by
  split at h
  · simp at h
  · rename_i hread
    simp only [Option.some.injEq] at h
    exact ⟨h.symm, isPlainId_of_isClosable (by simpa using hread) hid⟩

lemma parseSuffix?_suffixChars {suffix : Option FieldSuffix}
    (h : ∀ s, suffix = some s → IsPlainId s.id.toList) :
    parseSuffix? (suffixChars suffix) = some suffix := by
  cases suffix with
  | none => rfl
  | some suffix =>
    obtain ⟨kind, id⟩ := suffix
    have hid : IsPlainId id.toList := h _ rfl
    have hsplit : splitClosing false (kind.mark.toList ++ id.toList ++ [']']) =
        some (kind.mark.toList ++ id.toList, []) := by
      rw [splitClosing_eq_some_iff]
      refine ⟨rfl, ?_⟩
      cases kind <;> simpa [SuffixKind.mark, IsClosable] using hid.isClosable
    cases kind <;>
      simp_all [suffixChars, parseSuffix?, splitBracket, SuffixKind.mark, hid.not_blank,
        hid.quote_not_mem]

theorem parseSuffix?_eq_some_iff {cs : List Char} {suffix : Option FieldSuffix} :
    parseSuffix? cs = some suffix ↔
      cs = suffixChars suffix ∧ ∀ s, suffix = some s → IsPlainId s.id.toList := by
  constructor
  · intro h
    unfold parseSuffix? at h
    split at h
    · simp only [Option.some.injEq] at h
      subst h
      simp [suffixChars]
    · split at h
      · rename_i inner hsplit
        obtain ⟨rfl, hinner⟩ := splitBracket_eq_some_iff.mp hsplit
        dsimp only at h
        split at h
        · obtain ⟨rfl, hid⟩ := suffix_of_read h (by simpa [IsClosable] using hinner)
          simp [suffixChars, SuffixKind.mark, hid]
        · obtain ⟨rfl, hid⟩ := suffix_of_read h (by simpa [IsClosable] using hinner)
          simp [suffixChars, SuffixKind.mark, hid]
        · simp at h
      · simp at h
    · simp at h
  · rintro ⟨rfl, h⟩
    exact parseSuffix?_suffixChars h

lemma text_toList (r : FieldReference) :
    r.text.toList = '[' :: (r.kind.mark.toList ++ datasourceChars r.datasource ++ r.id.toList ++
      ']' :: suffixChars r.suffix) := by
  obtain ⟨datasource, kind, id, suffix⟩ := r
  cases datasource <;> cases suffix <;>
    simp [text, headText, suffixText, datasourceChars, suffixChars]

lemma trim_text (r : FieldReference) : Text.trim r.text.toList = r.text.toList := by
  have hlast : ∃ cs, r.text.toList = cs ++ [']'] := by
    rw [← List.getLast?_eq_some_iff, text_toList]
    cases r.suffix <;> simp [suffixChars, List.getLast?_cons]
  obtain ⟨cs, hcs⟩ := hlast
  have hstart : Text.trimStart r.text.toList = r.text.toList := by
    rw [text_toList, trimStart_bracket]
  unfold Text.trim
  rw [hstart, hcs]
  simp [Text.trimEnd, Text.isBlank]

lemma IsWellFormed.isClosable_head {r : FieldReference} (h : r.IsWellFormed) :
    IsClosable false (r.kind.mark.toList ++ datasourceChars r.datasource ++ r.id.toList) := by
  rw [List.append_assoc, isClosable_mark, isClosable_datasource h.datasource]
  exact h.id.isClosable

lemma IsWellFormed.not_hasMark {r : FieldReference} (h : r.IsWellFormed) (hkind : r.kind = .measure) :
    ¬HasMark (datasourceChars r.datasource ++ r.id.toList) := by
  cases hname : r.datasource with
  | none => simpa [datasourceChars] using h.head hkind hname
  | some name =>
    rintro ⟨kind, hdimension, body, hbody⟩
    cases kind <;> simp_all [FieldKind.mark, FieldKind.isDimension, datasourceChars]

lemma IsWellFormed.classify_eq {r : FieldReference} (h : r.IsWellFormed) (tail : List Char) :
    FieldKind.classify ('[' :: (r.kind.mark.toList ++ datasourceChars r.datasource ++ r.id.toList ++
      ']' :: tail)) = r.kind := by
  by_cases hdimension : r.kind.isDimension
  · simp only [List.append_assoc]
    exact classify_mark hdimension _
  · have hkind : r.kind = .measure := by
      have hknown := h.kind
      cases hr : r.kind <;> simp_all [FieldKind.isDimension]
    rw [hkind]
    apply classify_of_not_hasMark
    rw [hasMark_append_close]
    simpa [FieldKind.mark] using h.not_hasMark hkind

/-- What is read is well formed, and its written form is the text, white space around that aside. -/
lemma trim_of_parse? {cs : List Char} {r : FieldReference} (h : parse? cs = some r) :
    Text.trim cs = r.text.toList ∧ r.IsWellFormed := by
  rw [text_toList]
  unfold parse? at h
  simp only [Option.bind_eq_bind, Option.bind_eq_some_iff] at h
  obtain ⟨⟨head, rest⟩, hsplit, ⟨datasource, id⟩, hdatasource, h⟩ := h
  obtain ⟨hcs, hclosable⟩ := splitBracket_eq_some_iff.mp hsplit
  obtain ⟨hkind, hhead, hmark⟩ := classify_bracket head rest
  obtain ⟨hbody, hquote, hname⟩ := splitDatasource_eq_some_iff.mp hdatasource
  rw [hcs] at hbody h
  split at h
  · simp at h
  · rename_i hid
    simp only [Option.bind_eq_some_iff, Option.pure_def, Option.some.injEq] at h
    obtain ⟨suffix, hsuffix, rfl⟩ := h
    obtain ⟨rfl, hplain⟩ := parseSuffix?_eq_some_iff.mp hsuffix
    rw [hbody] at hhead
    obtain ⟨kind, hclassify⟩ :
      ∃ kind, FieldKind.classify ('[' :: (head ++ ']' :: suffixChars suffix)) = kind := ⟨_, rfl⟩
    rw [hclassify] at hkind hhead hmark ⊢
    clear hbody hclassify hdatasource hsplit
    subst hhead
    rw [isClosable_mark, isClosable_datasource hname] at hclosable
    have hplainId : IsPlainId id :=
      isPlainId_of_isClosable (by simpa [hquote] using hid) hclosable
    refine ⟨by simp [hcs], hkind, by simpa using hplainId, hplain, hname, ?_⟩
    rintro rfl rfl
    simpa [FieldKind.mark, datasourceChars] using hmark rfl

/-- The written form of a well-formed reference is read, with or without white space around it. -/
lemma parse?_of_trim {cs : List Char} {r : FieldReference} (hcs : Text.trim cs = r.text.toList)
    (hr : r.IsWellFormed) : parse? cs = some r := by
  rw [text_toList] at hcs
  unfold parse?
  obtain ⟨datasource, kind, id, suffix⟩ := r
  have hkind : FieldKind.classify (Text.trim cs) = kind := hcs ▸ hr.classify_eq _
  have hsplit := splitBracket_eq_some_iff.mpr ⟨hcs, hr.isClosable_head⟩
  have hdatasource := splitDatasource_eq_some_iff.mpr
    ⟨rfl, hr.id.quote_not_mem, hr.datasource⟩
  have hsuffix := parseSuffix?_suffixChars hr.suffix
  have hdrop : (kind.mark.toList ++ (datasourceChars datasource ++ id.toList)).drop
      kind.mark.length = datasourceChars datasource ++ id.toList := by
    rw [← String.length_toList, List.drop_left]
  simp only [Option.bind_eq_bind, hsplit, Option.bind_some, hkind, List.append_assoc, hdrop,
    hdatasource, hr.id.not_blank, Bool.false_eq_true, if_false, hsuffix, Option.pure_def,
    String.ofList_toList]

lemma isWellFormed_of_parse? {cs : List Char} {r : FieldReference} (h : parse? cs = some r) :
    r.IsWellFormed :=
  (trim_of_parse? h).2

lemma parse?_text {r : FieldReference} (h : r.IsWellFormed) : parse? r.text.toList = some r :=
  parse?_of_trim (trim_text r) h

instance : DecidablePred IsWellFormed := fun _ =>
  decidable_of_iff _ ⟨isWellFormed_of_parse?, parse?_text⟩

/-- A text is read as a reference exactly if that is well formed and the text is what is written for it,
white space around it aside. So the written form is read as the reference itself exactly if that is well
formed. -/
theorem parse?_eq_some_iff (text : String) (r : FieldReference) :
    (parse? text.toList = some r ↔ r.IsWellFormed ∧ Text.trim text.toList = r.text.toList) ∧
      (parse? r.text.toList = some r ↔ r.IsWellFormed) :=
  ⟨⟨fun h => (trim_of_parse? h).symm, fun h => parse?_of_trim h.2 h.1⟩,
    ⟨isWellFormed_of_parse?, parse?_text⟩⟩

theorem eq_of_text_eq {r s : FieldReference} (hr : r.IsWellFormed) (hs : s.IsWellFormed)
    (h : r.text = s.text) : r = s := by
  have hparse := parse?_text hr
  rw [h, parse?_text hs] at hparse
  exact (Option.some.inj hparse).symm

lemma splitAfterBracket_of_isClosable {quoted : Bool} {inner : List Char}
    (h : IsClosable quoted inner) (rest : List Char) :
    splitAfterBracket quoted (inner ++ ']' :: rest) = some (inner ++ [']'], rest) := by
  induction inner generalizing quoted with
  | nil => simp_all [IsClosable, splitAfterBracket]
  | cons c inner ih =>
    unfold IsClosable at h
    by_cases hc : c = '"'
    · subst hc
      rw [if_pos rfl] at h
      simp [splitAfterBracket, ih h]
    · rw [if_neg hc] at h
      have hclose : ¬(c = ']' && !quoted) = true := by
        rcases h.1 with hquoted | hplain
        · simp [hquoted]
        · simp [hplain.2]
      simp only [List.cons_append, splitAfterBracket, if_neg hclose, if_neg hc, ih h.2,
        Option.map_some]

lemma splitBrackets_of_isClosable {inner : List Char} (h : IsClosable false inner)
    (rest : List Char) :
    splitBrackets ('[' :: (inner ++ ']' :: rest)) = some ('[' :: (inner ++ [']']), rest) := by
  simp [splitBrackets, splitAfterBracket_of_isClosable h]

/-- A well-formed reference is found in a text as far as it is written, unless a point follows. -/
theorem splitField_text {r : FieldReference} (h : r.IsWellFormed) {rest : List Char}
    (hrest : rest.head? ≠ some '.') :
    splitField (r.text.toList ++ rest) = some (r.text.toList, rest) := by
  have hhead := splitBrackets_of_isClosable h.isClosable_head
  rw [text_toList]
  unfold splitField
  cases hsuffix : r.suffix with
  | none =>
    simp only [suffixChars, List.cons_append, List.append_assoc, List.nil_append] at hhead ⊢
    rw [hhead rest]
    cases rest with
    | nil => rfl
    | cons c rest =>
      have hc : c ≠ '.' := by simpa using hrest
      dsimp only
      split
      · rename_i hpoint
        exact absurd (List.head_eq_of_cons_eq hpoint) hc
      · simp
  | some suffix =>
    have hid := (h.suffix _ hsuffix).isClosable
    have htail : IsClosable false (suffix.kind.mark.toList ++ suffix.id.toList) := by
      cases hkind : suffix.kind <;> simpa [SuffixKind.mark, IsClosable] using hid
    have hsplit := splitBrackets_of_isClosable htail rest
    simp only [suffixChars, List.cons_append, List.append_assoc, List.nil_append] at hhead hsplit ⊢
    rw [hhead]
    simp [hsplit]

end OlapFormula.FieldReference
