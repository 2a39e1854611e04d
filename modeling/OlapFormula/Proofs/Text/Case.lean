import Mathlib.Data.List.Basic
import OlapFormula.Text.Case

/-!
# Names that are words of operators

Keywords are compared in ASCII, names are put in upper case in full. The two differ where a letter outside
ASCII has an upper-case form in it: for the letters of the operators this is the dotless `ı` only.
-/

namespace OlapFormula.Text

/-- The letters of the words of operators. -/
def operatorLetters : List Char := ['A', 'D', 'I', 'N', 'O', 'R', 'T']

lemma toNat_of_ofNat {n : Nat} {c : Char} (h : Char.ofNat n = c) (hc : c ≠ Char.ofNat 0) : n = c.toNat := by
  subst h
  by_cases hvalid : n.isValidChar
  · rw [show Char.ofNat n = Char.ofNatAux n hvalid from dif_pos hvalid]
    rfl
  · exact absurd (dif_neg hvalid) hc

lemma upperChar_ascii {c : Char} (hc : c.toNat < 0x80) : upperChar c = [c.toUpper] := if_pos hc

/-- Beyond ASCII only the dotless `ı` becomes such a letter. -/
lemma ascii_of_upperChar {c : Char} (h : ∀ x ∈ upperChar c, x ∈ operatorLetters) (hc : c ≠ 'ı') :
    c.toNat < 0x80 := by
  by_contra hlarge
  have hletters {n : Nat} (hn : Char.ofNat n ∈ operatorLetters) :
      n ∈ operatorLetters.map Char.toNat := by
    refine List.mem_map.mpr ⟨_, hn, (toNat_of_ofNat rfl fun hzero => ?_).symm⟩
    rw [hzero] at hn
    exact absurd hn (by decide)
  have hsmall {n : Nat} (hn : n ∈ operatorLetters.map Char.toNat) : n < 0x80 := by
    revert n
    decide
  rw [upperChar, if_neg hlarge, mapCase] at h
  split at h
  · next form hform =>
    have hforms : ∀ p ∈ upperExpansions, ¬∀ n ∈ p.2, n ∈ operatorLetters.map Char.toNat := by
      decide +kernel
    obtain ⟨_, _, hsplit, -⟩ := List.lookup_eq_some_iff.mp hform
    have hmem : (c.toNat, form) ∈ upperExpansions := by
      rw [hsplit]
      exact List.mem_append_right _ (List.mem_cons_self ..)
    exact hforms _ hmem fun n hn => hletters (h _ (List.mem_map_of_mem hn))
  · split at h
    · next run hrun =>
      have hruns : ∀ run ∈ upperRuns, run.last < 0x80 ∨ run.first = 0x131 ∧ run.last = 0x131 ∨
          run.first = 0x17F ∧ run.last = 0x17F ∧ run.shift = -300 ∨
          (0x80 : Int) ≤ run.first + run.shift := by
        decide +kernel
      have hcovers := List.find?_some hrun
      simp only [CaseRun.covers, Bool.and_eq_true, decide_eq_true_eq] at hcovers
      have hshifted := hletters (h _ (List.mem_singleton_self _))
      have hbound := hsmall hshifted
      rcases hruns run (List.mem_of_find?_eq_some hrun) with hlast | ⟨hfirst, hlast⟩ |
        ⟨hfirst, hlast, hshift⟩ | hshift
      · omega
      · have hn : c.toNat = 0x131 := by omega
        exact hc (Char.toNat_inj.mp hn)
      · have hn : c.toNat = 0x17F := by omega
        rw [hn, hshift] at hshifted
        exact absurd hshifted (by decide)
      · omega
    · exact hlarge (hsmall (List.mem_map_of_mem (h c (List.mem_singleton_self c))))

/-- What can be checked for each ASCII character holds of all of them. -/
lemma ascii_forall {P : Char → Prop} (h : ∀ n < 0x80, P (Char.ofNat n)) {c : Char}
    (hc : c.toNat < 0x80) : P c := by
  have hchar := h c.toNat hc
  rwa [Char.ofNat_toNat] at hchar

lemma toLower_toUpper {c : Char} (hc : c.toNat < 0x80) : c.toUpper.toLower = c.toLower :=
  @ascii_forall (fun c => c.toUpper.toLower = c.toLower) (by decide +kernel) c hc

lemma ascii_of_toLower {c : Char} (h : c.toLower.toNat < 0x80) : c.toNat < 0x80 := by
  unfold Char.toLower at h
  split at h
  · next hupper =>
    have hle : c.toNat ≤ 'Z'.toNat := hupper.2
    exact Nat.lt_of_le_of_lt hle (by decide)
  · exact h

/-- Only a capital letter and its small letter are in small letters alike. -/
lemma upperChar_of_toLower {c x : Char} (hx : x ∈ operatorLetters) (h : c.toLower = x.toLower) :
    upperChar c = [x] ∧ c ≠ 'ı' := by
  have hsmall : operatorLetters.all (fun x => x.toLower.toNat < 0x80) = true := by decide
  have hc : c.toNat < 0x80 :=
    ascii_of_toLower (h ▸ of_decide_eq_true (List.all_eq_true.mp hsmall x hx))
  have hcapital : operatorLetters.all (fun x => c.toLower != x.toLower || c.toUpper == x) = true :=
    @ascii_forall (fun c => operatorLetters.all (fun x => c.toLower != x.toLower || c.toUpper == x) = true)
      (by decide +kernel) c hc
  have hupper : c.toUpper = x := by
    have hx := List.all_eq_true.mp hcapital x hx
    rwa [h, bne_self_eq_false, Bool.false_or, beq_iff_eq] at hx
  refine ⟨by rw [upperChar_ascii hc, hupper], ?_⟩
  rintro rfl
  exact absurd hc (by decide)

/-- A word in the letters of operators is written in small or capital letters of ASCII exactly where its
upper case is written without the dotless `ı`. -/
theorem equalIgnoringCase_iff {cs word : List Char} (hword : ∀ x ∈ word, x ∈ operatorLetters) :
    equalIgnoringCase cs word = true ↔ upper cs = word ∧ 'ı' ∉ cs := by
  rw [equalIgnoringCase, beq_iff_eq]
  induction cs generalizing word with
  | nil => cases word <;> simp [lowerAscii, upper]
  | cons c cs ih =>
    constructor
    · intro h
      cases word with
      | nil => cases h
      | cons x word =>
        rw [List.forall_mem_cons] at hword
        obtain ⟨hhead, htail⟩ := List.cons.inj h
        obtain ⟨hupper, hc⟩ := upperChar_of_toLower hword.1 hhead
        obtain ⟨hrest, hcs⟩ := (ih hword.2).mp htail
        refine ⟨?_, List.not_mem_cons_of_ne_of_not_mem hc.symm hcs⟩
        rw [upper, List.flatMap_cons, hupper]
        exact congrArg (x :: ·) hrest
    · rintro ⟨h, hc⟩
      rw [upper, List.flatMap_cons] at h
      subst h
      rw [List.forall_mem_append] at hword
      rw [List.mem_cons, not_or] at hc
      have hascii := ascii_of_upperChar hword.1 (Ne.symm hc.1)
      rw [upperChar_ascii hascii]
      show c.toLower :: lowerAscii cs = c.toUpper.toLower :: lowerAscii (cs.flatMap upperChar)
      rw [toLower_toUpper hascii]
      exact congrArg (c.toLower :: ·) ((ih hword.2).mpr ⟨rfl, hc.2⟩)

end OlapFormula.Text
