import Mathlib.Data.List.Basic
import OlapFormula.Lexeme
import OlapFormula.Proofs.FieldReference.WellFormed

/-!
# Words

The lexemes of a text without their places. `Spells cs ws` says that `cs` is read as the words `ws`
wherever it stands in a formula, as long as what follows does not run into it.
-/

namespace OlapFormula

/-- Lexemes of this kind can be part of a formula. -/
def LexemeKind.IsRegular (kind : LexemeKind) : Prop := kind ≠ .unterminated ∧ kind ≠ .unexpected

instance : DecidablePred LexemeKind.IsRegular := fun _ => inferInstanceAs (Decidable (_ ∧ _))

/-- A lexeme without its place. -/
abbrev Word := LexemeKind × List Char

namespace Lexeme

def word (lexeme : Lexeme) : Word := (lexeme.kind, lexeme.chars)

def words (cs : List Char) : List Word := (scan cs).map word

lemma length_words (cs : List Char) : (words cs).length = (scan cs).length := List.length_map _

@[simp] lemma words_nil : words [] = [] := rfl

/-- Where a text starts does not matter for its words. -/
lemma map_word_scanFrom (skip start : Nat) (cs : List Char) :
    (scanFrom skip start cs).map word = words (cs.drop skip) := by
  induction cs generalizing skip start with
  | nil => simp [scanFrom]
  | cons c cs ih =>
    cases skip with
    | succ skip => simp only [scanFrom, List.drop_succ_cons, ih]
    | zero =>
      simp only [scanFrom, words, scan, List.drop_zero]
      by_cases hc : Text.isBlank c
      · simp only [if_pos hc, ih]
      · simp only [if_neg hc, List.map_cons, ih]
        rfl

lemma words_cons (c : Char) (cs : List Char) :
    words (c :: cs) =
      if Text.isBlank c then words cs
      else ((classify c cs).1, (c :: cs).take (classify c cs).2) ::
        words (cs.drop ((classify c cs).2 - 1)) := by
  have hstart : words (c :: cs) = (scanFrom 0 0 (c :: cs)).map word := rfl
  rw [hstart]
  unfold scanFrom
  by_cases hc : Text.isBlank c
  · simp only [if_pos hc, map_word_scanFrom, List.drop_zero]
  · simp only [if_neg hc, List.map_cons, map_word_scanFrom]
    rfl

lemma words_space (cs : List Char) : words (' ' :: cs) = words cs := by
  rw [words_cons, if_pos (by decide)]

lemma words_lexeme {c : Char} {kind : LexemeKind} (body : List Char) {rest : List Char}
    (hc : Text.isBlank c = false)
    (h : classify c (body ++ rest) = (kind, 1 + body.length)) :
    words (c :: (body ++ rest)) = (kind, c :: body) :: words rest := by
  have htake : (c :: (body ++ rest)).take (1 + body.length) = c :: body := by
    rw [Nat.add_comm, List.take_succ_cons, List.take_left]
  have hdrop : (body ++ rest).drop (1 + body.length - 1) = rest := by
    rw [Nat.add_sub_cancel_left, List.drop_left]
  rw [words_cons, if_neg (by simp [hc]), h, htake, hdrop]

/-- What follows a word and does not run into it. -/
def Delimited (rest : List Char) : Prop :=
  ∀ c, rest.head? = some c → c ∈ [' ', ',', '(', ')', '\x7d']

lemma delimited_nil : Delimited [] := by simp [Delimited]

lemma delimited_cons {c : Char} (hc : c ∈ [' ', ',', '(', ')', '\x7d']) (cs : List Char) :
    Delimited (c :: cs) := by
  intro d hd
  simp only [List.head?_cons, Option.some.injEq] at hd
  exact hd ▸ hc

/-- The test need only be made of the characters that may follow. -/
lemma Delimited.of_all {rest : List Char} (h : Delimited rest) {p : Char → Bool}
    (hp : [' ', ',', '(', ')', '\x7d'].all p) {c : Char} (hc : rest.head? = some c) : p c :=
  List.all_eq_true.mp hp c (h c hc)

/-- A character that no word goes on with ends every run. -/
lemma Delimited.takeWhile_append {rest : List Char} (h : Delimited rest) {p : Char → Bool}
    {cs : List Char} (hcs : ∀ c ∈ cs, p c)
    (hp : [' ', ',', '(', ')', '\x7d'].all fun c => !p c) :
    (cs ++ rest).takeWhile p = cs := by
  rw [List.takeWhile_append_of_pos hcs]
  cases rest with
  | nil => simp
  | cons d rest =>
    have hend : !p d := h.of_all hp rfl
    rw [List.takeWhile_cons_of_neg (by simpa using hend), List.append_nil]

/-- The text is read as these words wherever it stands. -/
def Spells (cs : List Char) (ws : List Word) : Prop :=
  ∀ rest, Delimited rest → words (cs ++ rest) = ws ++ words rest

lemma Spells.words_eq {cs : List Char} {ws : List Word} (h : Spells cs ws) : words cs = ws := by
  have hwords := h [] delimited_nil
  simpa using hwords

lemma spells_nil : Spells [] [] := fun _ _ => rfl

def IsSymbol (c : Char) (kind : LexemeKind) : Prop :=
  Text.isBlank c = false ∧ ∀ cs, classify c cs = (kind, 1)

lemma IsSymbol.words_cons {c : Char} {kind : LexemeKind} (h : IsSymbol c kind) (cs : List Char) :
    words (c :: cs) = (kind, [c]) :: words cs :=
  words_lexeme [] h.1 (h.2 _)

lemma isSymbol_minus : IsSymbol '-' .minus := ⟨by decide, fun _ => rfl⟩
lemma isSymbol_comma : IsSymbol ',' .comma := ⟨by decide, fun _ => rfl⟩
lemma isSymbol_leftParen : IsSymbol '(' .leftParen := ⟨by decide, fun _ => rfl⟩
lemma isSymbol_rightParen : IsSymbol ')' .rightParen := ⟨by decide, fun _ => rfl⟩
lemma isSymbol_leftBrace : IsSymbol '\x7b' .leftBrace := ⟨by decide, fun _ => rfl⟩
lemma isSymbol_rightBrace : IsSymbol '\x7d' .rightBrace := ⟨by decide, fun _ => rfl⟩

end Lexeme

end OlapFormula
