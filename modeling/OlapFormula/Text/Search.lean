/-!
# Searching in a text
-/

namespace OlapFormula.Text

/-- A pattern that is being matched: the text and the pattern that are left, and, once there was a `%`, the
pattern after the last one with the text from the next place at which that may begin. -/
structure Attempt where
  text : List Char
  pattern : List Char
  retry : Option (List Char × List Char) := none
deriving Repr, DecidableEq

namespace Attempt

/-- Lets the last `%` stand for one more character; without one there is no match. -/
def back (attempt : Attempt) : Attempt ⊕ Bool :=
  match attempt.retry with
  | some (pattern, text) => .inl ⟨text, pattern, some (pattern, text.drop 1)⟩
  | none => .inr false

/-- Goes on by one character of the text or the pattern, or gives the answer. A `%` stands for nothing at
first. -/
def step (attempt : Attempt) : Attempt ⊕ Bool :=
  match attempt.text, attempt.pattern with
  | [], pattern => .inr (pattern.all (· == '%'))
  | _ :: _, [] => attempt.back
  | c :: cs, x :: pattern =>
    if x = '%' then .inl ⟨c :: cs, pattern, some (pattern, cs)⟩
    else if x = '_' ∨ x = c then .inl ⟨cs, pattern, attempt.retry⟩
    else attempt.back

/-- The pattern does not go on with what the character may stand for. -/
def Refuses (c : Char) (pattern : List Char) : Prop :=
  ∀ x ∈ pattern.head?, x ≠ '%' ∧ x ≠ '_' ∧ x ≠ c

/-- What a step can do: enter a `%`, pass a character, or go back to the last `%`. -/
inductive Moves : Attempt → Attempt → Prop
  | enter {c : Char} {cs pattern : List Char} {retry : Option (List Char × List Char)} :
    Moves ⟨c :: cs, '%' :: pattern, retry⟩ ⟨c :: cs, pattern, some (pattern, cs)⟩
  | pass {c x : Char} {cs pattern : List Char} {retry : Option (List Char × List Char)} :
    x ≠ '%' → x = '_' ∨ x = c → Moves ⟨c :: cs, x :: pattern, retry⟩ ⟨cs, pattern, retry⟩
  | back {c : Char} {cs pattern rest next : List Char} : Refuses c pattern →
    Moves ⟨c :: cs, pattern, some (rest, next)⟩ ⟨next, rest, some (rest, next.drop 1)⟩

theorem moves_of_back {c : Char} {cs pattern : List Char} {retry : Option (List Char × List Char)}
    {after : Attempt} (hrefuses : Refuses c pattern)
    (h : back ⟨c :: cs, pattern, retry⟩ = .inl after) : Moves ⟨c :: cs, pattern, retry⟩ after := by
  cases retry with
  | none => cases h
  | some retry =>
    cases h
    exact .back hrefuses

theorem moves_of_step {attempt after : Attempt} (h : attempt.step = .inl after) :
    Moves attempt after := by
  obtain ⟨text, pattern, retry⟩ := attempt
  match text, pattern with
  | [], _ => cases h
  | c :: cs, [] => exact moves_of_back (by simp [Refuses]) h
  | c :: cs, x :: pattern =>
    unfold step at h
    dsimp only at h
    split at h
    · next hrun =>
      subst hrun
      cases h
      exact .enter
    · next hrun =>
      split at h
      · next hone =>
        cases h
        exact .pass hrun hone
      · next hone => exact moves_of_back (by simpa [Refuses, hrun] using hone) h

/-- No pattern that the attempt can still come to is longer. -/
def patternBound (attempt : Attempt) : Nat :=
  max attempt.pattern.length (attempt.retry.elim 0 (·.1.length))

/-- How many places are left at which the pattern after the last `%` may begin. -/
def placesLeft (attempt : Attempt) : Nat := attempt.retry.elim 0 (·.2.length)

/-- Going back makes the text longer, but takes a place away; a new `%` makes new places, but the pattern
is shorter from then on. -/
theorem Moves.decreases {attempt after : Attempt} (h : Moves attempt after) :
    Prod.Lex (· < ·) (Prod.Lex (· < ·) (· < ·))
      (after.patternBound, after.placesLeft, after.text.length)
      (attempt.patternBound, attempt.placesLeft, attempt.text.length) := by
  simp only [Prod.lex_def]
  cases h with
  | enter =>
    simp only [patternBound, placesLeft, Option.elim_some, List.length_cons]
    omega
  | pass =>
    simp only [patternBound, placesLeft, List.length_cons, true_and]
    omega
  | back =>
    simp only [patternBound, placesLeft, Option.elim_some, List.length_cons, List.length_drop]
    omega

/-- Steps until there is an answer. -/
def answer (attempt : Attempt) : Bool :=
  match _h : attempt.step with
  | .inl after => after.answer
  | .inr found => found
termination_by (attempt.patternBound, attempt.placesLeft, attempt.text.length)
decreasing_by exact (moves_of_step ‹_›).decreases

end Attempt

/-- The text matches the pattern, in which `%` stands for any run of characters and `_` for one. -/
def like (text pattern : List Char) : Bool := Attempt.answer { text, pattern }

/-- Replaces what is found, from left to right; the first `skip` characters belong to what was found
last. -/
def replaceFrom (search replacement : List Char) (skip : Nat) : List Char → List Char
  | [] => []
  | c :: cs =>
    match skip with
    | skip + 1 => replaceFrom search replacement skip cs
    | 0 =>
      if search.isPrefixOf (c :: cs) then
        replacement ++ replaceFrom search replacement (search.length - 1) cs
      else c :: replaceFrom search replacement 0 cs

/-- Replaces every occurrence of a text that is not empty. -/
def replace (search replacement cs : List Char) : List Char :=
  if search.isEmpty then cs else replaceFrom search replacement 0 cs

end OlapFormula.Text
