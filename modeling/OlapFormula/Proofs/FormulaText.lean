import Mathlib.Data.List.Forall2
import OlapFormula.FormulaText

/-!
# What is kept of formula texts

A formula text keeps the forms that it has been asked for. This does not show: whatever is done to some
texts and asked in between, they answer like texts that keep only what was set, and work out the other form
anew each time.
-/

namespace OlapFormula

inductive TextForm
  | canonical
  | display

/-- A formula text that keeps what was set, and in which form, and nothing besides. -/
structure PlainText where
  locale : Locale
  form : TextForm
  text : String

/-- What can be done to formula texts, and what they can be asked. Texts are numbered in the order in which
they came about. -/
inductive TextCommand
  | empty
  | ofCanonical (text : String) (locale : Locale)
  | ofDisplay (text : String) (locale : Locale)
  | setCanonical (place : Nat) (text : String)
  | setDisplay (place : Nat) (text : String)
  | withLocale (place : Nat) (locale : Locale)
  | canonical (place : Nat)
  | display (place : Nat)
  | isEmpty (place : Nat)

def TextCommand.isQuery : TextCommand → Bool
  | canonical _ | display _ | isEmpty _ => true
  | empty | ofCanonical _ _ | ofDisplay _ _ | setCanonical _ _ | setDisplay _ _ | withLocale _ _ => false

inductive TextAnswer
  | text (text : String)
  | isEmpty (isEmpty : Bool)

namespace PlainText

def canonical (plain : PlainText) : String :=
  match plain.form with
  | .canonical => plain.text
  | .display => String.ofList (Presentation.toCanonical plain.locale plain.text.toList)

def display (plain : PlainText) : String :=
  match plain.form with
  | .canonical => String.ofList (Presentation.toDisplay plain.locale plain.text.toList)
  | .display => plain.text

def isEmpty (plain : PlainText) : Bool := Text.isAllBlank plain.canonical.toList

def setCanonical (plain : PlainText) (text : String) : PlainText := { plain with form := .canonical, text }

def setDisplay (plain : PlainText) (text : String) : PlainText := { plain with form := .display, text }

def withLocale (plain : PlainText) (locale : Locale) : PlainText := ⟨locale, .canonical, plain.canonical⟩

/-- The texts after a command, and the answer if it is a question about one of them. -/
def step (texts : List PlainText) : TextCommand → List PlainText × Option TextAnswer
  | .empty => (texts ++ [⟨.canonical, .canonical, ""⟩], none)
  | .ofCanonical text locale => (texts ++ [⟨locale, .canonical, text⟩], none)
  | .ofDisplay text locale => (texts ++ [⟨locale, .display, text⟩], none)
  | .setCanonical place text => (texts.modify place (·.setCanonical text), none)
  | .setDisplay place text => (texts.modify place (·.setDisplay text), none)
  | .withLocale place locale => (texts ++ texts[place]?.toList.map (·.withLocale locale), none)
  | .canonical place => (texts, texts[place]?.map fun plain => .text plain.canonical)
  | .display place => (texts, texts[place]?.map fun plain => .text plain.display)
  | .isEmpty place => (texts, texts[place]?.map fun plain => .isEmpty plain.isEmpty)

def run (texts : List PlainText) : List TextCommand → List PlainText × List (Option TextAnswer)
  | [] => (texts, [])
  | command :: commands =>
    let (texts, answer) := step texts command
    let (texts, answers) := run texts commands
    (texts, answer :: answers)

lemma run_changes (texts : List PlainText) (commands : List TextCommand) :
    (run texts (commands.filter (!·.isQuery))).1 = (run texts commands).1 := by
  induction commands generalizing texts with
  | nil => rfl
  | cons command commands ih => cases command <;> exact ih _

end PlainText

/-! ## Texts that keep what they are asked for -/

namespace FormulaText

/-- The texts after a command, and the answer if it is a question about one of them. A text of which another
one is made is asked for its canonical form. -/
def step (texts : List FormulaText) : TextCommand → List FormulaText × Option TextAnswer
  | .empty => (texts ++ [.empty], none)
  | .ofCanonical text locale => (texts ++ [.ofCanonical text locale], none)
  | .ofDisplay text locale => (texts ++ [.ofDisplay text locale], none)
  | .setCanonical place text => (texts.modify place (·.setCanonical text), none)
  | .setDisplay place text => (texts.modify place (·.setDisplay text), none)
  | .withLocale place locale =>
    (texts.modify place (·.readCanonical.2) ++ texts[place]?.toList.map (·.withLocale locale), none)
  | .canonical place =>
    (texts.modify place (·.readCanonical.2), texts[place]?.map fun text => .text text.readCanonical.1)
  | .display place =>
    (texts.modify place (·.readDisplay.2), texts[place]?.map fun text => .text text.readDisplay.1)
  | .isEmpty place =>
    (texts.modify place (·.readIsEmpty.2), texts[place]?.map fun text => .isEmpty text.readIsEmpty.1)

def run (texts : List FormulaText) : List TextCommand → List FormulaText × List (Option TextAnswer)
  | [] => (texts, [])
  | command :: commands =>
    let (texts, answer) := step texts command
    let (texts, answers) := run texts commands
    (texts, answer :: answers)

/-- What was set is at hand, and so may be the form that follows from it. -/
structure Refines (text : FormulaText) (plain : PlainText) : Prop where
  locale : text.locale = plain.locale
  canonical_set : plain.form = .canonical → text.canonical? = some plain.text
  display_set : plain.form = .display → text.display? = some plain.text
  canonical_kept : ∀ kept, text.canonical? = some kept → kept = plain.canonical
  display_kept : ∀ kept, text.display? = some kept → kept = plain.display

namespace Refines

variable {text : FormulaText} {plain : PlainText}

lemma ofCanonical (text : String) (locale : Locale) :
    (FormulaText.ofCanonical text locale).Refines ⟨locale, .canonical, text⟩ :=
  ⟨rfl, fun _ => rfl, nofun, fun _ h => (Option.some.inj h).symm, nofun⟩

lemma ofDisplay (text : String) (locale : Locale) :
    (FormulaText.ofDisplay text locale).Refines ⟨locale, .display, text⟩ :=
  ⟨rfl, nofun, fun _ => rfl, nofun, fun _ h => (Option.some.inj h).symm⟩

/-- The empty text has both forms from the beginning, and they follow from each other. -/
lemma empty : FormulaText.empty.Refines ⟨.canonical, .canonical, ""⟩ :=
  ⟨rfl, fun _ => rfl, nofun, fun _ h => (Option.some.inj h).symm, fun _ h => (Option.some.inj h).symm⟩

lemma canonical_eq (h : text.Refines plain) : text.canonical = plain.canonical := by
  unfold FormulaText.canonical
  cases hkept : text.canonical? with
  | some kept => exact h.canonical_kept kept hkept
  | none =>
    cases hform : plain.form with
    | canonical =>
      rw [h.canonical_set hform] at hkept
      cases hkept
    | display =>
      rw [h.display_set hform, h.locale, PlainText.canonical, hform]
      rfl

lemma display_eq (h : text.Refines plain) : text.display = plain.display := by
  unfold FormulaText.display
  cases hkept : text.display? with
  | some kept => exact h.display_kept kept hkept
  | none =>
    cases hform : plain.form with
    | canonical =>
      rw [h.canonical_set hform, h.locale, PlainText.display, hform]
      rfl
    | display =>
      rw [h.display_set hform] at hkept
      cases hkept

lemma readCanonical (h : text.Refines plain) : text.readCanonical.2.Refines plain where
  locale := h.locale
  canonical_set hform := by
    change some text.canonical = some plain.text
    rw [h.canonical_eq, PlainText.canonical, hform]
  display_set := h.display_set
  canonical_kept kept hkept := (Option.some.inj hkept).symm.trans h.canonical_eq
  display_kept := h.display_kept

lemma readDisplay (h : text.Refines plain) : text.readDisplay.2.Refines plain where
  locale := h.locale
  canonical_set := h.canonical_set
  display_set hform := by
    change some text.display = some plain.text
    rw [h.display_eq, PlainText.display, hform]
  canonical_kept := h.canonical_kept
  display_kept kept hkept := (Option.some.inj hkept).symm.trans h.display_eq

lemma isEmpty_eq (h : text.Refines plain) : text.readIsEmpty.1 = plain.isEmpty :=
  congrArg (fun canonical : String => Text.isAllBlank canonical.toList) h.canonical_eq

/-- What was at hand is dropped. -/
lemma setCanonical (h : text.Refines plain) (canonical : String) :
    (text.setCanonical canonical).Refines (plain.setCanonical canonical) := by
  rw [FormulaText.setCanonical, PlainText.setCanonical, h.locale]
  exact ofCanonical canonical plain.locale

lemma setDisplay (h : text.Refines plain) (display : String) :
    (text.setDisplay display).Refines (plain.setDisplay display) := by
  rw [FormulaText.setDisplay, PlainText.setDisplay, h.locale]
  exact ofDisplay display plain.locale

lemma withLocale (h : text.Refines plain) (locale : Locale) :
    (text.withLocale locale).Refines (plain.withLocale locale) := by
  rw [FormulaText.withLocale, PlainText.withLocale, h.canonical_eq]
  exact ofCanonical plain.canonical locale

end Refines

section

variable {texts : List FormulaText} {plains : List PlainText}

lemma refines_modify (h : List.Forall₂ Refines texts plains) {f : FormulaText → FormulaText}
    {g : PlainText → PlainText} (hfg : ∀ text plain, Refines text plain → Refines (f text) (g plain))
    (place : Nat) : List.Forall₂ Refines (texts.modify place f) (plains.modify place g) := by
  induction h generalizing place with
  | nil =>
    rw [List.modify_nil, List.modify_nil]
    exact .nil
  | cons hhead htail ih =>
    cases place with
    | zero => exact .cons (hfg _ _ hhead) htail
    | succ place => exact .cons hhead (ih place)

/-- Texts that keep nothing are not changed by questions. -/
lemma refines_query (h : List.Forall₂ Refines texts plains) {f : FormulaText → FormulaText}
    (hf : ∀ text plain, Refines text plain → Refines (f text) plain) (place : Nat) :
    List.Forall₂ Refines (texts.modify place f) plains := by
  have hmodify := refines_modify (g := id) h hf place
  rwa [List.modify_id] at hmodify

lemma refines_getElem? (h : List.Forall₂ Refines texts plains) (place : Nat) :
    (texts[place]? = none ∧ plains[place]? = none) ∨ ∃ text plain, texts[place]? = some text ∧
      plains[place]? = some plain ∧ Refines text plain := by
  induction h generalizing place with
  | nil => exact Or.inl ⟨rfl, rfl⟩
  | cons hhead _ ih =>
    cases place with
    | zero => exact Or.inr ⟨_, _, rfl, rfl, hhead⟩
    | succ place => exact ih place

lemma map_getElem?_eq (h : List.Forall₂ Refines texts plains) {f : FormulaText → TextAnswer}
    {g : PlainText → TextAnswer} (hfg : ∀ text plain, Refines text plain → f text = g plain)
    (place : Nat) : texts[place]?.map f = plains[place]?.map g := by
  rcases refines_getElem? h place with ⟨htext, hplain⟩ | ⟨text, plain, htext, hplain, hrefines⟩
  · rw [htext, hplain]
    rfl
  · rw [htext, hplain]
    exact congrArg some (hfg text plain hrefines)

lemma refines_withLocale (h : List.Forall₂ Refines texts plains) (place : Nat) (locale : Locale) :
    List.Forall₂ Refines (texts[place]?.toList.map (·.withLocale locale))
      (plains[place]?.toList.map (·.withLocale locale)) := by
  rcases refines_getElem? h place with ⟨htext, hplain⟩ | ⟨text, plain, htext, hplain, hrefines⟩
  · rw [htext, hplain]
    exact .nil
  · rw [htext, hplain]
    exact .cons (hrefines.withLocale locale) .nil

/-- Every command has the same answer and leaves texts that have the same answers. -/
lemma refines_step (h : List.Forall₂ Refines texts plains) (command : TextCommand) :
    List.Forall₂ Refines (step texts command).1 (PlainText.step plains command).1 ∧
      (step texts command).2 = (PlainText.step plains command).2 := by
  cases command with
  | empty => exact ⟨List.rel_append h (.cons .empty .nil), rfl⟩
  | ofCanonical text locale => exact ⟨List.rel_append h (.cons (.ofCanonical text locale) .nil), rfl⟩
  | ofDisplay text locale => exact ⟨List.rel_append h (.cons (.ofDisplay text locale) .nil), rfl⟩
  | setCanonical place text => exact ⟨refines_modify h (fun _ _ h => h.setCanonical text) place, rfl⟩
  | setDisplay place text => exact ⟨refines_modify h (fun _ _ h => h.setDisplay text) place, rfl⟩
  | withLocale place locale =>
    have hasked := refines_query h (fun _ _ h => h.readCanonical) place
    exact ⟨List.rel_append hasked (refines_withLocale h place locale), rfl⟩
  | canonical place =>
    refine ⟨refines_query h (fun _ _ h => h.readCanonical) place, ?_⟩
    exact map_getElem?_eq h (fun _ _ h => congrArg TextAnswer.text h.canonical_eq) place
  | display place =>
    refine ⟨refines_query h (fun _ _ h => h.readDisplay) place, ?_⟩
    exact map_getElem?_eq h (fun _ _ h => congrArg TextAnswer.text h.display_eq) place
  | isEmpty place =>
    refine ⟨refines_query h (fun _ _ h => h.readCanonical) place, ?_⟩
    exact map_getElem?_eq h (fun _ _ h => congrArg TextAnswer.isEmpty h.isEmpty_eq) place

lemma refines_run (h : List.Forall₂ Refines texts plains) (commands : List TextCommand) :
    List.Forall₂ Refines (run texts commands).1 (PlainText.run plains commands).1 ∧
      (run texts commands).2 = (PlainText.run plains commands).2 := by
  induction commands generalizing texts plains with
  | nil => exact ⟨h, rfl⟩
  | cons command commands ih =>
    obtain ⟨hstep, hanswer⟩ := refines_step h command
    obtain ⟨hrun, hanswers⟩ := ih hstep
    exact ⟨hrun, congrArg₂ List.cons hanswer hanswers⟩

end

/-- Texts that keep what they are asked for answer like texts that keep only what was set: with that text
where its form is asked for, and with what follows from it in the locale where the other one is. And whatever
is done later on, it makes no difference that they have been asked. -/
theorem run_eq_plain (commands : List TextCommand) :
    (run [] commands).2 = (PlainText.run [] commands).2 ∧
      ∀ later : List TextCommand, (run (run [] commands).1 later).2 =
        (run (run [] (commands.filter (!·.isQuery))).1 later).2 := by
  have hrun (commands : List TextCommand) := refines_run .nil commands
  refine ⟨(hrun commands).2, fun later => ?_⟩
  have hchanges := (hrun (commands.filter (!·.isQuery))).1
  rw [PlainText.run_changes] at hchanges
  exact (refines_run (hrun commands).1 later).2.trans (refines_run hchanges later).2.symm

end FormulaText

end OlapFormula
