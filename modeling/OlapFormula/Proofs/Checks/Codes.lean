import OlapFormula.Proofs.Checks.SameType

/-!
# Codes of checks

The checks of calls speak of functions, of arguments and of the domains of functions, never of names that
cannot be resolved or of the formula as a whole.
-/

namespace OlapFormula

/-- The code is about a call. -/
def MessageCode.IsAboutCalls (code : MessageCode) : Prop := 3000 ≤ code.number ∧ code.number < 5000

instance (code : MessageCode) : Decidable code.IsAboutCalls := inferInstanceAs (Decidable (_ ∧ _))

/-- All messages are about calls. -/
def Message.AreAboutCalls (messages : List Message) : Prop :=
  ∀ message ∈ messages, message.code.IsAboutCalls

namespace Message.AreAboutCalls

lemma nil : AreAboutCalls [] := nofun

lemma single {code : MessageCode} (hcode : code.IsAboutCalls) (text : String) :
    AreAboutCalls [{ code, text }] :=
  fun _ hmessage => List.mem_singleton.mp hmessage ▸ hcode

lemma append {a b : List Message} (ha : AreAboutCalls a) (hb : AreAboutCalls b) : AreAboutCalls (a ++ b) :=
  List.forall_mem_append.mpr ⟨ha, hb⟩

lemma flatMap {α : Type} {xs : List α} {f : α → List Message} (h : ∀ x ∈ xs, AreAboutCalls (f x)) :
    AreAboutCalls (xs.flatMap f) := by
  intro message hmessage
  obtain ⟨x, hx, hmessage⟩ := List.mem_flatMap.mp hmessage
  exact h x hx message hmessage

lemma map {α : Type} {xs : List α} {f : α → Message} (h : ∀ x, (f x).code.IsAboutCalls) :
    AreAboutCalls (xs.map f) :=
  List.forall_mem_map.mpr fun x _ => h x

/-- Whether a fault is found or not. -/
lemma ite {p : Prop} [Decidable p] {a b : List Message} (ha : AreAboutCalls a) (hb : AreAboutCalls b) :
    AreAboutCalls (if p then a else b) := by
  split
  · exact ha
  · exact hb

lemma eachArgument {call : CallSite} {check : Nat → Node → List Message}
    (h : ∀ position arg, AreAboutCalls (check position arg)) : AreAboutCalls (call.eachArgument check) :=
  Checks.forall_mem_eachArgument h

lemma withItem {call : CallSite} {check : FunctionItem → List Message}
    (h : ∀ item, AreAboutCalls (check item)) : AreAboutCalls (call.withItem check) := by
  unfold CallSite.withItem
  split
  · exact h _
  · exact nil

end Message.AreAboutCalls

open Message Message.AreAboutCalls

namespace Checks

lemma areAboutCalls_countMessage (item : FunctionItem) (count : Nat) :
    AreAboutCalls [countMessage item count] := by
  unfold countMessage
  dsimp only
  split
  · exact single (by decide) _
  · split
    · exact single (by decide) _
    · exact single (by decide) _

lemma areAboutCalls_mismatchMessages (item : FunctionItem) (found : List Mismatch) :
    AreAboutCalls (mismatchMessages item found) := by
  have hmap (found : List Mismatch) : AreAboutCalls (found.map (mismatchMessage item)) :=
    map fun _ => show MessageCode.typeMismatch.IsAboutCalls by decide
  unfold mismatchMessages
  split
  · exact ite (single (by decide) _) (hmap _)
  · exact hmap _

lemma areAboutCalls_measureArgument (kind : FunctionKind) (node : Node) :
    AreAboutCalls (measureArgument kind node) := by
  unfold measureArgument
  split
  · exact nil
  · exact ite nil (single (by decide) _)
  · exact ite nil (single (by decide) _)

lemma areAboutCalls_hierarchies (refs : List DimensionRef) : AreAboutCalls (hierarchies refs) :=
  ite (single (by decide) _) nil

lemma areAboutCalls_filters (nodes : List Node) : AreAboutCalls (filters nodes) := by
  refine append (append (append (flatMap fun node _ => ?_) (map fun _ => ?_)) ?_) (flatMap fun filter _ => ?_)
  · exact ite nil (single (by decide) _)
  · exact show MessageCode.duplicateMember.IsAboutCalls by decide
  · exact areAboutCalls_hierarchies _
  · exact ite (single (by decide) _) nil

lemma areAboutCalls_axesAfter (kind : FunctionKind) (seen : List DimensionRef) (nodes : List Node) :
    AreAboutCalls (axesAfter kind seen nodes).1 := by
  induction nodes generalizing seen with
  | nil => exact nil
  | cons node nodes ih =>
    unfold axesAfter
    split
    · exact append (single (by decide) _) (ih seen)
    · split
      · exact append (single (by decide) _) (ih seen)
      · exact ih _

lemma areAboutCalls_axes (kind : FunctionKind) (nodes : List Node) : AreAboutCalls (axes kind nodes) :=
  append (areAboutCalls_axesAfter kind [] nodes) (areAboutCalls_hierarchies _)

lemma areAboutCalls_members (kind : FunctionKind) (args : List Node) : AreAboutCalls (members kind args) := by
  unfold members
  split
  · exact nil
  · refine append (areAboutCalls_measureArgument kind _) ?_
    split
    · exact areAboutCalls_filters _
    · exact areAboutCalls_axes _ _
    · exact areAboutCalls_axes _ _
    · exact nil

lemma areAboutCalls_constants (kind : FunctionKind) (args : List Node) :
    AreAboutCalls (constants kind args) := by
  unfold constants
  split
  · exact ite (single (by decide) _) nil
  · exact ite (single (by decide) _) nil
  · unfold power
    split
    · exact ite (single (by decide) _) (ite (single (by decide) _) nil)
    · exact nil
  · exact ite (single (by decide) _) nil
  · exact ite (single (by decide) _) nil
  · exact ite (single (by decide) _) nil
  · exact ite nil (single (by decide) _)
  · exact nil

end Checks

namespace Check

open Checks

lemma areAboutCalls_messages (flags : FeatureFlags) (call : CallSite) (check : Check) :
    AreAboutCalls (check.messages flags call) := by
  cases check with
  | knownFunction =>
    show AreAboutCalls (Checks.knownFunction call)
    unfold Checks.knownFunction
    split
    · exact nil
    · exact single (by decide) _
  | arity => exact withItem fun item => ite nil (areAboutCalls_countMessage item _)
  | stringUsage =>
    exact withItem fun item => ite nil (eachArgument fun _ _ => ite (single (by decide) _) nil)
  | dimensionUsage =>
    exact withItem fun item => flatMap fun ref _ =>
      ite (single (by decide) _) (ite (single (by decide) _) nil)
  | argumentTypes => exact withItem fun item => areAboutCalls_mismatchMessages item _
  | mixedList =>
    show AreAboutCalls (Checks.mixedList call)
    unfold Checks.mixedList
    split
    · exact ite (single (by decide) _) nil
    · exact nil
  | item =>
    refine withItem fun item => ?_
    unfold itemMessages
    split
    · exact areAboutCalls_members _ _
    · exact areAboutCalls_constants _ _
  | sameType =>
    refine withItem fun item => eachArgument fun position arg => ?_
    split
    · exact nil
    · split
      · exact nil
      · exact ite nil (single (by decide) _)

/-- Whatever the checks say is about the call. -/
theorem areAboutCalls_run (flags : FeatureFlags) (call : CallSite) (checks : List Check) :
    AreAboutCalls (run flags call checks).1 := by
  induction checks with
  | nil => exact nil
  | cons check checks ih =>
    unfold run
    dsimp only
    split
    · exact areAboutCalls_messages flags call check
    · exact append (areAboutCalls_messages flags call check) ih

end Check

end OlapFormula
