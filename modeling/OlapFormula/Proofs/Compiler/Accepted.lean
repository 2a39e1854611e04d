import OlapFormula.Compiler
import OlapFormula.Proofs.Construction.Invariant

/-!
# Accepted formulas

What it means that a formula is compiled: it is read, its root is built without an error, and no measure
comes to depend on itself.
-/

namespace OlapFormula

namespace Dependency

lemma hasErrors_guard (model : Model) (editing : String) (root : Node) :
    Message.hasErrors (guard model editing root) = false ↔ guard model editing root = [] := by
  unfold guard
  dsimp only
  split
  · simp [Message.hasErrors, Message.isError, cycleMessage, MessageCode.severity]
  · simp [Message.hasErrors]

end Dependency

namespace Compiler

/-- Exactly the formulas that are read, built without errors and free of cycles are accepted. -/
theorem compile_eq_ok_iff {compiler : Compiler} {editing : Option String} {text : String}
    {compiled : CompiledFormula} :
    compiler.compile editing text = .ok compiled ↔
      ∃ e, Expr.parse compiler.settings.limits text = .ok e ∧
        Message.hasErrors (Construction.buildRoot compiler.settings compiler.model e).2 = false ∧
        (∀ measure, editing = some measure → Dependency.guard compiler.model measure
          (Construction.buildRoot compiler.settings compiler.model e).1 = []) ∧
        compiled =
          { root := (Construction.buildRoot compiler.settings compiler.model e).1
            messages := (Construction.buildRoot compiler.settings compiler.model e).2
            derived := (Construction.buildRoot compiler.settings compiler.model e).1.derivedMeasures } := by
  unfold compile run
  cases hparse : Expr.parse compiler.settings.limits text with
  | error e => simp
  | ok e =>
    simp only [Except.ok.injEq, exists_eq_left']
    generalize Construction.buildRoot compiler.settings compiler.model e = built
    obtain ⟨root, messages⟩ := built
    cases editing with
    | none =>
      simp only [List.append_nil, reduceCtorEq, false_implies, implies_true, true_and]
      by_cases herrors : Message.hasErrors messages
      · simp [herrors]
      · simp only [herrors, Bool.false_eq_true, if_false, Except.ok.injEq, true_and]
        exact eq_comm
    | some measure =>
      have hguard := Dependency.hasErrors_guard compiler.model measure root
      simp only [Message.hasErrors_append, Option.some.injEq, forall_eq']
      by_cases herrors : Message.hasErrors messages
      · simp [herrors]
      · by_cases hcycle : Dependency.guard compiler.model measure root = []
        · have hnone : Message.hasErrors [] = false := rfl
          simp only [herrors, hcycle, hnone, Bool.or_false, Bool.false_eq_true, if_false,
            Except.ok.injEq, List.append_nil, true_and]
          exact eq_comm
        · have hfound : Message.hasErrors (Dependency.guard compiler.model measure root) = true := by
            simpa using hguard.not.mpr hcycle
          simp [hfound, hcycle]

lemma exists_build {compiler : Compiler} {editing : Option String} {text : String}
    {compiled : CompiledFormula} (h : compiler.compile editing text = .ok compiled) :
    ∃ e, Expr.parse compiler.settings.limits text = .ok e ∧
      Message.hasErrors (Construction.build compiler.settings compiler.model e).2 = false ∧
      Message.hasErrors (Construction.checkRoot compiler.settings.dateOrder
        (Construction.build compiler.settings compiler.model e).1).2 = false ∧
      compiled.root = (Construction.checkRoot compiler.settings.dateOrder
        (Construction.build compiler.settings compiler.model e).1).1 := by
  obtain ⟨e, hparse, hmessages, -, rfl⟩ := compile_eq_ok_iff.mp h
  have hroot : (Construction.buildRoot compiler.settings compiler.model e).2 =
      (Construction.build compiler.settings compiler.model e).2 ++
        (Construction.checkRoot compiler.settings.dateOrder
          (Construction.build compiler.settings compiler.model e).1).2 := rfl
  rw [hroot, Message.hasErrors_append, Bool.or_eq_false_iff] at hmessages
  exact ⟨e, hparse, hmessages.1, hmessages.2, rfl⟩

/-- It can be computed whether a formula is accepted. -/
lemma exists_compiled {compiler : Compiler} {editing : Option String} {text : String}
    (h : (compiler.compile editing text).isOk = true) :
    ∃ compiled, compiler.compile editing text = .ok compiled := by
  cases hcompile : compiler.compile editing text with
  | error messages =>
    rw [hcompile] at h
    cases h
  | ok compiled => exact ⟨compiled, rfl⟩

/-- So can be what is true of an accepted formula. -/
lemma exists_compiled_and {compiler : Compiler} {editing : Option String} {text : String}
    {p : CompiledFormula → Prop} [DecidablePred p]
    (h : (compiler.compile editing text).toOption.any (fun compiled => decide (p compiled)) = true) :
    ∃ compiled, compiler.compile editing text = .ok compiled ∧ p compiled := by
  cases hcompile : compiler.compile editing text with
  | error messages =>
    rw [hcompile] at h
    cases h
  | ok compiled =>
    rw [hcompile] at h
    exact ⟨compiled, rfl, of_decide_eq_true h⟩

end Compiler

end OlapFormula
