import OlapFormula.Proofs.Compiler.Accepted
import OlapFormula.Proofs.Lowering.Normal

/-!
# Accepted formulas are in normal form

A formula is lowered call by call, and casts are put around what is lowered already. The root of an
accepted formula is a normal form all the same.
-/

namespace OlapFormula

open Node

variable {order : DateOrder}

namespace Node

/-- A number under `FLOAT` stays there. -/
lemma isNormal_float {node : Node} (h : IsNormal order node)
    (hboolean : ∀ b, node ≠ .const (.boolean b)) : IsNormal order (.call .float [node]) := by
  apply isNormal_call
  · simpa using h
  · rfl
  · cases node with
    | const value =>
      cases value with
      | boolean b => exact absurd rfl (hboolean b)
      | number _ | string _ | null => rfl
    | constList _ | dimension _ | measure _ | call _ _ | array _ | restricted _ => rfl

/-- What numbers keep under `FLOAT` is kept when arguments are prepared. -/
lemma forall_mem_prepare {P : Node → Prop}
    (hcast : ∀ n, P (.const (.number n)) → P (.call .float [.const (.number n)])) (kind : FunctionKind)
    {args : List Node} (h : ∀ arg ∈ args, P arg) : ∀ arg ∈ kind.prepare args, P arg := by
  have hinteger {node : Node} (hnode : P node) : P node.castInteger := by
    unfold castInteger
    split
    · split
      · exact hcast _ hnode
      · exact hnode
    · exact hnode
  have hcasts : ∀ arg ∈ castIntegers args, P arg := by
    unfold castIntegers
    split
    · exact List.forall_mem_map.mpr fun node hnode => hinteger (h node hnode)
    · exact h
  cases kind <;> first | exact hcasts | exact h

lemma isNormal_prepare (kind : FunctionKind) {args : List Node}
    (h : ∀ arg ∈ args, IsNormal order arg) : ∀ arg ∈ kind.prepare args, IsNormal order arg :=
  forall_mem_prepare (fun _ hn => isNormal_float hn nofun) kind h

end Node

namespace Construction

lemma invariant_isNormal (settings : Settings) (model : Model) :
    Invariant settings model (fun _ => True) (fun _ => True) (IsNormal settings.dateOrder) where
  const := isNormal_const
  field reference _ _ := by
    have hmeasure : IsNormal settings.dateOrder (ofMeasure model reference).1 := isNormal_measure _
    have hdimension : IsNormal settings.dateOrder (ofDimension model reference).1 := by
      unfold ofDimension
      split
      · exact isNormal_dimension _
      · exact isNormal_dimension _
    unfold ofField
    split
    · exact hmeasure
    · exact hmeasure
    · exact hdimension
    · exact isNormal_dimension _
    · exact isNormal_dimension _
  list _ := isNormal_list
  call _ item _ _ _ hargs _ := isNormal_lowerRoot (isNormal_prepare item.kind hargs)

/-- The root of a formula is what was built, or its cast to a number. -/
lemma checkRoot_of_casts {P : Node → Prop} {root : Node} (hroot : P root)
    (hint : P ((Node.call .int [root]).lowerRoot order))
    (hfloat : ((Node.call .int [root]).lowerRoot order).isLiteral = false →
      P (.call .float [(Node.call .int [root]).lowerRoot order])) :
    P (checkRoot order root).1 := by
  have hcast : P (castRoot order root) := by
    unfold castRoot
    dsimp only
    split
    · exact hint
    · next hliteral => exact hfloat (Bool.eq_false_iff.mpr hliteral)
  unfold checkRoot
  dsimp only
  split
  · exact hroot
  · split
    · exact hcast
    · split
      · exact hroot
      · exact hroot

lemma isNormal_checkRoot {root : Node} (h : IsNormal order root) :
    IsNormal order (checkRoot order root).1 := by
  have hint : IsNormal order ((Node.call .int [root]).lowerRoot order) :=
    isNormal_lowerRoot (by simpa using h)
  refine checkRoot_of_casts h hint fun hliteral => isNormal_float hint fun b hb => ?_
  rw [hb] at hliteral
  cases hliteral

end Construction

namespace Compiler

lemma isNormal_root {compiler : Compiler} {editing : Option String} {text : String}
    {compiled : CompiledFormula} (h : compiler.compile editing text = .ok compiled) :
    IsNormal compiler.settings.dateOrder compiled.root := by
  obtain ⟨e, -, hmessages, -, hroot⟩ := exists_build h
  rw [hroot]
  apply Construction.isNormal_checkRoot
  exact (Construction.invariant_isNormal _ _).build e (fun _ _ => trivial) (fun _ _ => trivial)
    hmessages

end Compiler

/-- Lowering gives normal forms, does nothing to a normal form, and is not cut short by its budget; what
the compiler accepts is a normal form as well. -/
theorem Node.lower_isNormal :
    (∀ (order : DateOrder) (node : Node),
      IsNormal order (lower order node) ∧
        lower order (lower order node) = lower order node ∧
        ∀ budget, 2 ≤ budget → bottomUp (lowerWithin order budget) node = lower order node) ∧
    ∀ (compiler : Compiler) (editing : Option String) (text : String) (compiled : CompiledFormula),
      compiler.compile editing text = .ok compiled →
        IsNormal compiler.settings.dateOrder compiled.root ∧
          lower compiler.settings.dateOrder compiled.root = compiled.root := by
  constructor
  · intro order node
    have hnormal := isNormal_lower order node
    exact ⟨hnormal, hnormal.lower_eq, fun budget => bottomUp_eq_lower order node⟩
  · intro compiler editing text compiled h
    have hnormal := Compiler.isNormal_root h
    exact ⟨hnormal, hnormal.lower_eq⟩

theorem Node.lower_isNormal_of_dates :
    let compiler : Compiler :=
      { model := .ofMembers .hana [{ id := "Time", dateLike := true }] [{ id := "Sales" }] }
    let node : Node := .call .isIn [.dimension ⟨.dimension "Time", compiler.model.dimension? "Time"⟩,
      .constList [.string "2024-03-15", .string "3/2024"]]
    let text := "RESTRICT([Sales], [d/Time] IN \x7b\"2024-03-15\", \"3/2024\"\x7d) / 2"
    bottomUp (lowerWithin .monthFirst 2) node = lower .monthFirst node ∧
      ∃ compiled, compiler.compile none text = .ok compiled ∧
        lower .monthFirst compiled.root = compiled.root := by
  intro compiler node text
  refine ⟨(Node.lower_isNormal.1 .monthFirst node).2.2 2 (Nat.le_refl 2), ?_⟩
  obtain ⟨compiled, hcompiled⟩ := Compiler.exists_compiled
    (show (compiler.compile none text).isOk = true by decide +kernel)
  exact ⟨compiled, hcompiled, (Node.lower_isNormal.2 compiler none _ compiled hcompiled).2⟩

end OlapFormula
