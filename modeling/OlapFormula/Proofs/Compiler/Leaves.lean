import OlapFormula.Proofs.Compiler.Kept

/-!
# The leaves of accepted formulas

A property of references and restricted measures holds everywhere in the root of an accepted formula, if
references that are resolved have it and the restricted measures that calls of `RESTRICT` stand for.
-/

namespace OlapFormula

open Node

variable {P : Node → Prop}

namespace Construction

variable {settings : Settings} {model : Model} {R : FieldReference → Prop}

/-- What a leafwise property has to be true of, that it is true everywhere. -/
structure IsInherited (settings : Settings) (model : Model) (R : FieldReference → Prop)
    (P : Node → Prop) : Prop where
  leafwise : IsLeafwise P
  field : ∀ reference, R reference → Message.hasErrors (ofField model reference).2 = false →
    P (ofField model reference).1
  restricted : ∀ name item base filters derived, Resolves settings model name item →
    item.kind = .restrict → (∀ arg ∈ base :: filters, IsSettledWith settings.dateOrder P arg) →
    Passes settings name item (base :: filters) →
    RestrictedMeasure.ofArgs? base filters = some derived → P (.restricted derived)

lemma IsInherited.isEstablished (h : IsInherited settings model R P) :
    IsEstablished settings model R (fun _ => True) P where
  kept := h.leafwise.isKept
  field := h.field
  call _ _ _ _ _ _ := h.leafwise.call _ _
  compares _ _ _ _ _ _ _ hcompares := by
    obtain ⟨_, _, _, _, -, -, -, ⟨-, rfl⟩ | ⟨-, rfl⟩⟩ := hcompares.exists_element
    · exact h.leafwise.call _ _
    · exact h.leafwise.call _ _
  restricted := h.restricted

end Construction

namespace Compiler

/-- An inherited property holds everywhere in what the compiler accepts. -/
theorem everywhere_root {compiler : Compiler} {editing : Option String} {text : String}
    {compiled : CompiledFormula} {R : FieldReference → Prop}
    (hP : Construction.IsInherited compiler.settings compiler.model R P)
    (hfields : ∀ e, Expr.parse compiler.settings.limits text = .ok e → ∀ r ∈ e.fields, R r)
    (h : compiler.compile editing text = .ok compiled) : Everywhere P compiled.root :=
  everywhere_root_of_established hP.isEstablished hfields (fun _ _ _ _ => trivial) h

end Compiler

end OlapFormula
