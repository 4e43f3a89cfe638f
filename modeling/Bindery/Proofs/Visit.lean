import Bindery.Generation

/-!
# Single visits

A visit is known by the meaning of the declaration: without one only a report is added, and with
one the meaning is carried out and its blocks are written. Runs are then taken apart at their last
declaration.
-/

namespace Bindery

namespace Generation

variable {corpus : Corpus} {mode : UnionMode} {g : Generation} {l : Located}

/-- The outcome of a declaration is that of carrying its meaning out. -/
theorem outcome_eq (corpus : Corpus) (mode : UnionMode) (g : Generation) (l : Located) :
    g.outcome corpus mode l = (g.context.carryOut
      (Meaning.ofDeclaration corpus mode g.context.handles l.declaration)).1 := by
  rw [outcome, Action.perform_ofDeclaration]

/-- A declaration fails exactly when no meaning is found for it. -/
theorem outcome_eq_error_iff {fault : BindingFault} :
    g.outcome corpus mode l = .error fault ↔
      Meaning.ofDeclaration corpus mode g.context.handles l.declaration = .error fault := by
  rw [outcome_eq]
  cases Meaning.ofDeclaration corpus mode g.context.handles l.declaration <;>
    simp [Context.carryOut]

/-- A declaration that succeeds gives the blocks of its meaning. -/
theorem outcome_eq_ok_iff {blocks : List Text} :
    g.outcome corpus mode l = .ok blocks ↔
      ∃ meaning, Meaning.ofDeclaration corpus mode g.context.handles l.declaration = .ok meaning ∧
        (g.context.apply meaning).1 = blocks := by
  rw [outcome_eq]
  cases Meaning.ofDeclaration corpus mode g.context.handles l.declaration <;>
    simp [Context.carryOut]

/-- Of a declaration without a meaning there is only the report. -/
theorem visit_of_error {fault : BindingFault}
    (h : Meaning.ofDeclaration corpus mode g.context.handles l.declaration = .error fault) :
    g.visit corpus mode l = { g with diagnostics := g.diagnostics ++ [fault.diagnostic l] } := by
  rw [visit, Action.perform_ofDeclaration, h]
  rfl

/-- A meaning is carried out, and its blocks go to the module that is current then. -/
theorem visit_of_ok {meaning : Meaning}
    (h : Meaning.ofDeclaration corpus mode g.context.handles l.declaration = .ok meaning) :
    g.visit corpus mode l =
      { g with
        context := (g.context.apply meaning).2
        output := g.output.emit (g.context.apply meaning).2.destination
          (g.context.apply meaning).1 } := by
  rw [visit, Action.perform_ofDeclaration, h]
  rfl

end Generation

variable {corpus : Corpus} {options : GenerationOptions} {ls : List Located} {l : Located}

/-- A run ends with the visit of its last declaration. -/
theorem generate_concat : generate corpus options (ls ++ [l]) =
    (generate corpus options ls).visit corpus options.unionMode l := by
  rw [generate, generate, Generation.run_append]
  rfl

/-- The run up to a declaration goes on with the visit of that declaration. -/
theorem generate_take_succ {i : Nat} (h : ls[i]? = some l) :
    generate corpus options (ls.take (i + 1)) =
      (generate corpus options (ls.take i)).visit corpus options.unionMode l := by
  rw [List.take_add_one, h, Option.toList_some, generate_concat]

end Bindery
