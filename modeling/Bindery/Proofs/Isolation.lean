import Bindery.Proofs.Fault

/-!
# Faulty declarations leave no trace

A declaration that fails adds its report and changes nothing else, although it is carried out in
steps that could. So a run ends where it would have ended without the declarations that failed in
it, reports apart.
-/

namespace Bindery

namespace Generation

variable {corpus : Corpus} {mode : UnionMode}

/-- Of a declaration that fails there is only the report. -/
theorem visit_of_outcome_error {g : Generation} {l : Located} {fault : BindingFault}
    (h : g.outcome corpus mode l = .error fault) :
    g.visit corpus mode l = { g with diagnostics := g.diagnostics ++ [fault.diagnostic l] } :=
  visit_of_error (outcome_eq_error_iff.mp h)

/-- A run without its reports. -/
def withoutReports (g : Generation) : Generation := { g with diagnostics := [] }

/-- Reports do not matter to a declaration that succeeds. -/
theorem visit_withoutReports_of_ok {g : Generation} {l : Located} {blocks : List Text}
    (h : g.outcome corpus mode l = .ok blocks) :
    g.withoutReports.visit corpus mode l = (g.visit corpus mode l).withoutReports := by
  obtain ⟨meaning, hmeaning, _⟩ := outcome_eq_ok_iff.mp h
  have hwithout : Meaning.ofDeclaration corpus mode g.withoutReports.context.handles
      l.declaration = .ok meaning := hmeaning
  rw [visit_of_ok hmeaning, visit_of_ok hwithout]
  rfl

/-- The declarations that do not fail when they are visited in order. -/
def succeeding (corpus : Corpus) (mode : UnionMode) : Generation → List Located → List Located
  | _, [] => []
  | g, l :: ls =>
    match g.outcome corpus mode l with
    | .ok _ => l :: succeeding corpus mode (g.visit corpus mode l) ls
    | .error _ => succeeding corpus mode (g.visit corpus mode l) ls

/-- Without the declarations that fail, a run gets to the same place and has no reports. -/
theorem run_succeeding (g : Generation) (ls : List Located) :
    g.withoutReports.run corpus mode (g.succeeding corpus mode ls) =
      (g.run corpus mode ls).withoutReports := by
  induction ls generalizing g with
  | nil => rfl
  | cons l ls ih =>
    have hrun : g.run corpus mode (l :: ls) = (g.visit corpus mode l).run corpus mode ls := rfl
    rw [succeeding, hrun, ← ih]
    cases h : g.outcome corpus mode l with
    | ok blocks =>
      have hstep : ∀ ms, g.withoutReports.run corpus mode (l :: ms) =
          (g.withoutReports.visit corpus mode l).run corpus mode ms := fun _ => rfl
      rw [hstep, visit_withoutReports_of_ok h]
    | error fault =>
      -- The report is all that is new, and it is not compared.
      rw [visit_of_outcome_error h]
      rfl

/-- The declarations that do not fail in a run are those without a fault of their own. -/
theorem succeeding_eq_filter (g : Generation) (ls : List Located) :
    g.succeeding corpus mode ls =
      ls.filter fun l => (l.declaration.fault? corpus.size mode).isNone := by
  induction ls generalizing g with
  | nil => rfl
  | cons l ls ih =>
    rw [succeeding, List.filter_cons, ih]
    cases h : g.outcome corpus mode l with
    | ok blocks =>
      have hfault : l.declaration.fault? corpus.size mode = none := by
        rw [Option.eq_none_iff_forall_ne_some]
        intro fault hfault
        have herror : g.outcome corpus mode l = .error fault :=
          outcome_eq_error_iff.mpr (Declaration.fault?_eq_some_iff_ofDeclaration.mp hfault)
        rw [h] at herror
        cases herror
      rw [hfault]
      rfl
    | error fault =>
      have hfault : l.declaration.fault? corpus.size mode = some fault :=
        Declaration.fault?_eq_some_iff_ofDeclaration.mpr (outcome_eq_error_iff.mp h)
      rw [hfault]
      rfl

end Generation

/-- A declaration that fails in a run leaves the handles, the waiting comment, the current module
and all texts as they were and adds one report. So the run ends as if the declarations that fail
in it had not been there, but for the reports. -/
theorem generate_isolates_faults (corpus : Corpus) (options : GenerationOptions)
    (ls : List Located) :
    (∀ (i : Nat) (l : Located) (fault : BindingFault), ls[i]? = some l →
      (generate corpus options (ls.take i)).outcome corpus options.unionMode l = .error fault →
      generate corpus options (ls.take (i + 1)) =
        { context := (generate corpus options (ls.take i)).context
          output := (generate corpus options (ls.take i)).output
          diagnostics :=
            (generate corpus options (ls.take i)).diagnostics ++ [fault.diagnostic l] }) ∧
    generate corpus options
        ((Generation.start options).succeeding corpus options.unionMode ls) =
      { context := (generate corpus options ls).context
        output := (generate corpus options ls).output
        diagnostics := [] } := by
  constructor
  · intro i l fault hl hfault
    rw [generate_take_succ hl, Generation.visit_of_outcome_error hfault]
  · exact Generation.run_succeeding (Generation.start options) ls

/-- A comment for a handle, with a structure in between that cannot be bound. -/
def interruptedHeader : List Located :=
  [{ declaration := .enumeration (some "doc1") none },
    { declaration := .struct ⟨"sfBroken", [⟨"int", none⟩]⟩ },
    { declaration := .handle "sfWindow" }]

/-- The structure fails, and the comment still waits for the handle. -/
theorem generate_isolates_faults_interruptedHeader :
    (generate ⟨["A window"]⟩ {} (interruptedHeader.take 1)).outcome ⟨["A window"]⟩ .object
      { declaration := .struct ⟨"sfBroken", [⟨"int", none⟩]⟩ } =
        .error (.unnamedField "sfBroken") ∧
    (generate ⟨["A window"]⟩ {} (interruptedHeader.take 2)).context =
      (generate ⟨["A window"]⟩ {} (interruptedHeader.take 1)).context ∧
    (generate ⟨["A window"]⟩ {} (interruptedHeader.take 1)).context.pending =
      some (Text.ofString "A window") ∧
    (generate ⟨["A window"]⟩ {} interruptedHeader).output.text? "main" =
      some (Text.ofString "type Window* = ptr object\n  ## A window\n") := by
  have hfault : (generate ⟨["A window"]⟩ {} (interruptedHeader.take 1)).outcome ⟨["A window"]⟩
      .object { declaration := .struct ⟨"sfBroken", [⟨"int", none⟩]⟩ } =
        .error (.unnamedField "sfBroken") :=
    Generation.outcome_eq_error_iff.mpr (by with_unfolding_all decide)
  have hvisit := (generate_isolates_faults ⟨["A window"]⟩ {} interruptedHeader).1 1 _ _ rfl hfault
  refine ⟨hfault, ?_, by with_unfolding_all decide, by with_unfolding_all decide⟩
  rw [hvisit]

end Bindery
