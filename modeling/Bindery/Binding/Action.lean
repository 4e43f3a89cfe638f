import Bindery.Binding.Meaning

/-!
# Carrying declarations out

A declaration is carried out in steps that read and change what later declarations depend on. A
step may fail, which ends the declaration there; what was changed before stays changed. That a
fault leaves no trace is therefore a matter of the order of the steps: all that can fail comes
before all that changes anything, and what is done in the end is what the declaration means.
-/

namespace Bindery

/-- Steps that may fail, on what later declarations depend on. -/
abbrev Action (α : Type) := ExceptT BindingFault (StateM Context) α

namespace Action

/-- Carry out some steps: what they give, or why they fail, and what they leave behind. -/
def perform (a : Action α) (c : Context) : Except BindingFault α × Context :=
  (StateT.run (ExceptT.run a) c).run

/-- Something found without a look at what was declared before, or a fault. -/
def result (e : Except BindingFault α) : Action α := ExceptT.mk (pure e)

/-- Something found in the light of the handles declared so far, or a fault. -/
def find (f : Handles → Except BindingFault α) : Action α := do result (f (← get).handles)

/-- Change what later declarations depend on. -/
def update (f : Context → α × Context) : Action α := modifyGet f

@[simp] theorem perform_result (e : Except BindingFault α) (c : Context) :
    (result e).perform c = (e, c) := rfl

@[simp] theorem perform_find (f : Handles → Except BindingFault α) (c : Context) :
    (find f).perform c = (f c.handles, c) := rfl

/-- What follows some steps is carried out behind them if they succeed, and not at all if they
fail. -/
theorem perform_bind (a : Action α) (f : α → Action β) (c : Context) :
    (a >>= f).perform c =
      match a.perform c with
      | (.ok x, c') => (f x).perform c'
      | (.error fault, c') => (.error fault, c') := by
  simp only [perform, ExceptT.run_bind, StateT.run_bind, Id.run_bind]
  cases (StateT.run (ExceptT.run a) c).run with
  | mk e c' => cases e <;> rfl

/-- Take the comment for a declaration. -/
def takeComment : Action (Option Text) := update Context.takeComment

/-- Remember a handle. -/
def declare (name : Text) : Action Unit :=
  update fun c => ((), { c with handles := c.handles.insert name })

/-- Keep a text for the next declaration that takes a comment. -/
def keep (t : Text) : Action Unit := update fun c => ((), { c with pending := some t })

/-- Go on in another module. -/
def goTo (key : Text) : Action Unit := update fun c => ((), { c with destination := key })

/-- The blocks of a binding, with its comment if it takes one. -/
def write (b : Binding) : Action (List Text) := do
  if b.takesComment then return b.blocks (← takeComment) else return b.blocks none

/-- Writing a binding out takes the comment exactly when there is a place for it. -/
@[simp] theorem perform_write (b : Binding) (c : Context) :
    (write b).perform c = (.ok (c.place b).1, (c.place b).2) := by
  unfold write Context.place
  cases b.takesComment <;> rfl

/-- Follow a marker. -/
def ofMarker (corpus : Corpus) (name : Text) : Action (List Text) := do
  match ← result (Marker.ofName name) with
  | .block number =>
    keep (Markup.commentText (← result (corpus.block number)))
    return []
  | .destination key banner =>
    goTo key
    return [banner]

/-- Introduce a handle, which is remembered before its comment is taken. -/
def ofHandle (name : Text) : Action (List Text) := do
  let bare ← result (bareName name)
  let b ← result (bindHandle name)
  declare bare
  write b

/-- Carry out a declaration: the blocks it gives. -/
def ofDeclaration (corpus : Corpus) (mode : UnionMode) : Declaration → Action (List Text)
  | .function s => do write (← find (bindFunction · s))
  | .callback s => do write (← find (bindCallback · s))
  | .alias name target => write (bindAlias name target)
  | .enumeration (some name) (some items) => do write (← result (bindEnumeration name items))
  | .enumeration none (some items) => do write (← result (bindConstants items))
  | .enumeration (some name) none => ofMarker corpus name
  | .enumeration none none => result (.error .emptyEnumeration)
  | .struct r => do write (← find (bindStruct · r))
  | .union r => do write (← find (bindUnion · mode r))
  | .handle name => ofHandle name

/-- What a binding is found for means that binding; without one nothing has changed. -/
theorem perform_bind_write {a : Action Binding} {c : Context} {e : Except BindingFault Binding}
    (h : a.perform c = (e, c)) :
    (a >>= write).perform c = c.carryOut (e.map .binding) := by
  rw [perform_bind, h]
  cases e with
  | error fault => rfl
  | ok b => exact perform_write b c

/-- Following a marker does what the marker means. -/
theorem perform_ofMarker (corpus : Corpus) (name : Text) (c : Context) :
    (ofMarker corpus name).perform c =
      c.carryOut (Marker.ofName name >>= Meaning.ofMarker corpus) := by
  unfold ofMarker
  rw [perform_bind, perform_result]
  cases Marker.ofName name with
  | error fault => rfl
  | ok m =>
    cases m with
    | destination key banner => rfl
    | block number =>
      change Action.perform (result (corpus.block number) >>= fun block => _) c =
        c.carryOut (corpus.block number >>= fun block => _)
      rw [perform_bind, perform_result]
      cases corpus.block number <;> rfl

/-- Introducing a handle does what its declaration means. -/
theorem perform_ofHandle (name : Text) (c : Context) :
    (ofHandle name).perform c =
      c.carryOut (do return .handle (← bareName name) (← bindHandle name)) := by
  unfold ofHandle
  rw [perform_bind, perform_result]
  cases bareName name with
  | error fault => rfl
  | ok bare =>
    change Action.perform (result (bindHandle name) >>= fun b => _) c =
      c.carryOut (bindHandle name >>= fun b => _)
    rw [perform_bind, perform_result]
    cases bindHandle name with
    | error fault => rfl
    | ok b => exact perform_write b _

/-- What the steps of a declaration do in the end is what it means; a declaration without a
meaning has changed nothing when it fails. -/
theorem perform_ofDeclaration (corpus : Corpus) (mode : UnionMode) (d : Declaration)
    (c : Context) :
    (ofDeclaration corpus mode d).perform c =
      c.carryOut (Meaning.ofDeclaration corpus mode c.handles d) := by
  cases d with
  | function s => exact perform_bind_write (perform_find _ c)
  | callback s => exact perform_bind_write (perform_find _ c)
  | «alias» name target => exact perform_write _ c
  | enumeration name items =>
    cases name with
    | none =>
      cases items with
      | none => rfl
      | some items => exact perform_bind_write (perform_result _ c)
    | some name =>
      cases items with
      | none => exact perform_ofMarker corpus name c
      | some items => exact perform_bind_write (perform_result _ c)
  | struct r => exact perform_bind_write (perform_find _ c)
  | union r => exact perform_bind_write (perform_find _ c)
  | handle name => exact perform_ofHandle name c

end Action

end Bindery
