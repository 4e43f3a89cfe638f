import Bindery.Header.Content

/-!
# Outcomes

What becomes of the parts of an item: each gives declarations or a fault, and stands somewhere.
Parts that follow one another are placed by the widths of their tokens, so that their ranges follow
one another too, and everything further on is the same further on.
-/

namespace Bindery.Header

/-- What became of a part of an item: its declarations or its fault, and where it stands. -/
structure Outcome where
  /-- Its declarations, or its fault. -/
  result : Except Fault (List Declaration)
  /-- Where it stands. -/
  span : Span

namespace Outcome

/-- The outcome of a content that was read from some tokens, from an offset on. -/
def ofContent (offset : Nat) (c : Content) (ts : List Token) : Outcome :=
  ⟨c.declarations, Token.spanFrom offset (if c.leavesSemicolon then ts.dropLast else ts)⟩

/-- The declarations of an outcome. -/
def declarations (o : Outcome) : List Located :=
  match o.result with
  | .ok ds => ds.map (⟨·, o.span⟩)
  | .error _ => []

/-- The report of an outcome, if there is one. -/
def diagnostics (o : Outcome) : List Diagnostic :=
  match o.result with
  | .ok _ => []
  | .error fault => [fault.diagnostic o.span]

end Outcome

/-- Contents with the tokens that each was read from. -/
abbrev Contents := List (Content × List Token)

/-- The outcomes of contents that follow one another, from an offset on. -/
def outcomesFrom (offset : Nat) : Contents → List Outcome
  | [] => []
  | (c, ts) :: rest =>
    Outcome.ofContent offset c ts :: outcomesFrom (offset + Token.widthOf ts) rest

/-- Contents further on have the same outcomes further on. -/
theorem outcomesFrom_append (offset : Nat) (cs ds : Contents) :
    outcomesFrom offset (cs ++ ds) =
      outcomesFrom offset cs ++
        outcomesFrom (offset + (cs.map fun c => Token.widthOf c.2).foldr (· + ·) 0) ds := by
  induction cs generalizing offset with
  | nil => simp [outcomesFrom]
  | cons c cs ih => simp [outcomesFrom, ih, Nat.add_assoc]

/-- The outcomes of an item that is not well formed. -/
def malformed (span : Span) : List Outcome := [⟨.error .malformed, span⟩]

/-- The outcomes of contents of which the last one lacks its semicolon, from an offset on. A tagged
type needs none to be declared, and its absence is reported without a place. -/
def unfinished (offset : Nat) : Contents → List Outcome
  | [] => []
  | [(c, ts)] =>
    if c.leavesSemicolon then Outcome.ofContent offset c ts :: malformed {}
    else malformed (Token.spanFrom offset ts.dropLast)
  | (c, ts) :: rest => Outcome.ofContent offset c ts :: unfinished (offset + Token.widthOf ts) rest

end Bindery.Header
