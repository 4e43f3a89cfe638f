import Bindery.Header.Reading
import Bindery.Proofs.Frontier
import Bindery.Proofs.SplitFrame
import Mathlib.Data.List.Infix

/-!
# Reading an item elsewhere

How an item is read depends on its tokens, and on two things that stand around it. Further on, all
that it gives stands further on. And in a block values may be used as statements that are none at
the outermost level: several with commas between them, or an operator between two operands. That
makes no difference where a declaration fits as well.
-/

namespace Bindery.Header

open Reader

/-- A way to read a part of a header from which no binding is made. -/
def Parse.idle {α : Type} (x : Parse α) : Parse Content := ⟨.nothing, x.weight, x.rest⟩

/-! ## Statements in blocks -/

section Statement

variable (g : Phrases) (top : Bool) (ps : List Piece)

/-- At the outermost level some values are left out. -/
theorem Statement.value_eq :
    Statement.value g top ps =
      ((operation g ps).filter fun y => !(top && y.value)).map fun y =>
        ⟨(), y.weight, y.rest⟩ := by
  have hbind : value g top ps = (operation g ps).flatMap fun y =>
      ((if top && y.value then fail else pure ()) y.rest : List (Parse Unit)).map fun z =>
        { z with weight := y.weight + z.weight } := rfl
  rw [hbind]
  induction operation g ps with
  | nil => rfl
  | cons y ys ih =>
    rw [List.flatMap_cons, ih]
    cases hvalue : top && y.value with
    | false =>
      rw [List.filter_cons_of_pos (by rw [hvalue]; rfl)]
      simp [pure]
    | true =>
      rw [List.filter_cons_of_neg (by rw [hvalue]; exact Bool.false_ne_true)]
      rfl

/-- All other statements are the same at both levels. -/
theorem exists_statement_eq :
    ∃ before after, ∀ top, statement g top ps =
      before ++ (Statement.value g top ps ++ after) :=
  ⟨mark ';' ps ++ block ps, _, fun _ => (List.append_assoc _ _ _).symm⟩

theorem return_nothing_eq (r : Reader Unit) :
    (do r; return Content.nothing : Reader Content) ps = (r ps).map Parse.idle := by
  have hbind : (do r; return Content.nothing : Reader Content) ps =
      (r ps).flatMap fun y => [⟨Content.nothing, y.weight + 0, y.rest⟩] := rfl
  rw [hbind, ← List.map_eq_flatMap]
  simp only [Int.add_zero]
  rfl

/-- So are all other parts of a header. -/
theorem exists_content_eq :
    ∃ before after, ∀ top, content g top ps =
      (declared g ps ++ before) ++
        (((Statement.operation g ps).filter fun y => !(top && y.value)).map Parse.idle ++
          after) := by
  obtain ⟨before, after, hstatement⟩ := exists_statement_eq g ps
  let line : List (Parse Unit) := directive ps ++ conditional (·.block) ps
  let conversion : Reader Content := do conversionDeclaration g; return .untyped
  refine ⟨before.map Parse.idle, after.map Parse.idle ++ (line.map Parse.idle ++ conversion ps),
    fun top => ?_⟩
  have hcontent : content g top ps = declared g ps ++
      ((do (statement g top <|> directive <|> conditional (·.block)); return Content.nothing :
          Reader Content) ps ++ conversion ps) := rfl
  have hchoice : (statement g top <|> directive <|> conditional (·.block) : Reader Unit) ps =
      statement g top ps ++ line := rfl
  rw [hcontent, return_nothing_eq, hchoice, hstatement, Statement.value_eq]
  simp only [List.map_append, List.map_map, List.append_assoc]
  rfl

end Statement

/-- For each value at the front that is a statement in a block only, there is a declaration up to
the same place that fits as well. -/
def FavorsDeclarations (g : Phrases) (rest : List Piece) : Prop :=
  ∀ y ∈ Statement.operation g rest, y.value = true →
    ∃ z ∈ declared g rest, z.place = y.place ∧ y.weight ≤ z.weight

instance (g : Phrases) (rest : List Piece) : Decidable (FavorsDeclarations g rest) :=
  inferInstanceAs (Decidable (∀ y ∈ Statement.operation g rest, y.value = true →
    ∃ z ∈ declared g rest, z.place = y.place ∧ y.weight ≤ z.weight))

theorem FavorsDeclarations.leavesOutMatched {g : Phrases} {rest : List Piece}
    (h : FavorsDeclarations g rest) :
    LeavesOutMatched (content g true) (content g false) rest := by
  obtain ⟨before, after, hcontent⟩ := exists_content_eq g rest
  refine ⟨declared g rest ++ before, after,
    (Statement.operation g rest).map fun y => (!y.value, y.idle), ?_, ?_, ?_⟩
  · rw [hcontent, List.filter_map, List.map_map]
    rfl
  · have hall : ((Statement.operation g rest).filter fun y => !(false && y.value)) =
        Statement.operation g rest := List.filter_eq_self.mpr fun _ _ => rfl
    rw [hcontent, hall, List.map_map]
    rfl
  · intro e he hout
    obtain ⟨y, hy, rfl⟩ := List.mem_map.mp he
    have hvalue : y.value = true := by simpa using hout
    obtain ⟨z, hz, hplace, hweight⟩ := h y hy hvalue
    exact ⟨z, List.mem_append_left before hz, hplace, hweight⟩

/-! ## Items elsewhere -/

/-- What the parts of an item are read with. -/
def Item.phrases (item : Item) : Phrases := Phrases.upTo (item.tokens.length + 1)

/-- How one part of an item is read. -/
def Item.entry (item : Item) : Reader Content :=
  if item.linkage then
    declaration item.phrases <|> do
      functionDefinition item.phrases Keyword.statements .declaration
      return .nothing
  else content item.phrases !item.nested

/-- An item is read in a block as it is outside: it is read at one level wherever it stands, or each
of its parts is a declaration where it could be a value. -/
def Item.FitsBlock (item : Item) : Prop :=
  item.linkage = true ∨ item.nested = true ∨
    ∀ ps, Piece.ofTokens? item.tokens = some ps →
      ∀ rest, Begins item.entry ps rest → FavorsDeclarations item.phrases rest

/-- An item fits if there is no such value at any of its pieces. -/
theorem Item.fitsBlock_of_tails {item : Item} (h : ∀ ps ∈ Piece.ofTokens? item.tokens,
    ∀ rest ∈ ps.tails, FavorsDeclarations item.phrases rest) : item.FitsBlock :=
  Or.inr (Or.inr fun ps hps rest hbegins =>
    h ps hps rest ((List.mem_tails _ _).mpr hbegins.suffix))

/-- No part of an item is faulty. -/
def Item.IsFaultless (item : Item) : Prop :=
  (readItem item).flatMap Outcome.diagnostics = []

instance (item : Item) : Decidable item.IsFaultless := inferInstanceAs (Decidable (_ = _))

/-- The same outcome so many bytes further on. -/
def Outcome.shift (o : Outcome) (n : Nat) : Outcome := { o with span := o.span.shift n }

variable {item : Item} {ps : List Piece}

theorem diagnostics_malformed (span : Span) :
    (malformed span).flatMap Outcome.diagnostics ≠ [] := by
  rw [malformed, List.flatMap_singleton]
  exact List.cons_ne_nil _ _

/-- What lacks its semicolon is faulty. -/
theorem diagnostics_unfinished (offset : Nat) {contents : Contents} (h : contents ≠ []) :
    (unfinished offset contents).flatMap Outcome.diagnostics ≠ [] := by
  induction contents generalizing offset with
  | nil => exact absurd rfl h
  | cons c rest ih =>
    cases rest with
    | nil =>
      rw [unfinished]
      split
      · rw [List.flatMap_cons]
        exact List.append_ne_nil_of_right_ne_nil _ (diagnostics_malformed {})
      · exact diagnostics_malformed _
    | cons c' rest =>
      rw [unfinished, List.flatMap_cons]
      · exact List.append_ne_nil_of_right_ne_nil _ (ih _ (List.cons_ne_nil c' rest))
      · exact List.cons_ne_nil _ _

theorem contents?_eq (item : Item) (ps : List Piece) :
    contents? item ps =
      if isWhole item then
        (allWithSource item.entry ps).map fun w =>
          w.value.map fun (c, source) => (c, Piece.flatten source)
      else none := rfl

theorem contents?_ne_nil {contents : Contents} (hps : ps ≠ [])
    (h : contents? item ps = some contents) : contents ≠ [] := by
  rw [contents?_eq] at h
  split at h
  · obtain ⟨w, hw, rfl⟩ := Option.map_eq_some_iff.mp h
    rw [ne_eq, List.map_eq_nil_iff]
    exact value_ne_nil_of_allWithSource hps hw
  · cases h

theorem contents?_withSemicolon_ne_nil {contents : Contents}
    (h : contents? item (withSemicolon ps) = some contents) : contents ≠ [] :=
  contents?_ne_nil (List.append_ne_nil_of_right_ne_nil _ (List.cons_ne_nil _ _)) h

theorem completeUpTo_ne_nil {k n : Nat} {contents : Contents}
    (h : completeUpTo item ps k = some (n, contents)) : contents ≠ [] := by
  induction k with
  | zero => cases h
  | succ k ih =>
    unfold completeUpTo at h
    split at h
    · next hcontents =>
      cases h
      exact contents?_withSemicolon_ne_nil hcontents
    · exact ih h

theorem diagnostics_readSplit? {outcomes : List Outcome} (h : readSplit? item ps = some outcomes) :
    outcomes.flatMap Outcome.diagnostics ≠ [] := by
  rw [readSplit?] at h
  obtain ⟨⟨n, contents⟩, hcomplete, h⟩ := Option.bind_eq_some_iff.mp h
  obtain ⟨next, -, h⟩ := Option.bind_eq_some_iff.mp h
  dsimp only at h
  split_ifs at h
  obtain ⟨rest, -, h⟩ := Option.bind_eq_some_iff.mp h
  cases h
  rw [List.flatMap_append]
  exact List.append_ne_nil_of_left_ne_nil
    (diagnostics_unfinished _ (completeUpTo_ne_nil hcomplete)) _

theorem diagnostics_readTagged (item : Item) (ps : List Piece) (ended : Bool) :
    (readTagged item ps ended).flatMap Outcome.diagnostics ≠ [] := by
  unfold readTagged
  dsimp only
  split
  · exact diagnostics_malformed _
  · split
    · next hcontents =>
      split
      · exact diagnostics_unfinished _ (contents?_withSemicolon_ne_nil hcontents)
      · rw [List.flatMap_append]
        exact List.append_ne_nil_of_right_ne_nil _ (diagnostics_malformed _)
    · exact diagnostics_malformed _

/-- Pieces that are no row of parts are faulty. -/
theorem diagnostics_readPieces (h : contents? item ps = none) :
    (readPieces item ps).flatMap Outcome.diagnostics ≠ [] := by
  rw [readPieces, h]
  dsimp only
  generalize (if (ps.getLast?.any (·.isMark ';')) = true then ps.dropLast else ps) = body
  split
  · exact diagnostics_readTagged item body _
  · cases hsplit : readSplit? item ps with
    | none => exact diagnostics_malformed _
    | some outcomes => exact diagnostics_readSplit? hsplit

/-- The pieces of an item without a fault are a row of parts. -/
theorem Item.IsFaultless.exists_contents (h : item.IsFaultless) :
    ∃ ps contents, Piece.ofTokens? item.tokens = some ps ∧ contents? item ps = some contents := by
  rw [IsFaultless, readItem] at h
  cases hps : Piece.ofTokens? item.tokens with
  | none =>
    rw [hps] at h
    exact absurd h (diagnostics_malformed _)
  | some ps =>
    rw [hps] at h
    cases hcontents : contents? item ps with
    | none => exact absurd h (diagnostics_readPieces hcontents)
    | some contents => exact ⟨ps, contents, rfl, hcontents⟩

/-- A closing brace alone is faulty. -/
theorem Item.IsFaultless.isBrace_eq_false (h : item.IsFaultless) : item.isBrace = false := by
  rw [Bool.eq_false_iff]
  intro hbrace
  unfold isBrace at hbrace
  split at hbrace
  · next t htokens =>
    have hpieces : Piece.ofTokens? item.tokens = none := by
      have hopens : Grouping.opens t = false := by
        rw [Grouping.opens, Token.isDirective_eq_false (Token.isSolid_of_isMark hbrace),
          Token.isMark_eq_false hbrace (by decide), Token.isMark_eq_false hbrace (by decide),
          Token.isMark_eq_false hbrace (by decide)]
        rfl
      have hcloses : Grouping.closes t = true := by
        rw [Grouping.closes, hbrace, Bool.or_true]
      have haccept : Grouping.accept? {} t = none := by
        rw [Grouping.accept?, hopens, hcloses]
        rfl
      rw [htokens, Piece.ofTokens?, List.foldlM_cons, Grouping.step?, haccept]
      rfl
    obtain ⟨ps, contents, hps, -⟩ := h.exists_contents
    rw [hpieces] at hps
    cases hps
  · cases hbrace

/-! ## The same item elsewhere -/

variable {bytes blocks : Nat}

theorem contents?_displaced
    (h : blocks = 0 ∨ item.linkage = true ∨ item.nested = true ∨
      ∀ rest, Begins item.entry ps rest → FavorsDeclarations item.phrases rest) :
    contents? (item.displaced bytes blocks) ps = contents? item ps := by
  have hentry : (item.displaced bytes blocks).entry =
      if item.linkage then item.entry
      else content item.phrases !(item.nested || decide (0 < blocks)) := by
    unfold Item.entry Item.displaced
    split <;> rfl
  have hrow : allWithSource (item.displaced bytes blocks).entry ps =
      allWithSource item.entry ps := by
    rw [hentry]
    cases hlinkage : item.linkage with
    | true => rfl
    | false =>
      have hhere : item.entry = content item.phrases !item.nested := by
        rw [Item.entry, hlinkage]
        rfl
      cases hnested : item.nested with
      | true => rw [hhere, hnested]; rfl
      | false =>
        rw [hhere, hnested]
        cases hblocks : decide (0 < blocks) with
        | false => rfl
        | true =>
          -- The item stands at the outermost level here and in a block there.
          rw [hlinkage, hnested, hhere, hnested] at h
          have hfavors := (h.resolve_left (Nat.ne_of_gt (of_decide_eq_true hblocks))).resolve_left
            Bool.false_ne_true |>.resolve_left Bool.false_ne_true
          exact allWithSource_eq fun rest _ hbegins => (hfavors rest hbegins).leavesOutMatched
  rw [contents?_eq, contents?_eq, hrow]
  rfl

theorem outcomesFrom_add (offset n : Nat) (contents : Contents) :
    outcomesFrom (offset + n) contents = (outcomesFrom offset contents).map (·.shift n) := by
  induction contents generalizing offset with
  | nil => rfl
  | cons c rest ih =>
    rw [outcomesFrom, outcomesFrom, List.map_cons, Nat.add_right_comm, ih, Outcome.ofContent,
      Token.spanFrom_add]
    rfl

/-- **An item elsewhere** gives what it gives here, so many bytes further on; in a block too, if it
fits there. -/
theorem readItem_displaced (h : item.IsFaultless) (hfits : blocks = 0 ∨ item.FitsBlock) :
    readItem (item.displaced bytes blocks) = (readItem item).map (·.shift bytes) := by
  obtain ⟨ps, contents, hps, hcontents⟩ := h.exists_contents
  have hthere : contents? (item.displaced bytes blocks) ps = some contents := by
    rw [contents?_displaced, hcontents]
    rcases hfits with hzero | hlinkage | hnested | hfavors
    · exact Or.inl hzero
    · exact Or.inr (Or.inl hlinkage)
    · exact Or.inr (Or.inr (Or.inl hnested))
    · exact Or.inr (Or.inr (Or.inr (hfavors ps hps)))
  have hpieces : Piece.ofTokens? (item.displaced bytes blocks).tokens = some ps := hps
  rw [readItem, readItem, hpieces, hps]
  dsimp only
  rw [readPieces, readPieces, hthere, hcontents]
  exact outcomesFrom_add item.start bytes contents

end Bindery.Header
