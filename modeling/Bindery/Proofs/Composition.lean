import Bindery.Proofs.BlockReading
import Bindery.Proofs.Joined
import Bindery.Proofs.Scanning
import Mathlib.Data.List.Basic

/-!
# Headers made of headers

Headers that are read without a fault may be put one after another, or into linkage blocks, and all
that they declare is found there, further on. Three things stand in the way: a mark of byte order,
which has no meaning but at the beginning; a word that goes on with a statement before it; and in a
block, a statement that is none outside.
-/

namespace Bindery.Header

/-- The same declaration so many bytes further on. -/
def Located.shift (d : Located) (n : Nat) : Located := { d with span := d.span.shift n }

theorem Outcome.declarations_shift (o : Outcome) (n : Nat) :
    (o.shift n).declarations = o.declarations.map (Located.shift · n) := by
  unfold declarations shift
  cases o.result with
  | ok ds =>
    rw [List.map_map]
    rfl
  | error fault => rfl

theorem Outcome.diagnostics_shift {o : Outcome} (h : o.diagnostics = []) (n : Nat) :
    (o.shift n).diagnostics = [] := by
  unfold diagnostics shift at *
  cases hresult : o.result with
  | ok ds => rfl
  | error fault =>
    rw [hresult] at h
    cases h

/-! ## Outcomes of items -/

/-- The outcomes of some items, in order. -/
def outcomesOf (items : List Item) : List Outcome := items.flatMap readItem

theorem outcomesOf_displaced {items : List Item} {bytes blocks : Nat}
    (hfaultless : ∀ item ∈ items, item.IsFaultless)
    (hfits : blocks = 0 ∨ ∀ item ∈ items, item.FitsBlock) :
    outcomesOf (items.map (Item.displaced bytes blocks)) =
      (outcomesOf items).map (Outcome.shift · bytes) := by
  rw [outcomesOf, outcomesOf, List.flatMap_map, List.map_flatMap]
  exact List.flatMap_congr fun item hitem =>
    readItem_displaced (hfaultless item hitem) (hfits.imp_right fun h => h item hitem)

variable {source rest : Text}

theorem read_eq (hsplit : (splitItems (tokens source)).2 = 0) :
    read source =
      ⟨(outcomesOf (itemsOf source)).flatMap Outcome.declarations,
        (outcomesOf (itemsOf source)).flatMap Outcome.diagnostics⟩ := by
  rw [read]
  dsimp only
  rw [hsplit, List.replicate_zero, List.append_nil]
  rfl

/-- What is read without a diagnostic has no faulty item and leaves no block open. -/
theorem faultless_of_read (h : (read source).diagnostics = []) :
    (∀ item ∈ itemsOf source, item.IsFaultless) ∧ (splitItems (tokens source)).2 = 0 := by
  obtain ⟨houtcomes, hblocks⟩ := List.append_eq_nil_iff.mp h
  refine ⟨fun item hitem => ?_, (List.replicate_eq_nil_iff _).mp hblocks⟩
  rw [List.flatMap_assoc] at houtcomes
  exact List.flatMap_eq_nil_iff.mp houtcomes item hitem

theorem flatMap_declarations_shift (os : List Outcome) (n : Nat) :
    (os.map (Outcome.shift · n)).flatMap Outcome.declarations =
      (os.flatMap Outcome.declarations).map (Located.shift · n) := by
  rw [List.flatMap_map, List.map_flatMap]
  exact List.flatMap_congr fun o _ => o.declarations_shift n

theorem flatMap_diagnostics_shift {os : List Outcome} (h : os.flatMap Outcome.diagnostics = [])
    (n : Nat) : (os.map (Outcome.shift · n)).flatMap Outcome.diagnostics = [] := by
  rw [List.flatMap_map, List.flatMap_eq_nil_iff]
  exact fun o ho => Outcome.diagnostics_shift (List.flatMap_eq_nil_iff.mp h o ho) n

/-! ## Headers -/

/-- Two headers are read together as they are read one by one: the second one so many bytes further
on as the first one has. -/
def ReadTogether (source rest : Text) : Prop :=
  read (source ++ rest) =
    ⟨(read source).declarations ++
      (read rest).declarations.map (Located.shift · (Text.byteSize source)), []⟩

/-- A header is read in so many linkage blocks as it is read outside them, further on by the lines
that open them. -/
def ReadInBlocks (n : Nat) (source : Text) : Prop :=
  read (inBlocks n source) =
    ⟨(read source).declarations.map (Located.shift · (n * Text.byteSize openingLine)), []⟩

instance (source rest : Text) : Decidable (ReadTogether source rest) :=
  inferInstanceAs (Decidable (_ = _))

instance (n : Nat) (source : Text) : Decidable (ReadInBlocks n source) :=
  inferInstanceAs (Decidable (_ = _))

/-- **Reading is compositional.** A complete header without a fault is read together with another
one as they are read one by one, unless a mark of byte order begins the other one or a statement
goes on there; and it is read in linkage blocks, however deep, as outside them, unless a mark of
byte order begins it or a part of it would be another statement in a block. -/
theorem read_compositional (hcomplete : IsComplete source)
    (hsource : (read source).diagnostics = []) :
    ((read rest).diagnostics = [] → rest.head? ≠ some byteOrderMark →
        goesOnWith rest source = false → ReadTogether source rest) ∧
      (source.head? ≠ some byteOrderMark → (∀ item ∈ itemsOf source, item.FitsBlock) →
        ∀ n, ReadInBlocks n source) := by
  obtain ⟨hfaultless, hblocks⟩ := faultless_of_read hsource
  have hread := read_eq hblocks
  have hnone : (outcomesOf (itemsOf source)).flatMap Outcome.diagnostics = [] := by
    rw [hread] at hsource
    exact hsource
  constructor
  · intro hrest hmark hgoesOn
    obtain ⟨hfaultless', hblocks'⟩ := faultless_of_read hrest
    have hread' := read_eq hblocks'
    have hnone' : (outcomesOf (itemsOf rest)).flatMap Outcome.diagnostics = [] := by
      rw [hread'] at hrest
      exact hrest
    have hsplit := hcomplete.splitItems_append rest hmark hgoesOn
    have hitems : outcomesOf (itemsOf (source ++ rest)) = outcomesOf (itemsOf source) ++
        (outcomesOf (itemsOf rest)).map (Outcome.shift · (Text.byteSize source)) := by
      rw [itemsOf, hsplit, ← outcomesOf_displaced hfaultless' (Or.inl rfl)]
      exact List.flatMap_append
    rw [ReadTogether, read_eq (by rw [hsplit]; exact hblocks'), hitems, List.flatMap_append,
      List.flatMap_append, flatMap_declarations_shift, flatMap_diagnostics_shift hnone', hnone,
      hread, hread']
    rfl
  · intro hmark hfits n
    obtain ⟨hcomplete', hitems⟩ :=
      hcomplete.inBlocks hmark (fun item hitem => (hfaultless item hitem).isBrace_eq_false) n
    have hsplit := hcomplete'.splitItems_eq
    rw [ReadInBlocks, read_eq (by rw [hsplit]), hitems,
      outcomesOf_displaced hfaultless (Or.inr hfits), flatMap_declarations_shift,
      flatMap_diagnostics_shift hnone, hread, byteSize_openingLine]

/-- Declarations that stand alone, in a linkage specification and in a linkage block. -/
def linkedHeader : Text :=
  "void f(int a);\nextern \"C\" int g();\nextern \"C\" \x7b\nenum k;\n\x7d\n"

/-- A definition with a comment before it. -/
def definingHeader : Text := "// no more\nstruct S \x7b int a; \x7d;\n"

/-- The premises hold of a header with items of each kind that fit a block. -/
theorem read_compositional_linkedHeader :
    IsComplete linkedHeader ∧ (read linkedHeader).diagnostics = [] ∧
      (read definingHeader).diagnostics = [] ∧ ReadTogether linkedHeader definingHeader ∧
        ReadInBlocks 2 linkedHeader := by
  -- What is evaluated together is evaluated once.
  have hpremises : IsComplete linkedHeader ∧ (read linkedHeader).diagnostics = [] ∧
      goesOnWith definingHeader linkedHeader = false ∧ ∀ item ∈ itemsOf linkedHeader,
        item.linkage = true ∨ item.nested = true ∨ ∀ ps ∈ Piece.ofTokens? item.tokens,
          ∀ rest ∈ ps.tails, FavorsDeclarations item.phrases rest := by
    decide +kernel
  obtain ⟨hcomplete, hlinked, hgoesOn, hfits⟩ := hpremises
  have hdefining : (read definingHeader).diagnostics = [] := by decide +kernel
  obtain ⟨htogether, hblocks⟩ := @read_compositional linkedHeader definingHeader hcomplete hlinked
  refine ⟨hcomplete, hlinked, hdefining, htogether hdefining ?_ hgoesOn, hblocks ?_ ?_ 2⟩
  · decide +kernel
  · decide +kernel
  · intro item hitem
    rcases hfits item hitem with hlinkage | hnested | htails
    · exact Or.inl hlinkage
    · exact Or.inr (Or.inl hnested)
    · exact Item.fitsBlock_of_tails htails

/-! ## Headers that are read otherwise -/

/-- Behind a token, a mark of byte order is stray. -/
theorem Scanner.advanceBetween_byteOrderMark (s : Scanner) :
    s.advanceBetween byteOrderMark = s.become (.stray [byteOrderMark]) := by
  have hspace : isSpace byteOrderMark = false := by decide
  have hdigit : byteOrderMark.isDigit = false := by decide
  have hpunctuation : isPunctuation byteOrderMark = false := by decide +kernel
  rw [advanceBetween, hspace, isNameStart_byteOrderMark, hdigit, hpunctuation]
  rfl

theorem scan_append_byteOrderMark (hne : source ≠ []) (hmode : (scan source).mode = .between)
    (rest : Text) :
    scan (source ++ byteOrderMark :: rest) =
      Scanner.run ((scan source).become (.stray [byteOrderMark])) rest := by
  have hscan : scan (source ++ byteOrderMark :: rest) =
      (scan source).run (byteOrderMark :: rest) := by
    obtain ⟨c, t, rfl⟩ := List.exists_cons_of_ne_nil hne
    rw [List.cons_append, scan, scan]
    split
    · exact Scanner.run_append _ t _
    · rw [← Scanner.run_append, List.cons_append]
  rw [hscan, Scanner.run, List.foldl_cons, Scanner.step, hmode]
  dsimp only
  rw [Scanner.advanceBetween_byteOrderMark]
  rfl

/-- One declaration. -/
def plainHeader : Text := "void f();\n"

/-- The same one behind a mark of byte order. -/
def markedHeader : Text := byteOrderMark :: plainHeader

/-- A statement with a condition. -/
def testHeader : Text := "if (a) \x7b\x7d\n"

/-- A declaration whose type could go on with such a statement. -/
def elseHeader : Text := "else (a), g(b);\n"

/-- A declaration of two names that could be two calls in a block. -/
def callHeader : Text := "f(a), g(b);\n"

/-- A mark of byte order is no such mark behind another header or in a block, a word goes on with a
statement before it, and calls are statements in a block. -/
theorem not_read_compositional :
    (∀ source ∈ [plainHeader, markedHeader, testHeader, elseHeader, callHeader],
      IsComplete source ∧ (read source).diagnostics = []) ∧
    ¬ ReadTogether plainHeader markedHeader ∧ ¬ ReadInBlocks 1 markedHeader ∧
      ¬ ReadTogether testHeader elseHeader ∧ ¬ ReadInBlocks 1 callHeader := by
  -- What is evaluated together is evaluated once.
  have hevaluated : (∀ source ∈ [plainHeader, markedHeader, testHeader, elseHeader, callHeader],
      IsComplete source ∧ (read source).diagnostics = []) ∧
      ¬ ReadTogether testHeader elseHeader ∧ ¬ ReadInBlocks 1 callHeader := by
    decide +kernel
  -- Scanning the mark itself would go through the table of letters; it is known to begin no token.
  have htogether : ¬ ReadTogether plainHeader markedHeader := by
    intro h
    have hfaultless := (faultless_of_read (congrArg Reading.diagnostics h)).1
    have hmode : (scan plainHeader).mode = .between := by decide +kernel
    rw [itemsOf, tokens, markedHeader, scan_append_byteOrderMark (by decide +kernel) hmode]
      at hfaultless
    revert hfaultless
    decide +kernel
  have hblock : ¬ ReadInBlocks 1 markedHeader := by
    intro h
    have hfaultless := (faultless_of_read (congrArg Reading.diagnostics h)).1
    have hmode : (scan openingLine).mode = .between := by decide +kernel
    have hin : inBlocks 1 markedHeader =
        openingLine ++ byteOrderMark :: (plainHeader ++ closingLine) :=
      List.append_assoc openingLine markedHeader closingLine
    rw [itemsOf, tokens, hin, scan_append_byteOrderMark (by decide +kernel) hmode] at hfaultless
    revert hfaultless
    decide +kernel
  exact ⟨hevaluated.1, htogether, hblock, hevaluated.2⟩

end Bindery.Header
