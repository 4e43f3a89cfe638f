import Bindery.Header.Reading
import Bindery.Proofs.ScanFrame
import Bindery.Proofs.SplitFrame

/-!
# Headers one after another

A header that is complete leaves nothing open, so what follows it is split as if it stood alone, and
its items are found so many bytes further on. The same holds of a header between the lines of a
linkage block, where they stand in a block.
-/

namespace Bindery.Header

/-! ## Items further on -/

namespace Item

theorem displaced_zero (item : Item) : item.displaced 0 0 = item := by
  simp [displaced]

theorem displaced_displaced (item : Item) (bytes bytes' blocks blocks' : Nat) :
    (item.displaced bytes blocks).displaced bytes' blocks' =
      item.displaced (bytes + bytes') (blocks + blocks') := by
  simp only [displaced, Nat.add_pos_iff_pos_or_pos, Bool.decide_or, Bool.or_assoc, Nat.add_assoc]

end Item

/-! ## Complete headers -/

/-- The splitter behind the tokens that end in a text. -/
def splitterBehind (text : Text) : Splitter := Splitter.run {} (scan text).tokens.reverse

/-- A text stops where an item does: no token and no item has begun that has not ended, and no
conditional part and no linkage block is open. -/
structure StopsAtItem (text : Text) : Prop where
  /-- The text stops behind a token and outside conditional parts. -/
  scanned : scan text = { tokens := (scan text).tokens }
  /-- It stops behind an item and outside linkage blocks. -/
  divided : splitterBehind text =
    { offset := (splitterBehind text).offset, items := (splitterBehind text).items }

instance (text : Text) : Decidable (StopsAtItem text) :=
  decidable_of_iff
    (scan text = { tokens := (scan text).tokens } ∧ splitterBehind text =
      { offset := (splitterBehind text).offset, items := (splitterBehind text).items })
    ⟨fun h => ⟨h.1, h.2⟩, fun h => ⟨h.scanned, h.divided⟩⟩

/-- A header ends with a whole declaration, that is with the semicolon or the brace that ends an
item, and a line feed behind it. -/
def IsComplete (source : Text) : Prop :=
  ∃ text, source = text ++ ['\n'] ∧ (text.getLast? = some ';' ∨ text.getLast? = some '}') ∧
    StopsAtItem text

instance (source : Text) : Decidable (IsComplete source) :=
  decidable_of_iff
    (source = source.dropLast ++ ['\n'] ∧
      (source.dropLast.getLast? = some ';' ∨ source.dropLast.getLast? = some '}') ∧
      StopsAtItem source.dropLast)
    ⟨fun h => ⟨_, h⟩, fun ⟨text, hsource, h⟩ => by rw [hsource, List.dropLast_concat]; exact ⟨rfl, h⟩⟩

/-- The items of a header. -/
def itemsOf (source : Text) : List Item := (splitItems (tokens source)).1

/-! ## Tokens -/

/-- With more of a gap before the first one, tokens in order. -/
theorem Token.reverse_behindGap (gap : Text) (ts : List Token) :
    (behindGap gap ts).reverse = afterGap gap ts.reverse := by
  induction ts with
  | nil => rfl
  | cons t ts ih =>
    cases ts with
    | nil => rfl
    | cons u us =>
      -- The first token of those before this one is the first of all.
      have hne : (u :: us).reverse ≠ [] := by simp
      obtain ⟨v, vs, hvs⟩ := List.exists_cons_of_ne_nil hne
      rw [behindGap, List.reverse_cons, ih, List.reverse_cons (a := t), hvs]
      rfl

/-- Tokens behind others and behind a gap, in order. -/
theorem Scanner.reverse_tokens_behind {gap : Text} {before : List Token} (s : Scanner) :
    (s.behind gap before).tokens.reverse =
      before.reverse ++ Token.afterGap gap s.tokens.reverse := by
  unfold behind
  split
  · next h => rw [h, List.reverse_nil, Token.afterGap, List.append_nil]
  · rw [List.reverse_append, Token.reverse_behindGap]

/-- Scanning goes on where it stopped. -/
theorem scan_append {t u : Text} (hu : u.head? ≠ some byteOrderMark) :
    scan (t ++ u) = (scan t).run u := by
  cases t with
  | nil =>
    cases u with
    | nil => rfl
    | cons c u =>
      have hc : c ≠ byteOrderMark := fun h => hu (congrArg some h)
      exact if_neg hc
  | cons c t =>
    rw [List.cons_append, scan, scan]
    split
    · exact Scanner.run_append _ t u
    · rw [← Scanner.run_append, List.cons_append]

variable {text rest : Text} {ts : List Token}

/-- What stands on the lines behind a whole token is scanned as it is alone. -/
theorem scan_lineFeed (htext : scan text = { tokens := ts })
    (hrest : rest.head? ≠ some byteOrderMark) :
    scan (text ++ '\n' :: rest) = (scan rest).behind ['\n'] ts := by
  have hfeed : ('\n' :: rest).head? ≠ some byteOrderMark := by
    intro h
    rw [List.head?_cons, Option.some.injEq] at h
    exact absurd h (by decide)
  have hstep : Scanner.step { tokens := ts } '\n' = Scanner.behind ['\n'] ts {} := rfl
  have halone : scan rest = Scanner.run {} rest := scan_append (t := []) hrest
  rw [scan_append hfeed, htext, Scanner.run, List.foldl_cons, hstep, halone]
  exact Scanner.run_behind rest

theorem tokens_lineFeed (htext : scan text = { tokens := ts })
    (hrest : rest.head? ≠ some byteOrderMark) :
    tokens (text ++ '\n' :: rest) = ts.reverse ++ Token.afterGap ['\n'] (tokens rest) := by
  rw [tokens, scan_lineFeed htext hrest, Scanner.finish_behind, Scanner.reverse_tokens_behind,
    tokens]

/-! ## Items -/

namespace StopsAtItem

variable (h : StopsAtItem text)
include h

theorem offset_eq : (splitterBehind text).offset = Text.byteSize text := by
  have hwidth : Token.widthOf (scan text).tokens = Text.byteSize text := by
    have hsize := size_scan text
    rw [h.scanned] at hsize
    simpa [Scanner.size, Scanner.placed, ScanMode.pending] using hsize
  rw [splitterBehind, Splitter.offset_run, Token.widthOf_reverse, hwidth, Nat.zero_add]

theorem split_eq : splitterBehind text =
    Splitter.behind (Text.byteSize text) 0 (splitterBehind text).items := by
  rw [h.divided, h.offset_eq]
  rfl

/-- No item goes beyond the text. -/
theorem stop_le : ∀ item ∈ (splitterBehind text).items, item.stop ≤ Text.byteSize text := by
  rw [← h.offset_eq]
  exact (Splitter.IsBounded.run Splitter.isBounded_empty _).items

/-- What follows a text on new lines has the items that it has alone, unless a statement goes on
there. -/
theorem splitItems_lineFeed (rest : Text) (hmark : rest.head? ≠ some byteOrderMark)
    (hnone : ∀ t ∈ (tokens rest).head?, t.isOneOf Item.continuingWords = true →
      ∀ last ∈ (splitterBehind text).items.head?, last.mayContinue = true →
        last.stop ≠ Text.byteSize text) :
    splitItems (tokens (text ++ '\n' :: rest)) =
      ((splitterBehind text).items.reverse ++
          (itemsOf rest).map (Item.displaced (Text.byteSize text + 1) 0),
        (splitItems (tokens rest)).2) := by
  have hfeed : 0 < Text.byteSize ['\n'] := by decide
  obtain ⟨stop, hrun⟩ := Splitter.close_run_behind (tokens rest) hfeed h.stop_le hnone (Or.inl rfl)
  have hsplit : (Splitter.run {} (tokens (text ++ '\n' :: rest))).settle.close =
      (Splitter.run {} (tokens rest)).settle.close.moved stop (Text.byteSize text + 1) 0
        (splitterBehind text).items := by
    rw [tokens_lineFeed h.scanned hmark, Splitter.run_append]
    rw [← splitterBehind, h.split_eq]
    exact hrun
  have hitems : (splitItems (tokens (text ++ '\n' :: rest))).1 =
      ((Splitter.run {} (tokens rest)).settle.close.moved stop (Text.byteSize text + 1) 0
        (splitterBehind text).items).items.reverse := by
    rw [← hsplit]
    rfl
  have hblocks : (splitItems (tokens (text ++ '\n' :: rest))).2 =
      ((Splitter.run {} (tokens rest)).settle.close.moved stop (Text.byteSize text + 1) 0
        (splitterBehind text).items).blocks := by
    rw [← hsplit]
    rfl
  refine Prod.ext (hitems.trans ?_) hblocks
  rw [itemsOf, splitItems, List.map_reverse]
  exact List.reverse_append

/-- The items of a line that stops where an item does. -/
theorem itemsOf_lineFeed : itemsOf (text ++ ['\n']) = (splitterBehind text).items.reverse := by
  rw [itemsOf, h.splitItems_lineFeed [] (Option.some_ne_none _).symm
    fun t ht => absurd ht (Option.not_mem_none t)]
  exact List.append_nil _

end StopsAtItem

/-! ## Linkage blocks -/

/-- The line that opens a linkage block. -/
def openingLine : Text := "extern \"C\" \x7b\n"

/-- The line that closes a linkage block. -/
def closingLine : Text := "\x7d\n"

/-- A header between the lines of a linkage block. -/
def inBlock (source : Text) : Text := openingLine ++ source ++ closingLine

/-- A header in so many linkage blocks. -/
def inBlocks : Nat → Text → Text
  | 0, source => source
  | n + 1, source => inBlock (inBlocks n source)

/-- What opens a linkage block, without the line feed behind it. -/
def blockOpening : Text := "extern \"C\" \x7b"

theorem byteSize_openingLine : Text.byteSize openingLine = 13 := by with_unfolding_all decide

theorem inBlock_eq (source : Text) :
    inBlock source = blockOpening ++ '\n' :: (source ++ ['}', '\n']) := by
  have hopening : openingLine = blockOpening ++ ['\n'] := by with_unfolding_all decide
  have hclosing : closingLine = ['}', '\n'] := by with_unfolding_all decide
  rw [inBlock, hopening, hclosing, List.append_assoc, List.append_assoc]
  rfl

theorem scan_blockOpening :
    scan blockOpening = { tokens := (scan blockOpening).tokens } := by
  with_unfolding_all decide

theorem splitterBehind_blockOpening :
    splitterBehind blockOpening = Splitter.behind 12 1 [] := by
  with_unfolding_all decide

/-- A closing brace between items closes a block. -/
theorem Splitter.step_behind_closing (offset blocks : Nat) (earlier : List Item) {t : Token}
    (ht : t.isMark '}' = true) :
    (behind offset (blocks + 1) earlier).step t = behind (offset + t.width) blocks earlier := by
  have hsemicolon := Token.isMark_eq_false ht (show '}' ≠ ';' by decide)
  have hopen : (behind offset (blocks + 1) earlier).accept t =
      (behind offset (blocks + 1) earlier).open_ t := rfl
  rw [step, hopen, open_, hsemicolon, ht]
  rfl

/-- What a block encloses, up to its closing brace, stops where it does, and its items stand in the
block. -/
theorem StopsAtItem.enclosed (h : StopsAtItem text) (hne : text ≠ [])
    (hmark : text.head? ≠ some byteOrderMark)
    (hbrace : ¬ Splitter.FindsBrace (splitterBehind text)) :
    StopsAtItem (blockOpening ++ '\n' :: text ++ ['\n', '}']) ∧
      (splitterBehind (blockOpening ++ '\n' :: text ++ ['\n', '}'])).items =
        (splitterBehind text).items.map (Item.displaced 13 1) := by
  obtain ⟨t, ts, hts⟩ : ∃ t ts, (scan text).tokens = t :: ts := by
    refine List.exists_cons_of_ne_nil fun hnil => ?_
    have hsize := size_scan text
    rw [h.scanned, hnil] at hsize
    obtain ⟨c, rest, rfl⟩ := List.exists_cons_of_ne_nil hne
    have hpos := Char.utf8Size_pos c
    simp [Scanner.size, Scanner.placed, ScanMode.pending, Token.widthOf] at hsize
    omega
  have hinner : scan (blockOpening ++ '\n' :: text) =
      { tokens := Token.behindGap ['\n'] (t :: ts) ++ (scan blockOpening).tokens } := by
    rw [scan_lineFeed scan_blockOpening hmark, h.scanned, hts]
    rfl
  have hclosing : scan (blockOpening ++ '\n' :: text ++ ['\n', '}']) =
      { tokens := ⟨.mark, ['}'], ['\n']⟩ ::
          (Token.behindGap ['\n'] (t :: ts) ++ (scan blockOpening).tokens) } := by
    have hsign : scan ['}'] = { tokens := [⟨.mark, ['}'], []⟩] } := by with_unfolding_all decide
    rw [scan_lineFeed hinner (by decide), hsign]
    rfl
  have hfeed : 0 < Text.byteSize ['\n'] := by decide
  have hnone : ∀ item ∈ ([] : List Item), item.stop ≤ 12 := List.forall_mem_nil _
  obtain ⟨stop, hrun, -⟩ :=
    Splitter.run_behind (scan text).tokens.reverse hfeed hnone
      (fun _ _ _ last hlast => absurd hlast (Option.not_mem_none last)) (.inr hbrace : 1 = 0 ∨ _)
  have hsplit : splitterBehind (blockOpening ++ '\n' :: text ++ ['\n', '}']) =
      Splitter.behind (stop + 2) 0 ((splitterBehind text).items.map (Item.displaced 13 1)) := by
    have hbefore : Splitter.run {} (scan blockOpening).tokens.reverse = Splitter.behind 12 1 [] :=
      splitterBehind_blockOpening
    rw [splitterBehind, hclosing, List.reverse_cons, List.reverse_append, Token.reverse_behindGap,
      List.append_assoc, Splitter.run_append, Splitter.run_append, hbefore, ← hts, hrun,
      ← splitterBehind, h.split_eq]
    have hmoved : (Splitter.behind (Text.byteSize text) 0 (splitterBehind text).items).moved
        stop 13 1 [] = Splitter.behind stop 1 ((splitterBehind text).items.map
          (Item.displaced 13 1)) := by
      simp [Splitter.behind, Splitter.moved, Splitter.displaced]
    have hclose : Token.isMark '}' ⟨.mark, ['}'], ['\n']⟩ = true := rfl
    have hstep := Splitter.step_behind_closing stop 0
      ((splitterBehind text).items.map (Item.displaced 13 1)) hclose
    exact (congrArg (Splitter.step · _) hmoved).trans hstep
  refine ⟨⟨?_, ?_⟩, ?_⟩
  · rw [hclosing]
  · rw [hsplit]
    rfl
  · rw [hsplit]
    rfl

/-! ## Items of headers -/

/-- Whether a header begins with a word that goes on with the statement at the end of another one
before it. -/
def goesOnWith (rest source : Text) : Bool :=
  (tokens rest).head?.any (·.isOneOf Item.continuingWords) &&
    (itemsOf source).getLast?.any fun last =>
      last.mayContinue && last.stop + 1 == Text.byteSize source

namespace IsComplete

variable {source : Text} (h : IsComplete source)
include h

theorem exists_text : ∃ text, text ≠ [] ∧ StopsAtItem text ∧ source = text ++ ['\n'] := by
  obtain ⟨text, hsource, hlast, hstops⟩ := h
  refine ⟨text, ?_, hstops, hsource⟩
  rintro rfl
  rcases hlast with hlast | hlast <;> cases hlast

/-- **The items of two headers** are those of the first one, and those of the second one further
on. -/
theorem splitItems_append (rest : Text) (hmark : rest.head? ≠ some byteOrderMark)
    (hgoesOn : goesOnWith rest source = false) :
    splitItems (tokens (source ++ rest)) =
      (itemsOf source ++ (itemsOf rest).map (Item.displaced (Text.byteSize source) 0),
        (splitItems (tokens rest)).2) := by
  obtain ⟨text, -, hstops, rfl⟩ := h.exists_text
  have hsize : Text.byteSize (text ++ ['\n']) = Text.byteSize text + 1 := by
    rw [Text.byteSize_append]
    rfl
  have hnone : ∀ t ∈ (tokens rest).head?, t.isOneOf Item.continuingWords = true →
      ∀ last ∈ (splitterBehind text).items.head?, last.mayContinue = true →
        last.stop ≠ Text.byteSize text := by
    intro t ht hword last hlast hmay hstop
    have htrue : goesOnWith rest (text ++ ['\n']) = true := by
      rw [goesOnWith, hstops.itemsOf_lineFeed, List.getLast?_reverse, hsize, Option.mem_def.mp ht,
        Option.mem_def.mp hlast]
      simp [hword, hmay, hstop]
    rw [htrue] at hgoesOn
    cases hgoesOn
  rw [hstops.itemsOf_lineFeed, hsize, List.append_assoc]
  exact hstops.splitItems_lineFeed rest hmark hnone

/-- No block is open at the end of a complete header. -/
theorem splitItems_eq : splitItems (tokens source) = (itemsOf source, 0) := by
  have hsplit := h.splitItems_append [] (Option.some_ne_none _).symm rfl
  rw [List.append_nil] at hsplit
  exact hsplit.trans (congrArg (·, 0) (List.append_nil _))

/-- **The items of a linkage block** are those of the header inside it, further on and in a
block. -/
theorem inBlock (hmark : source.head? ≠ some byteOrderMark)
    (hbrace : ∀ item ∈ itemsOf source, item.isBrace = false) :
    IsComplete (inBlock source) ∧
      itemsOf (Header.inBlock source) = (itemsOf source).map (Item.displaced 13 1) := by
  obtain ⟨text, hne, hstops, rfl⟩ := h.exists_text
  have hhead : text.head? ≠ some byteOrderMark := by
    intro hhead
    exact hmark (by rw [List.head?_append, hhead]; rfl)
  have hnone : ¬ Splitter.FindsBrace (splitterBehind text) := by
    rintro ⟨item, hitem, htrue⟩
    rw [hstops.itemsOf_lineFeed] at hbrace
    rw [hbrace item (List.mem_reverse.mpr hitem)] at htrue
    cases htrue
  obtain ⟨henclosed, hitems⟩ := hstops.enclosed hne hhead hnone
  have hshape : Header.inBlock (text ++ ['\n']) =
      blockOpening ++ '\n' :: text ++ ['\n', '}'] ++ ['\n'] := by
    simp [inBlock_eq]
  refine ⟨⟨_, hshape, Or.inr ?_, henclosed⟩, ?_⟩
  · rw [List.getLast?_append]
    rfl
  · rw [hshape, henclosed.itemsOf_lineFeed, hitems, hstops.itemsOf_lineFeed, List.map_reverse]

/-- **So are the items in blocks in blocks**, as many as there may be. -/
theorem inBlocks (hmark : source.head? ≠ some byteOrderMark)
    (hbrace : ∀ item ∈ itemsOf source, item.isBrace = false) (n : Nat) :
    IsComplete (inBlocks n source) ∧
      itemsOf (Header.inBlocks n source) = (itemsOf source).map (Item.displaced (n * 13) n) := by
  induction n with
  | zero =>
    refine ⟨h, ?_⟩
    have hid : Item.displaced (0 * 13) 0 = id := funext Item.displaced_zero
    rw [hid, List.map_id]
    rfl
  | succ n ih =>
    have hhead : (Header.inBlocks n source).head? ≠ some byteOrderMark := by
      cases n with
      | zero => exact hmark
      | succ n =>
        have hletter : openingLine.head? = some 'e' := by with_unfolding_all decide
        rw [Header.inBlocks, Header.inBlock, List.append_assoc, List.head?_append, hletter]
        exact fun hsome => absurd (Option.some.inj hsome) (by decide)
    obtain ⟨hcomplete, hitems⟩ := ih.1.inBlock hhead fun item hitem => by
      rw [ih.2] at hitem
      obtain ⟨original, horiginal, rfl⟩ := List.mem_map.mp hitem
      exact hbrace original horiginal
    refine ⟨hcomplete, ?_⟩
    rw [Header.inBlocks, hitems, ih.2, List.map_map, Nat.succ_mul]
    exact List.map_congr_left fun item _ => Item.displaced_displaced item (n * 13) 13 n 1

end IsComplete

end Bindery.Header
