import Bindery.Proofs.BlockReading
import Bindery.Proofs.FormReading

/-!
# Reading what was written

A header of canonical declarations is read as those declarations, in order and without a fault, if
no identifier in it has a meaning of its own at its place. The scanner gives back the tokens of each
declaration, the splitter takes the tokens of each for one item, and the pieces of each item are a
row of one content, which gives the declaration.
-/

namespace Bindery.Canonical

open Header

variable {gap : Text}

/-! ## Items -/

theorem isQuiet_ofWord {w : Text} (h : Item.beginningWords.contains w = false) :
    (Token.ofWord gap w).isQuiet = true := by
  rw [Token.isQuiet, Token.isOneOf_ofWord, h]
  exact Bool.or_true _

theorem Identifier.beginningWords_contains (name : Identifier) :
    Item.beginningWords.contains name.text = false :=
  contains_eq_false name.avoids_nil covers_beginningWords

theorem Identifier.isQuiet (name : Identifier) : (Token.ofWord gap name.text).isQuiet = true :=
  isQuiet_ofWord name.beginningWords_contains

/-- A base type is made of words that begin no item wherever they stand. -/
theorem BaseType.exists_isWord (gap : Text) (b : BaseType) :
    ∃ t ts, b.tokens gap = t :: ts ∧ t.isWord = true ∧
      t.isOneOf Item.beginningWords = false ∧ ∀ u ∈ t :: ts, u.isQuiet = true := by
  have hword : ∀ w : Text, Item.beginningWords.contains w = false →
      (Token.ofWord gap w).isWord = true ∧
        (Token.ofWord gap w).isOneOf Item.beginningWords = false ∧
        ∀ u ∈ [Token.ofWord gap w], u.isQuiet = true := fun w hw =>
    ⟨rfl, hw, fun u hu => List.mem_singleton.mp hu ▸ isQuiet_ofWord hw⟩
  cases b with
  | unsignedInt =>
    obtain ⟨hfirst, hsecond⟩ : Item.beginningWords.contains ("unsigned" : Text) = false ∧
        Item.beginningWords.contains ("int" : Text) = false := by decide +kernel
    refine ⟨_, _, rfl, rfl, hfirst, ?_⟩
    rw [List.forall_mem_cons, List.forall_mem_singleton]
    exact ⟨isQuiet_ofWord hfirst, isQuiet_ofWord hsecond⟩
  | named name => exact ⟨_, _, rfl, hword _ name.beginningWords_contains⟩
  | _ => exact ⟨_, _, rfl, hword _ (by decide +kernel)⟩

theorem BaseType.isQuiet_of_mem (b : BaseType) : ∀ t ∈ b.tokens gap, t.isQuiet = true := by
  obtain ⟨t, ts, htokens, -, -, hquiet⟩ := b.exists_isWord gap
  rw [htokens]
  exact hquiet

theorem isQuiet_of_mem_starTokens (n : Nat) : ∀ t ∈ starTokens n, t.isQuiet = true := by
  intro t ht
  rw [List.eq_of_mem_replicate ht]
  rfl

/-- A part of a list is solid and none of the marks that cannot stand there. -/
theorem isSolid_and_not_any_isMark {marks cs : Text} {t : Token} (h : isPart marks t = true)
    (hcs : ∀ c ∈ cs, c ∉ marks) : (t.isSolid && !(cs.any (t.isMark ·))) = true := by
  have hnot : cs.any (t.isMark ·) = false := by
    rw [List.any_eq_false]
    intro c hc
    rw [isMark_eq_false_of_isPart h (hcs c hc)]
    exact Bool.false_ne_true
  rw [isSolid_of_isPart h, hnot]
  rfl

theorem isInner_of_isPart {marks : Text} {t : Token} (h : isPart marks t = true)
    (hmarks : ∀ c ∈ ['(', ')', '{', '}', ';'], c ∉ marks) : t.isInner = true :=
  isSolid_and_not_any_isMark h hmarks

theorem isEnclosed_of_isPart {marks : Text} {t : Token} (h : isPart marks t = true)
    (hmarks : ∀ c ∈ ['{', '}'], c ∉ marks) : t.isEnclosed = true :=
  isSolid_and_not_any_isMark h hmarks

/-- Parameters in parentheses, without the semicolon behind them. -/
def groupTokens (vs : List Variable) : List Token :=
  .ofMark [] '(' :: (paramTokens vs ++ [.ofMark [] ')'])

theorem isParenthesized_groupTokens (vs : List Variable) :
    Splitter.IsParenthesized (groupTokens vs) := by
  refine ⟨_, _, _, rfl, by simp, fun t ht => ?_, by simp⟩
  exact isInner_of_isPart (isPart_of_mem_paramTokens vs t ht) (by decide)

namespace Form

theorem isBraced_memberTokens (item : Constant) (items : List Constant) :
    Splitter.IsBraced (memberTokens item items) := by
  refine ⟨_, _, _, rfl, by simp, fun t ht => ?_, by simp⟩
  have hpart := isPart_of_mem_listedTokens (fun _ c => c.isPart_of_mem) item items t ht
  exact isEnclosed_of_isPart hpart (by decide)

/-- The fields of a structure or a union in braces. -/
def fieldTokens (fields : List Variable) : List Token :=
  .ofMark [' '] '{' ::
    ((fields.flatMap fun v => v.tokens [' '] ++ [.ofMark [] ';']) ++ [.ofMark [' '] '}'])

theorem isBraced_fieldTokens (fields : List Variable) :
    Splitter.IsBraced (fieldTokens fields) := by
  refine ⟨_, _, _, rfl, by simp, fun t ht => ?_, by simp⟩
  obtain ⟨v, -, ht⟩ := List.mem_flatMap.mp ht
  rcases List.mem_append.mp ht with ht | ht
  · exact isEnclosed_of_isPart (v.isPart_of_mem t ht) (by decide)
  · rw [List.mem_singleton.mp ht]
    decide +kernel

/-- The name behind a star in parentheses. -/
theorem isParenthesized_pointer (name : Identifier) :
    Splitter.IsParenthesized
      [.ofMark [' '] '(', .ofMark [] '*', .ofWord [] name.text, .ofMark [] ')'] := by
  have hstar : isPart ['*'] (.ofMark [] '*') = true := by simp
  have hname : isPart [] (.ofWord [] name.text) = true := rfl
  refine ⟨_, [_, _], _, rfl, by simp, ?_, by simp⟩
  rw [List.forall_mem_cons, List.forall_mem_singleton]
  exact ⟨isInner_of_isPart hstar (by decide), isInner_of_isPart hname (by decide)⟩

private theorem beginningWords_contains : Item.beginningWords.contains ("typedef" : Text) = false ∧
    Item.beginningWords.contains ("struct" : Text) = false ∧
    Item.beginningWords.contains ("union" : Text) = false ∧
    Item.beginningWords.contains ("enum" : Text) = false := by
  decide +kernel

private theorem isMark_semicolon : (Token.ofMark [] ';').isMark ';' = true := by simp

theorem isItem_function (result : BaseType) (n : Nat) (name : Identifier)
    (params : List Variable) :
    Splitter.IsItem ((function result n name params).tokens gap) := by
  obtain ⟨t, ts, hresult, hword, hbegins, hquiet⟩ := result.exists_isWord gap
  have hshape : (function result n name params).tokens gap =
      t :: ((ts ++ (starTokens n ++ [.ofWord [' '] name.text])) ++
        ([groupTokens params].flatten ++ [.ofMark [] ';'])) := by
    simp [tokens, hresult, groupTokens, enclosedTokens]
  have hts : ∀ u ∈ ts ++ (starTokens n ++ [Token.ofWord [' '] name.text]), u.isQuiet = true := by
    rw [List.forall_mem_append, List.forall_mem_append, List.forall_mem_singleton]
    exact ⟨(List.forall_mem_cons.mp hquiet).2, isQuiet_of_mem_starTokens n, name.isQuiet⟩
  rw [hshape]
  exact Splitter.isItem_of_parenthesized hword hbegins hts
    (List.forall_mem_singleton.mpr (isParenthesized_groupTokens params)) isMark_semicolon

theorem isItem_callback (result : BaseType) (n : Nat) (name : Identifier)
    (params : List Variable) :
    Splitter.IsItem ((callback result n name params).tokens gap) := by
  have hshape : (callback result n name params).tokens gap =
      .ofWord gap "typedef" :: ((result.tokens [' '] ++ starTokens n) ++
        ([[.ofMark [' '] '(', .ofMark [] '*', .ofWord [] name.text, .ofMark [] ')'],
          groupTokens params].flatten ++ [.ofMark [] ';'])) := by
    simp [tokens, groupTokens, enclosedTokens]
  have hts : ∀ u ∈ result.tokens [' '] ++ starTokens n, u.isQuiet = true :=
    List.forall_mem_append.mpr ⟨result.isQuiet_of_mem, isQuiet_of_mem_starTokens n⟩
  have hgroups := List.forall_mem_cons.mpr ⟨isParenthesized_pointer name,
    List.forall_mem_singleton.mpr (isParenthesized_groupTokens params)⟩
  rw [hshape]
  exact Splitter.isItem_of_parenthesized rfl beginningWords_contains.1 hts hgroups isMark_semicolon

/-- A declaration of words and stars alone is an item. -/
theorem isItem_words {w : Text} (hw : Item.beginningWords.contains w = false) {ts : List Token}
    (hts : ∀ t ∈ ts, t.isQuiet = true) :
    Splitter.IsItem (.ofWord gap w :: (ts ++ [.ofMark [] ';'])) := by
  have hgroups : ∀ g ∈ ([] : List (List Token)), Splitter.IsParenthesized g :=
    fun _ h => absurd h List.not_mem_nil
  have hfirst : (Token.ofWord gap w).isOneOf Item.beginningWords = false := hw
  exact Splitter.isItem_of_parenthesized rfl hfirst hts hgroups isMark_semicolon

/-- A definition with braces behind the word that begins a tagged type is an item. -/
theorem isItem_body {tag : Text} (htag : Keyword.tags.contains tag = true)
    (hword : Item.beginningWords.contains tag = false) {body : List Token}
    (hbody : Splitter.IsBraced body) (name : Identifier) :
    Splitter.IsItem (.ofWord gap "typedef" :: .ofWord [' '] tag ::
      (body ++ [.ofWord [' '] name.text, .ofMark [] ';'])) := by
  have hts : ∀ t ∈ [Token.ofWord [' '] tag], t.isQuiet = true :=
    List.forall_mem_singleton.mpr (isQuiet_ofWord hword)
  have hus : ∀ t ∈ [Token.ofWord [' '] name.text], t.isQuiet = true :=
    List.forall_mem_singleton.mpr name.isQuiet
  have htags : ∃ t ∈ Token.ofWord gap "typedef" :: [Token.ofWord [' '] tag],
      t.isOneOf Keyword.tags = true :=
    ⟨_, List.mem_cons_of_mem _ (List.mem_singleton_self _), htag⟩
  have hfirst : (Token.ofWord gap "typedef").isOneOf Item.beginningWords = false :=
    beginningWords_contains.1
  exact Splitter.isItem_of_braced rfl hfirst hts htags hbody hus isMark_semicolon

/-- The tokens of a declaration are one item. -/
theorem isItem (d : Form) : Splitter.IsItem (d.tokens gap) := by
  obtain ⟨htypedef, hstruct, hunion, henum⟩ := beginningWords_contains
  have htags : Keyword.tags.contains ("struct" : Text) = true ∧
      Keyword.tags.contains ("union" : Text) = true ∧
      Keyword.tags.contains ("enum" : Text) = true := by decide +kernel
  have hrecord : ∀ (tag : Text) (name : Identifier) (fields : List Variable),
      recordTokens tag name fields =
        .ofWord [' '] tag :: (fieldTokens fields ++ [.ofWord [' '] name.text, .ofMark [] ';']) := by
    intro tag name fields
    simp [recordTokens, fieldTokens]
  cases d with
  | function result n name params => exact isItem_function result n name params
  | callback result n name params => exact isItem_callback result n name params
  | synonym name target =>
    have hts : ∀ t ∈ target.tokens [' '] ++ [Token.ofWord [' '] name.text], t.isQuiet = true :=
      List.forall_mem_append.mpr
        ⟨target.isQuiet_of_mem, List.forall_mem_singleton.mpr name.isQuiet⟩
    have hshape : (synonym name target).tokens gap = .ofWord gap "typedef" ::
        ((target.tokens [' '] ++ [.ofWord [' '] name.text]) ++ [.ofMark [] ';']) := by
      simp [tokens]
    rw [hshape]
    exact isItem_words htypedef hts
  | handle name =>
    have hts : ∀ t ∈ [Token.ofWord [' '] "struct", .ofWord [' '] name.text,
        .ofWord [' '] name.text], t.isQuiet = true := by
      rw [List.forall_mem_cons, List.forall_mem_cons, List.forall_mem_singleton]
      exact ⟨isQuiet_ofWord hstruct, name.isQuiet, name.isQuiet⟩
    exact isItem_words htypedef hts
  | struct name field fields =>
    rw [tokens, hrecord]
    exact isItem_body htags.1 hstruct (isBraced_fieldTokens _) name
  | union name field fields =>
    rw [tokens, hrecord]
    exact isItem_body htags.2.1 hunion (isBraced_fieldTokens _) name
  | enumeration name item items =>
    cases name with
    | none =>
      have hnone : ∀ t ∈ ([] : List Token), t.isQuiet = true :=
        fun _ h => absurd h List.not_mem_nil
      have htag : ∃ t ∈ Token.ofWord gap "enum" :: [], t.isOneOf Keyword.tags = true :=
        ⟨_, List.mem_singleton_self _, htags.2.2⟩
      have hfirst : (Token.ofWord gap "enum").isOneOf Item.beginningWords = false := henum
      exact Splitter.isItem_of_braced rfl hfirst hnone htag (isBraced_memberTokens item items) hnone
        isMark_semicolon
    | some name => exact isItem_body htags.2.2 henum (isBraced_memberTokens item items) name
  | marker name =>
    exact isItem_words henum (List.forall_mem_singleton.mpr name.isQuiet)

end Form

theorem isItem_of_mem_lineTokens {ds : List Form} :
    ∀ ts ∈ lineTokens gap ds, Splitter.IsItem ts := by
  induction ds generalizing gap with
  | nil => exact fun ts hts => absurd hts List.not_mem_nil
  | cons d ds ih => exact List.forall_mem_cons.mpr ⟨d.isItem, ih⟩

/-! ## Outcomes -/

/-- Only the first token of a base type has the gap before it. -/
private theorem BaseType.exists_tokens_eq_ofWord (b : BaseType) :
    ∃ word ts, ∀ gap, b.tokens gap = .ofWord gap word :: ts := by
  cases b <;> exact ⟨_, _, fun _ => rfl⟩

/-- Only the first token of a declaration has the gap before it. -/
private theorem Form.exists_tokens_eq_ofWord (d : Form) :
    ∃ word ts, ∀ gap, d.tokens gap = .ofWord gap word :: ts := by
  cases d with
  | function result n name params =>
    obtain ⟨word, ts, htokens⟩ := result.exists_tokens_eq_ofWord
    exact ⟨word, ts ++ _, fun gap => by rw [tokens, htokens, List.cons_append]⟩
  | enumeration name item items => cases name <;> exact ⟨_, _, fun _ => rfl⟩
  | _ => exact ⟨_, _, fun _ => rfl⟩

/-- Words, numbers and marks are whole. -/
theorem isWhole_of_all_isSolid {item : Item} (h : item.tokens.all (·.isSolid) = true) :
    isWhole item = true := by
  refine List.all_eq_true.mpr fun t ht => ?_
  have hsolid := List.all_eq_true.mp h t ht
  have hstray : (t.kind != .stray) = true := by
    rw [bne_iff_ne]
    intro hkind
    rw [Token.isSolid, hkind] at hsolid
    cases hsolid
  rw [hstray, hasWholeCondition, Token.isDirective_eq_false hsolid]
  rfl

/-- Pieces that are read as one content, in one way only, are a row of it. -/
theorem exists_contents?_eq {item : Item} {ps : List Piece} {c : Content} {w : Int}
    (hwhole : isWhole item = true) (hps : Piece.AreOrdered ps) (hne : ps ≠ [])
    (h : Reader.ReadsOnly item.entry ps ⟨c, w, []⟩) :
    ∃ source, contents? item ps = some [(c, source)] := by
  have hrow := Reader.IsRow.cons h List.nil_suffix (List.length_pos_iff.mpr hne) .nil
  obtain ⟨row, hread, hvalues⟩ := hrow.allWithSource hps
  obtain ⟨⟨c, source⟩, rfl, rfl⟩ := List.map_eq_singleton_iff.mp hvalues
  rw [contents?_eq, if_pos hwhole, hread]
  exact ⟨_, rfl⟩

/-- The item of an ordinary declaration is read as that declaration. -/
theorem exists_readItem_eq {d : Form} (hd : d.isOrdinary = true) (start : Nat) :
    ∃ span, readItem (Splitter.itemBehind start (d.tokens gap)) =
      [⟨.ok [d.declaration], span⟩] := by
  have hitem : Splitter.itemBehind start (d.tokens gap) =
      ⟨false, false, start + Text.byteSize gap, d.tokens []⟩ := by
    obtain ⟨word, ts, htokens⟩ := d.exists_tokens_eq_ofWord
    rw [htokens gap, htokens []]
    rfl
  rw [hitem]
  generalize hread : (⟨false, false, start + Text.byteSize gap, d.tokens []⟩ : Item) = item
  obtain ⟨ps, hgrouped, hne, c, w, honly, hdeclarations⟩ :=
    Form.isReadBack hd [] (d.tokens []).length
  have hentry : item.entry = content (Phrases.upTo ((d.tokens []).length + 1)) true := by
    rw [← hread]
    rfl
  have htokens : item.tokens = d.tokens [] := by rw [← hread]
  obtain ⟨source, hcontents⟩ := exists_contents?_eq
    (isWhole_of_all_isSolid (by rw [htokens]; exact d.all_isSolid)) hgrouped.areOrdered hne
    (by rw [hentry]; exact honly)
  rw [readItem, htokens, hgrouped.ofTokens?_eq]
  dsimp only
  rw [readPieces, hcontents]
  dsimp only
  rw [outcomesFrom, outcomesFrom, Outcome.ofContent, hdeclarations]
  exact ⟨_, rfl⟩

/-- The items of ordinary declarations are read as those declarations, and none is faulty. -/
theorem outcomes_lineTokens {ds : List Form} (hds : ∀ d ∈ ds, d.isOrdinary = true)
    (start : Nat) :
    (((Splitter.itemsFrom start (lineTokens gap ds)).flatMap readItem).flatMap
        Outcome.declarations).map (·.declaration) = ds.map Form.declaration ∧
      ((Splitter.itemsFrom start (lineTokens gap ds)).flatMap readItem).flatMap
        Outcome.diagnostics = [] := by
  induction ds generalizing gap start with
  | nil => exact ⟨rfl, rfl⟩
  | cons d ds ih =>
    rw [List.forall_mem_cons] at hds
    obtain ⟨span, hread⟩ := exists_readItem_eq hds.1 start
    obtain ⟨hdeclarations, hdiagnostics⟩ := ih hds.2 (start + Token.widthOf (d.tokens gap))
    rw [lineTokens, Splitter.itemsFrom, List.flatMap_cons, hread, List.singleton_append,
      List.flatMap_cons, List.flatMap_cons, List.map_append, hdeclarations, hdiagnostics]
    exact ⟨rfl, rfl⟩

/-! ## Headers -/

/-- A header of canonical declarations is read as exactly these, in order, and without a fault. -/
def ReadsBack (ds : List Form) : Prop :=
  (read (header ds)).declarations.map (·.declaration) = ds.map Form.declaration ∧
    (read (header ds)).diagnostics = []

instance (ds : List Form) : Decidable (ReadsBack ds) :=
  inferInstanceAs (Decidable (_ ∧ _))

/-- **Reading undoes writing**, for ordinary declarations. -/
theorem readsBack_of_isOrdinary {ds : List Form} (h : ∀ d ∈ ds, d.isOrdinary = true) :
    ReadsBack ds := by
  have hsplit : splitItems (tokens (header ds)) =
      (Splitter.itemsFrom 0 (lineTokens [] ds), 0) := by
    rw [tokens_header, Splitter.splitItems_flatten isItem_of_mem_lineTokens]
  obtain ⟨hdeclarations, hdiagnostics⟩ := outcomes_lineTokens h 0
  rw [ReadsBack, Header.read, hsplit]
  exact ⟨hdeclarations, (List.append_nil _).trans hdiagnostics⟩

/-- A text as an identifier; what is none becomes the identifier `x`. -/
def Identifier.ofText (text : Text) : Identifier :=
  if h : Header.isName text = true ∧ isReserved text = false then ⟨text, h.1, h.2⟩
  else ⟨['x'], by decide +kernel, by decide +kernel⟩

instance : Coe String Identifier := ⟨fun s => Identifier.ofText s⟩

/-- A declaration of each kind. -/
def sampleForms : List Form :=
  [.marker "sfml_Graphics", .synonym "sfScalar" .float, .handle "sfText",
    .struct "sfGrid" ⟨true, .named "sfText", 1, "text", none⟩
      [⟨false, .unsignedInt, 0, "cells", some 16⟩],
    .union "sfEvent" ⟨false, .int, 0, "type", none⟩ [],
    .enumeration (some "sfMode") ⟨"sfFull", some (.number 8)⟩ [⟨"sfLast", some (.named "sfFull")⟩],
    .enumeration none ⟨"sfNone", none⟩ [],
    .callback .void 0 "sfHandler" [⟨false, .void, 2, "data", none⟩, ⟨true, .char, 0, "key", none⟩],
    .function (.named "sfText") 1 "sfText_create" []]

/-- The lines of their header. -/
def sampleLines : List String :=
  ["enum sfml_Graphics;", "typedef float sfScalar;", "typedef struct sfText sfText;",
    "typedef struct \x7b const sfText* text; unsigned int cells[16]; \x7d sfGrid;",
    "typedef union \x7b int type; \x7d sfEvent;",
    "typedef enum \x7b sfFull = 8, sfLast = sfFull \x7d sfMode;", "enum \x7b sfNone \x7d;",
    "typedef void (*sfHandler)(void** data, const char key);", "sfText* sfText_create(void);"]

/-- The premise holds of declarations of every kind. -/
theorem readsBack_of_isOrdinary_sampleForms :
    header sampleForms = (sampleLines.flatMap fun l => Text.ofString l ++ ['\n']) ∧
      (∀ d ∈ sampleForms, d.isOrdinary = true) ∧ ReadsBack sampleForms := by
  have h : ∀ d ∈ sampleForms, d.isOrdinary = true := by decide +kernel
  exact ⟨by decide +kernel, h, readsBack_of_isOrdinary h⟩

/-- A function with a parameter whose type has the name of a qualifier. -/
def qualifiedForm : Form := .function .void 0 "f" [⟨false, .named "noreturn", 0, "x", none⟩]

/-- A word that qualifies types is no type: the parameter is read as one without a name. -/
theorem not_readsBack_qualifiedForm : ¬ ∀ ds : List Form, ReadsBack ds := by
  intro h
  have hread : ¬ ReadsBack [qualifiedForm] := by decide +kernel
  exact hread (h [qualifiedForm])

end Bindery.Canonical
