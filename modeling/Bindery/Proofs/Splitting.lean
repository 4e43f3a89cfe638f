import Bindery.Header.Item

/-!
# Items from tokens

A declaration that begins with a word that no statement begins with, goes on with words and stars,
parameters in parentheses or members in braces, and ends with a semicolon is one item. A row of such
declarations is a row of items.
-/

namespace Bindery.Header

namespace Token

/-- Whether the token is a word, a number or a mark. -/
def isSolid (t : Token) : Bool := t.kind == .word || t.kind == .number || t.kind == .mark

/-- Whether the token is a star or a word that does not begin an item wherever it stands. -/
def isQuiet (t : Token) : Bool := t.isMark '*' || (t.isWord && !t.isOneOf Item.beginningWords)

/-- Whether the token is solid and neither a bracket of an item nor its end. -/
def isInner (t : Token) : Bool :=
  t.isSolid && !(['(', ')', '{', '}', ';'].any (t.isMark ·))

/-- Whether the token is solid and no brace. -/
def isEnclosed (t : Token) : Bool := t.isSolid && !(['{', '}'].any (t.isMark ·))

/-- A mark is no other mark. -/
theorem isMark_eq_false {t : Token} {c d : Char} (h : t.isMark c = true) (hne : c ≠ d) :
    t.isMark d = false := by
  simp only [isMark, Bool.and_eq_true, beq_iff_eq] at h
  simp [isMark, h.2, hne]

/-- A word is no mark. -/
theorem isMark_eq_false_of_isWord {t : Token} (h : t.isWord = true) (c : Char) :
    t.isMark c = false := by
  rw [isWord, beq_iff_eq] at h
  simp [isMark, h]

theorem kind_of_isMark {t : Token} {c : Char} (h : t.isMark c = true) : t.kind = .mark := by
  simp only [isMark, Bool.and_eq_true, beq_iff_eq] at h
  exact h.1

theorem isSolid_of_isMark {t : Token} {c : Char} (h : t.isMark c = true) : t.isSolid = true := by
  simp [isSolid, kind_of_isMark h]

theorem isSolid_of_isWord {t : Token} (h : t.isWord = true) : t.isSolid = true := by
  rw [isWord, beq_iff_eq] at h
  simp [isSolid, h]

theorem isDirective_eq_false {t : Token} (h : t.isSolid = true) : t.isDirective = false := by
  simp only [isSolid, Bool.or_eq_true, beq_iff_eq] at h
  rcases h with (h | h) | h <;> simp [isDirective, h]

variable {t : Token}

/-- What is none of some words is not a given one of them. -/
theorem isTheWord_eq_false {words : List Text} (h : t.isOneOf words = false) {w : Text}
    (hw : w ∈ words) : t.isTheWord w = false := by
  rw [Bool.eq_false_iff]
  intro ht
  rw [isTheWord, Bool.and_eq_true, beq_iff_eq] at ht
  rw [isOneOf, ht.1, ht.2, Bool.true_and, List.contains_eq_mem, decide_eq_false_iff_not] at h
  exact h hw

/-- What is none of some words is none of a part of them. -/
theorem isOneOf_eq_false {words some : List Text} (h : t.isOneOf words = false)
    (hsome : some ⊆ words) : t.isOneOf some = false := by
  rw [Bool.eq_false_iff]
  intro ht
  rw [isOneOf, Bool.and_eq_true, List.contains_iff_mem] at ht
  rw [isOneOf, ht.1, Bool.true_and, List.contains_eq_mem, decide_eq_false_iff_not] at h
  exact h (hsome ht.2)

theorem isSolid_of_isQuiet (h : t.isQuiet = true) : t.isSolid = true := by
  rw [isQuiet, Bool.or_eq_true, Bool.and_eq_true] at h
  exact h.elim isSolid_of_isMark fun h => isSolid_of_isWord h.1

theorem isMark_eq_false_of_isQuiet (h : t.isQuiet = true) {c : Char} (hc : '*' ≠ c) :
    t.isMark c = false := by
  rw [isQuiet, Bool.or_eq_true, Bool.and_eq_true] at h
  exact h.elim (isMark_eq_false · hc) fun h => isMark_eq_false_of_isWord h.1 c

theorem isTheWord_eq_false_of_isQuiet (h : t.isQuiet = true) {w : Text}
    (hw : w ∈ Item.beginningWords) : t.isTheWord w = false := by
  rw [isQuiet, Bool.or_eq_true, Bool.and_eq_true, Bool.not_eq_true'] at h
  rcases h with h | ⟨-, h⟩
  · have hkind : t.isWord = false := by simp [isWord, kind_of_isMark h]
    rw [isTheWord, hkind, Bool.false_and]
  · exact isTheWord_eq_false h hw

end Token

namespace Splitter

variable {start : Nat} {items : List Item} {called : Bool} {opened : Parenthesis} {t : Token}
  {us ts : List Token}

/-- In an item and behind some of its tokens, outside its parentheses and braces. -/
def within (start : Nat) (items : List Item) (us : List Token) (called : Bool) : Splitter :=
  { offset := start + Token.widthOf us
    start := start
    taken := us.reverse
    called := called
    items := items }

/-- The same in parentheses. -/
def inParens (start : Nat) (items : List Item) (us : List Token) (called : Bool)
    (opened : Parenthesis) : Splitter :=
  { within start items us called with parens := [opened] }

/-- The same in braces that do not end the item. -/
def inBraces (start : Nat) (items : List Item) (us : List Token) : Splitter :=
  { within start items us false with braces := 1 }

theorem within_concat :
    within start items (us ++ [t]) called =
      { within start items us called with
        offset := start + Token.widthOf us + t.width
        taken := t :: us.reverse } := by
  simp [within, Token.widthOf, Nat.add_assoc]

/-- Whether the last of some tokens is solid. -/
def EndsSolid (us : List Token) : Prop := us.reverse.head?.any (·.isSolid) = true

@[simp] theorem endsSolid_concat : EndsSolid (us ++ [t]) ↔ t.isSolid = true := by
  simp [EndsSolid]

theorem EndsSolid.append (hus : EndsSolid us) (hts : ∀ t ∈ ts, t.isSolid = true) :
    EndsSolid (us ++ ts) := by
  rcases List.eq_nil_or_concat ts with rfl | ⟨ts, t, rfl⟩
  · rwa [List.append_nil]
  · rw [List.concat_eq_append] at hts ⊢
    rw [← List.append_assoc, endsSolid_concat]
    exact hts t List.mem_concat_self

/-- A token that does not end the item before it is taken into the item. -/
theorem step_eq_take (s : Splitter) (hextra : s.extra = false) (hheading : s.heading = .plain)
    (hlast : s.taken.head?.any (·.isSolid) = true) (ht : t.isSolid = true)
    (h : 0 < s.braces ∨
      t.isMark '}' = false ∧ (s.parens ≠ [] ∨ s.called = false ∨ t.kind = .mark)) :
    s.step t = { s.take t with offset := s.offset + t.width } := by
  obtain ⟨u, vs, htaken, hu⟩ : ∃ u vs, s.taken = u :: vs ∧ u.isSolid = true := by
    cases htaken : s.taken with
    | nil =>
      rw [htaken] at hlast
      cases hlast
    | cons u vs =>
      rw [htaken] at hlast
      exact ⟨u, vs, rfl, hlast⟩
  simp only [Token.isSolid, Bool.or_eq_true, beq_iff_eq] at hu
  have hsettle : s.settle = s := by rw [settle, hextra]
  have hlinkage : s.atLinkage = false := by
    rw [atLinkage, htaken]
    split
    · next he =>
      rw [← (List.cons.inj he).1]
      rcases hu with (hu | hu) | hu <;> simp [hu]
    · rfl
  have hstray : s.taken.all (·.kind == .stray) = false := by
    rw [htaken, List.all_cons]
    rcases hu with (hu | hu) | hu <;> simp [hu]
  have hends : s.endsBefore t = false := by
    simp only [endsBefore, hheading, hstray, Token.isDirective_eq_false ht, Bool.false_and,
      Bool.or_false]
    rcases h with h | ⟨hbrace, h⟩
    · have hbraces : (s.braces == 0) = false := beq_eq_false_iff_ne.mpr (by omega)
      rw [hbraces, Bool.false_and, Bool.false_and]
    · rcases h with h | h | h <;> simp [hbrace, h]
  have hnonempty : s.taken.isEmpty = false := by rw [htaken]; rfl
  simp only [step, accept, hextra, Bool.false_and, Bool.false_eq_true, if_false, hsettle,
    acceptSettled, hlinkage, hnonempty, hends]

/-! ### Words and stars -/

/-- A quiet token says nothing about the end of an item whose parameters are not behind it. -/
private theorem turn_of_isQuiet {s : Splitter} (hcalled : s.called = false)
    (ht : t.isQuiet = true) : s.turn t = s := by
  have hself : { s with called := false } = s := by rw [← hcalled]
  have hname : t.isTheWord ("namespace" : Text) = false :=
    Token.isTheWord_eq_false_of_isQuiet ht (by with_unfolding_all decide)
  simp only [turn, hname, Token.isMark_eq_false_of_isQuiet ht (show '*' ≠ '=' by decide), hcalled,
    Bool.false_and, Bool.false_eq_true, if_false, hself, ite_self]

private theorem take_of_isQuiet {s : Splitter} (hheading : s.heading = .plain)
    (hbraces : s.braces = 0) (hparens : s.parens = []) (hcalled : s.called = false)
    (ht : t.isQuiet = true) : s.take t = { s with taken := t :: s.taken } := by
  have hmark : ∀ c, '*' ≠ c → t.isMark c = false := fun c => Token.isMark_eq_false_of_isQuiet ht
  obtain ⟨offset, blocks, linkage, start, taken, heading, braces, body, parens, called, extra,
    items⟩ := s
  simp only at hheading hbraces hparens hcalled
  subst hheading hbraces hparens hcalled
  have hturn : ∀ s' : Splitter, s'.called = false → s'.turn t = s' := fun s' h =>
    turn_of_isQuiet h ht
  simp [take, takeOutside, hmark ';' (by decide), hmark '{' (by decide), hmark '(' (by decide),
    hmark ')' (by decide), hturn]

/-- Words and stars go on with an item. -/
theorem run_quiet (hus : EndsSolid us) (hts : ∀ t ∈ ts, t.isQuiet = true) :
    (within start items us false).run ts = within start items (us ++ ts) false := by
  induction ts generalizing us with
  | nil => rw [List.append_nil]; rfl
  | cons t ts ih =>
    have ht := hts t List.mem_cons_self
    have hsolid := Token.isSolid_of_isQuiet ht
    have hbrace := Token.isMark_eq_false_of_isQuiet ht (show '*' ≠ '}' by decide)
    have hstep : (within start items us false).step t = within start items (us ++ [t]) false := by
      rw [step_eq_take (within start items us false) rfl rfl hus hsolid
          (Or.inr ⟨hbrace, Or.inr (Or.inl rfl)⟩),
        take_of_isQuiet rfl rfl rfl rfl ht, within_concat]
      rfl
    rw [run, List.foldl_cons, hstep, List.append_cons us t ts]
    exact ih (endsSolid_concat.mpr hsolid) fun t' ht' => hts t' (List.mem_cons_of_mem t ht')

/-- A word between items begins one, behind the gap before it. -/
theorem step_begin (hword : t.isWord = true) (hbegins : t.isOneOf Item.beginningWords = false) :
    step { offset := start, items := items } t =
      within (start + Text.byteSize t.gap) items [t.withoutGap] false := by
  have hquiet : t.withoutGap.isQuiet = true := by
    change t.isQuiet = true
    rw [Token.isQuiet, hword, hbegins]
    exact Bool.or_true _
  have hmark := Token.isMark_eq_false_of_isWord hword
  have hcontinues : t.isOneOf Item.continuingWords = false :=
    Token.isOneOf_eq_false hbegins (by with_unfolding_all decide)
  have hcontrol : t.isOneOf Item.controlWords = false :=
    Token.isOneOf_eq_false hbegins (List.subset_append_left _ _)
  have hdo : t.isTheWord ("do" : Text) = false :=
    Token.isTheWord_eq_false hbegins (by with_unfolding_all decide)
  have hdirective := Token.isDirective_eq_false (Token.isSolid_of_isWord hword)
  have hheading : headingOf t = .plain := by
    simp only [headingOf, hdirective, hmark, hcontrol, hdo, Bool.false_and, Bool.or_self,
      Bool.false_eq_true, if_false]
  have hbegin : begin { offset := start, items := items } t =
      { offset := start, start := start + Text.byteSize t.gap, taken := [t.withoutGap],
        items := items } := by
    rw [begin, hheading]
    simp only [hdirective, Bool.false_eq_true, if_false]
    exact take_of_isQuiet rfl rfl rfl rfl hquiet
  have hopen : open_ { offset := start, items := items } t =
      { offset := start, start := start + Text.byteSize t.gap, taken := [t.withoutGap],
        items := items } := by
    rw [open_]
    simp only [hmark, hcontinues, Bool.false_and, Bool.false_eq_true, if_false, hbegin]
    cases items <;> rfl
  have haccept : accept { offset := start, items := items } t =
      open_ { offset := start, items := items } t := rfl
  rw [step, haccept, hopen, within, Nat.add_assoc, Token.byteSize_gap_add_widthOf]
  simp [Token.widthOf]

/-! ### Parentheses -/

/-- Tokens in parentheses, with none among them. -/
def IsParenthesized (ts : List Token) : Prop :=
  ∃ opening inside closing, ts = opening :: (inside ++ [closing]) ∧
    opening.isMark '(' = true ∧ (∀ t ∈ inside, t.isInner = true) ∧ closing.isMark ')' = true

private theorem step_opening (hus : EndsSolid us) (ht : t.isMark '(' = true) :
    (within start items us called).step t =
      inParens start items (us ++ [t])
        (called && (within start items us called).parenthesis == .attribute)
        (within start items us called).parenthesis := by
  have hmark : ∀ c, '(' ≠ c → t.isMark c = false := fun c => Token.isMark_eq_false ht
  rw [step_eq_take (within start items us called) rfl rfl hus (Token.isSolid_of_isMark ht)
    (Or.inr ⟨hmark '}' (by decide), Or.inr (Or.inr (Token.kind_of_isMark ht))⟩), inParens,
    within_concat]
  simp only [take, takeOutside, within, hmark ';' (by decide), hmark '{' (by decide), ht, Nat.lt_irrefl,
    gt_iff_lt, Bool.false_eq_true, if_false, if_true]

private theorem run_inner (hus : EndsSolid us) (hts : ∀ t ∈ ts, t.isInner = true) :
    (inParens start items us called opened).run ts =
      inParens start items (us ++ ts) called opened := by
  induction ts generalizing us with
  | nil => rw [List.append_nil]; rfl
  | cons t ts ih =>
    have ht := hts t List.mem_cons_self
    simp only [Token.isInner, List.any_cons, List.any_nil, Bool.or_false, Bool.and_eq_true,
      Bool.not_eq_true', Bool.or_eq_false_iff] at ht
    obtain ⟨hsolid, hopening, hclosing, hbrace, hbrace', hsemicolon⟩ := ht
    have hstep : (inParens start items us called opened).step t =
        inParens start items (us ++ [t]) called opened := by
      rw [step_eq_take (inParens start items us called opened) rfl rfl hus hsolid
          (Or.inr ⟨hbrace', Or.inl (List.cons_ne_nil _ _)⟩), inParens, inParens, within_concat]
      simp [take, takeOutside, within, hopening, hclosing, hbrace, hsemicolon]
    rw [run, List.foldl_cons, hstep, List.append_cons us t ts]
    exact ih (endsSolid_concat.mpr hsolid) fun t' ht' => hts t' (List.mem_cons_of_mem t ht')

private theorem step_closing (hus : EndsSolid us) (ht : t.isMark ')' = true) :
    (inParens start items us called opened).step t =
      within start items (us ++ [t]) (opened == .parameters || called) := by
  have hmark : ∀ c, ')' ≠ c → t.isMark c = false := fun c => Token.isMark_eq_false ht
  rw [step_eq_take (inParens start items us called opened) rfl rfl hus (Token.isSolid_of_isMark ht)
    (Or.inr ⟨hmark '}' (by decide), Or.inl (List.cons_ne_nil _ _)⟩), within_concat]
  simp only [take, takeOutside, inParens, within, hmark ';' (by decide), hmark '{' (by decide),
    hmark '(' (by decide), ht, Nat.lt_irrefl, gt_iff_lt, Bool.false_eq_true, if_false, if_true]

/-- Parentheses go on with an item. -/
theorem run_parenthesized (hus : EndsSolid us) (hts : IsParenthesized ts) :
    ∃ called', (within start items us called).run ts = within start items (us ++ ts) called' := by
  obtain ⟨opening, inside, closing, rfl, hopening, hinside, hclosing⟩ := hts
  have hopened : EndsSolid (us ++ [opening]) :=
    endsSolid_concat.mpr (Token.isSolid_of_isMark hopening)
  have hinner := hopened.append fun t ht => (Bool.and_eq_true_iff.mp (hinside t ht)).1
  rw [run, List.foldl_cons, step_opening hus hopening, ← run, run_append, run_inner hopened hinside,
    run, List.foldl_cons, step_closing hinner hclosing, List.foldl_nil, List.append_assoc,
    List.append_assoc, List.singleton_append]
  exact ⟨_, rfl⟩

/-- Any number of parentheses go on with an item. -/
theorem run_flatten (start : Nat) (items : List Item) (called : Bool)
    {groups : List (List Token)} (hus : EndsSolid us)
    (hgroups : ∀ g ∈ groups, IsParenthesized g) :
    ∃ called', (within start items us called).run groups.flatten =
        within start items (us ++ groups.flatten) called' ∧
      EndsSolid (us ++ groups.flatten) := by
  induction groups generalizing us called with
  | nil =>
    rw [List.flatten_nil, List.append_nil]
    exact ⟨called, rfl, hus⟩
  | cons g groups ih =>
    have hg := hgroups g List.mem_cons_self
    have hgs : EndsSolid (us ++ g) := by
      obtain ⟨opening, inside, closing, rfl, -, -, hclosing⟩ := hg
      rw [← List.cons_append, ← List.append_assoc, endsSolid_concat]
      exact Token.isSolid_of_isMark hclosing
    obtain ⟨called₁, hrun⟩ := run_parenthesized hus hg
    obtain ⟨called₂, hruns, hends⟩ :=
      ih called₁ hgs fun g' hg' => hgroups g' (List.mem_cons_of_mem g hg')
    rw [List.append_assoc] at hruns hends
    rw [List.flatten_cons, run_append, hrun]
    exact ⟨called₂, hruns, hends⟩

/-! ### Braces -/

/-- Tokens in braces, with none among them. -/
def IsBraced (ts : List Token) : Prop :=
  ∃ opening inside closing, ts = opening :: (inside ++ [closing]) ∧
    opening.isMark '{' = true ∧ (∀ t ∈ inside, t.isEnclosed = true) ∧ closing.isMark '}' = true

private theorem step_openingBrace (hus : ∃ u ∈ us.reverse.head?, u.isQuiet = true)
    (ht : t.isMark '{' = true) :
    (within start items us false).step t = inBraces start items (us ++ [t]) := by
  have hmark : ∀ c, '{' ≠ c → t.isMark c = false := fun c => Token.isMark_eq_false ht
  obtain ⟨u, hu, hquiet⟩ := hus
  have hlast : EndsSolid us := by
    rw [EndsSolid, Option.mem_def.mp hu]
    exact Token.isSolid_of_isQuiet hquiet
  have hbody : (within start items us false).opensBody = false := by
    have htry : u.isTheWord ("try" : Text) = false :=
      Token.isTheWord_eq_false_of_isQuiet hquiet (by with_unfolding_all decide)
    rw [opensBody]
    simp only [within, Option.mem_def.mp hu, Option.any_some, htry, Bool.or_self, Bool.and_false]
  have htake : (within start items us false).take t =
      { within start items us false with
        taken := t :: us.reverse
        braces := 1
        body := (within start items us false).opensBody } := by
    simp only [take, takeOutside, within, hmark ';' (by decide), ht, Nat.lt_irrefl, gt_iff_lt,
      Bool.false_eq_true, if_false, if_true]
  rw [step_eq_take (within start items us false) rfl rfl hlast (Token.isSolid_of_isMark ht)
    (Or.inr ⟨hmark '}' (by decide), Or.inr (Or.inl rfl)⟩), htake, hbody, inBraces, within_concat]
  rfl

private theorem run_enclosed (hus : EndsSolid us) (hts : ∀ t ∈ ts, t.isEnclosed = true) :
    (inBraces start items us).run ts = inBraces start items (us ++ ts) := by
  induction ts generalizing us with
  | nil => rw [List.append_nil]; rfl
  | cons t ts ih =>
    have ht := hts t List.mem_cons_self
    simp only [Token.isEnclosed, List.any_cons, List.any_nil, Bool.or_false, Bool.and_eq_true,
      Bool.not_eq_true', Bool.or_eq_false_iff] at ht
    obtain ⟨hsolid, hopening, hclosing⟩ := ht
    have hstep : (inBraces start items us).step t = inBraces start items (us ++ [t]) := by
      rw [step_eq_take (inBraces start items us) rfl rfl hus hsolid (Or.inl Nat.one_pos),
        inBraces, inBraces, within_concat]
      simp [take, takeInBraces, within, hopening, hclosing]
    rw [run, List.foldl_cons, hstep, List.append_cons us t ts]
    exact ih (endsSolid_concat.mpr hsolid) fun t' ht' => hts t' (List.mem_cons_of_mem t ht')

private theorem step_closingBrace (hus : EndsSolid us) (ht : t.isMark '}' = true)
    (htag : ∃ u ∈ us, u.isOneOf Keyword.tags = true) :
    (inBraces start items us).step t = within start items (us ++ [t]) false := by
  have hbrace := Token.isMark_eq_false ht (show '}' ≠ '{' by decide)
  have hvalue : (inBraces start items us).closesValue = false := by
    have hany : us.reverse.any (·.isOneOf Keyword.tags) = true := by
      rw [List.any_reverse]
      exact List.any_eq_true.mpr htag
    rw [closesValue]
    simp only [inBraces, within, hany, Bool.not_true, Bool.and_false]
  have htake : (inBraces start items us).take t =
      { within start items us (inBraces start items us).closesValue with
        taken := t :: us.reverse } := by
    simp [take, takeInBraces, inBraces, within, hbrace, ht, closesValue]
  rw [step_eq_take (inBraces start items us) rfl rfl hus (Token.isSolid_of_isMark ht)
    (Or.inl Nat.one_pos), htake, hvalue, within_concat]
  rfl

/-- Braces behind the word that begins a tagged type go on with an item. -/
theorem run_braced (hus : ∃ u ∈ us.reverse.head?, u.isQuiet = true)
    (htag : ∃ u ∈ us, u.isOneOf Keyword.tags = true) (hts : IsBraced ts) :
    (within start items us false).run ts = within start items (us ++ ts) false := by
  obtain ⟨opening, inside, closing, rfl, hopening, hinside, hclosing⟩ := hts
  have hopened : EndsSolid (us ++ [opening]) :=
    endsSolid_concat.mpr (Token.isSolid_of_isMark hopening)
  have hinner := hopened.append fun t ht => (Bool.and_eq_true_iff.mp (hinside t ht)).1
  have htag' : ∃ u ∈ us ++ [opening] ++ inside, u.isOneOf Keyword.tags = true := by
    obtain ⟨u, hu, htag⟩ := htag
    exact ⟨u, List.mem_append_left _ (List.mem_append_left _ hu), htag⟩
  rw [run, List.foldl_cons, step_openingBrace hus hopening, ← run, run_append,
    run_enclosed hopened hinside, run, List.foldl_cons, step_closingBrace hinner hclosing htag',
    List.foldl_nil, List.append_assoc, List.append_assoc, List.singleton_append]

/-! ### Whole items -/

/-- A semicolon ends an item. -/
theorem step_semicolon (hus : EndsSolid us) (ht : t.isMark ';' = true) :
    (within start items us called).step t =
      { offset := start + Token.widthOf (us ++ [t])
        items := ⟨false, false, start, us ++ [t]⟩ :: items } := by
  have hbrace := Token.isMark_eq_false ht (show ';' ≠ '}' by decide)
  rw [step_eq_take (within start items us called) rfl rfl hus (Token.isSolid_of_isMark ht)
    (Or.inr ⟨hbrace, Or.inr (Or.inr (Token.kind_of_isMark ht))⟩)]
  simp [take, takeOutside, within, ht, endsAtSemicolon, close, between, Token.widthOf, Nat.add_assoc]

/-- The item that some tokens are behind so many bytes. -/
def itemBehind (offset : Nat) : List Token → Item
  | [] => ⟨false, false, offset, []⟩
  | t :: ts => ⟨false, false, offset + Text.byteSize t.gap, t.withoutGap :: ts⟩

/-- Tokens that are one item wherever an item may begin. -/
def IsItem (ts : List Token) : Prop :=
  ∀ (start : Nat) (items : List Item),
    run { offset := start, items := items } ts =
      { offset := start + Token.widthOf ts, items := itemBehind start ts :: items }

/-- A declaration without braces is an item. -/
theorem isItem_of_parenthesized {first last : Token} {groups : List (List Token)}
    (hword : first.isWord = true) (hbegins : first.isOneOf Item.beginningWords = false)
    (hts : ∀ t ∈ ts, t.isQuiet = true) (hgroups : ∀ g ∈ groups, IsParenthesized g)
    (hlast : last.isMark ';' = true) : IsItem (first :: (ts ++ (groups.flatten ++ [last]))) := by
  intro start items
  have hfirst : EndsSolid [first.withoutGap] := Token.isSolid_of_isWord hword
  have hquiet := hfirst.append fun t ht => Token.isSolid_of_isQuiet (hts t ht)
  obtain ⟨called, hrun, hends⟩ :=
    run_flatten (start + Text.byteSize first.gap) items false hquiet hgroups
  rw [run, List.foldl_cons, step_begin hword hbegins, ← run, run_append, run_quiet hfirst hts,
    run_append, hrun, run, List.foldl_cons, step_semicolon hends hlast, Nat.add_assoc]
  simp [itemBehind, ← Token.byteSize_gap_add_widthOf first]

/-- A declaration with braces behind the word that begins a tagged type is an item. -/
theorem isItem_of_braced {first last : Token} {body : List Token}
    (hword : first.isWord = true) (hbegins : first.isOneOf Item.beginningWords = false)
    (hts : ∀ t ∈ ts, t.isQuiet = true)
    (htag : ∃ t ∈ first :: ts, t.isOneOf Keyword.tags = true) (hbody : IsBraced body)
    (hus : ∀ t ∈ us, t.isQuiet = true) (hlast : last.isMark ';' = true) :
    IsItem (first :: (ts ++ (body ++ (us ++ [last])))) := by
  intro start items
  have hfirst : EndsSolid [first.withoutGap] := Token.isSolid_of_isWord hword
  have hquiet : ∀ t ∈ first.withoutGap :: ts, t.isQuiet = true := by
    rw [List.forall_mem_cons]
    refine ⟨?_, hts⟩
    change first.isQuiet = true
    rw [Token.isQuiet, hword, hbegins]
    exact Bool.or_true _
  obtain ⟨u, hu⟩ : ∃ u, (first.withoutGap :: ts).reverse.head? = some u := by
    rw [List.head?_reverse]
    exact ⟨_, List.getLast?_eq_some_getLast (List.cons_ne_nil first.withoutGap ts)⟩
  have hbefore : ∃ u ∈ (first.withoutGap :: ts).reverse.head?, u.isQuiet = true :=
    ⟨u, hu, hquiet u (List.mem_reverse.mp (List.mem_of_head? hu))⟩
  have htag' : ∃ u ∈ first.withoutGap :: ts, u.isOneOf Keyword.tags = true := by
    obtain ⟨u, hu, htag⟩ := htag
    rcases List.mem_cons.mp hu with rfl | hu
    · exact ⟨_, List.mem_cons_self, htag⟩
    · exact ⟨u, List.mem_cons_of_mem _ hu, htag⟩
  have hbehind : EndsSolid (first.withoutGap :: ts ++ body) := by
    obtain ⟨opening, inside, closing, rfl, -, -, hclosing⟩ := hbody
    rw [← List.cons_append, ← List.append_assoc, endsSolid_concat]
    exact Token.isSolid_of_isMark hclosing
  have hends := hbehind.append fun t ht => Token.isSolid_of_isQuiet (hus t ht)
  rw [run, List.foldl_cons, step_begin hword hbegins, ← run, run_append, run_quiet hfirst hts,
    run_append, List.singleton_append, run_braced hbefore htag' hbody, run_append,
    run_quiet hbehind hus, run, List.foldl_cons, step_semicolon hends hlast, Nat.add_assoc]
  simp [itemBehind, ← Token.byteSize_gap_add_widthOf first]

/-- The items that some runs of tokens are, one after the other. -/
def itemsFrom (start : Nat) : List (List Token) → List Item
  | [] => []
  | ts :: tss => itemBehind start ts :: itemsFrom (start + Token.widthOf ts) tss

theorem run_items {tss : List (List Token)} (h : ∀ ts ∈ tss, IsItem ts) :
    run { offset := start, items := items } tss.flatten =
      { offset := start + Token.widthOf tss.flatten
        items := (itemsFrom start tss).reverse ++ items } := by
  induction tss generalizing start items with
  | nil => rfl
  | cons ts tss ih =>
    rw [List.flatten_cons, run_append, h ts List.mem_cons_self,
      ih fun us hus => h us (List.mem_cons_of_mem ts hus)]
    simp [itemsFrom, Nat.add_assoc]

/-- A row of items is split into them. -/
theorem splitItems_flatten {tss : List (List Token)} (h : ∀ ts ∈ tss, IsItem ts) :
    splitItems tss.flatten = (itemsFrom 0 tss, 0) := by
  rw [splitItems, show ({} : Splitter) = { offset := 0, items := [] } from rfl, run_items h]
  simp [settle, close, between]

end Splitter

end Bindery.Header
