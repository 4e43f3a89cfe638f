import Bindery.Proofs.Canonical
import Bindery.Proofs.Splitting

/-!
# Tokens of canonical declarations

The tokens of each part of a canonical declaration, and of the whole, behind blanks that may differ
from place to place. The text of each part is read as its tokens.
-/

namespace Bindery.Canonical

open Header

variable {gap : Text}

/-! ## Types -/

namespace BaseType

/-- The tokens of a base type. -/
def tokens (gap : Text) : BaseType → List Token
  | .unsignedInt => [.ofWord gap "unsigned", .ofWord [' '] "int"]
  | b => [.ofWord gap b.text]

theorem reads (hgap : ∀ c ∈ gap, isSpace c = true) (b : BaseType) :
    Reads gap.isEmpty (gap ++ b.text) (b.tokens gap) false := by
  cases b with
  | unsignedInt =>
    have htext : BaseType.unsignedInt.text = ("unsigned" : Text) ++ ' ' :: ("int" : Text) := by
      with_unfolding_all decide
    rw [htext, ← List.append_assoc]
    exact (Reads.word hgap (by with_unfolding_all decide)).append (Reads.spaced
      (by with_unfolding_all decide))
  | named name => exact Reads.word hgap name.isName
  | _ => exact Reads.word hgap (by with_unfolding_all decide)

end BaseType

/-- The tokens of so many stars. -/
def starTokens (n : Nat) : List Token := List.replicate n (.ofMark [] '*')

theorem reads_stars (n : Nat) : Reads false (stars n) (starTokens n) false := by
  induction n with
  | zero => exact Reads.nil
  | succ n ih => exact (Reads.adjoiningMark (by decide)).loosen.append ih

/-! ## Parameters and fields -/

namespace Variable

/-- The tokens of a type without the size of an array. -/
def typeTokens (gap : Text) (v : Variable) : List Token :=
  (if v.isConst then .ofWord gap "const" :: v.base.tokens [' '] else v.base.tokens gap) ++
    starTokens v.stars

/-- The tokens of the size of an array. -/
def sizeTokens (v : Variable) : List Token :=
  match v.size with
  | none => []
  | some n => [.ofMark [] '[', .ofNumber [] n, .ofMark [] ']']

/-- The tokens of a parameter or a field. -/
def tokens (gap : Text) (v : Variable) : List Token :=
  v.typeTokens gap ++ .ofWord [' '] v.name.text :: v.sizeTokens

theorem reads_elementType (hgap : ∀ c ∈ gap, isSpace c = true) (v : Variable) :
    Reads gap.isEmpty (gap ++ v.elementType) (v.typeTokens gap) false := by
  rw [elementType, typeTokens, ← List.append_assoc]
  refine Reads.append ?_ (reads_stars v.stars)
  cases v.isConst with
  | false => exact v.base.reads hgap
  | true =>
    have hconst : ("const " : Text) = ("const" : Text) ++ [' '] := by with_unfolding_all decide
    have hbase := v.base.reads isSpace_of_mem_space
    rw [if_pos rfl, hconst, List.append_assoc, ← List.append_assoc]
    exact (Reads.word hgap (by with_unfolding_all decide)).append hbase

theorem reads_size (v : Variable) : Reads false v.sizeText v.sizeTokens false := by
  rw [sizeText, sizeTokens]
  cases v.size with
  | none => exact Reads.nil
  | some n =>
    have hnumber := Reads.number isSpace_of_mem_nil n
    have hclosing : Reads false [']'] [Token.ofMark [] ']'] true := Reads.adjoiningMark (by decide)
    exact (Reads.adjoiningMark (by decide)).append (hnumber.append hclosing.loosen)

theorem reads (hgap : ∀ c ∈ gap, isSpace c = true) (v : Variable) :
    Reads gap.isEmpty (gap ++ v.text) (v.tokens gap) false := by
  have hname : Reads false (' ' :: v.name.text ++ v.sizeText)
      (.ofWord [' '] v.name.text :: v.sizeTokens) false :=
    (Reads.spaced v.name.isName).append v.reads_size
  have hwhole := (v.reads_elementType hgap).append hname
  rwa [List.append_assoc, ← List.append_assoc v.elementType] at hwhole

end Variable

/-! ## Lists -/

section Lists

variable {α : Type} {text : α → Text} {tokens : Text → α → List Token}

/-- The tokens of the members of a list. -/
def listedTokens (tokens : Text → α → List Token) (gap : Text) (a : α) (as : List α) : List Token :=
  tokens gap a ++ as.flatMap fun b => .ofMark [] ',' :: tokens [' '] b

theorem reads_listed
    (h : ∀ {gap : Text}, (∀ c ∈ gap, isSpace c = true) → ∀ a,
      Reads gap.isEmpty (gap ++ text a) (tokens gap a) false)
    (hgap : ∀ c ∈ gap, isSpace c = true) (a : α) (as : List α) :
    Reads gap.isEmpty (gap ++ listed text a as) (listedTokens tokens gap a as) false := by
  have hbehind : Reads false (as.flatMap fun b => ',' :: ' ' :: text b)
      (as.flatMap fun b => .ofMark [] ',' :: tokens [' '] b) false := by
    induction as with
    | nil => exact Reads.nil
    | cons b as ih =>
      have hmember := h isSpace_of_mem_space b
      have hcomma : Reads false [','] [Token.ofMark [] ','] false :=
        (Reads.adjoiningMark (by decide)).loosen
      have hnext := (hcomma.append hmember).append ih
      rwa [List.append_assoc] at hnext
  rw [listed, listedTokens, ← List.append_assoc]
  exact (h hgap a).append hbehind

end Lists

/-- The tokens of parameters, without their parentheses. -/
def paramTokens : List Variable → List Token
  | [] => [.ofWord [] "void"]
  | v :: vs => listedTokens Variable.tokens [] v vs

theorem reads_params (vs : List Variable) : Reads true (paramsText vs) (paramTokens vs) false := by
  cases vs with
  | nil => exact Reads.word isSpace_of_mem_nil (by with_unfolding_all decide)
  | cons v vs =>
    exact reads_listed (fun hgap => Variable.reads hgap) isSpace_of_mem_nil v vs

/-- The tokens of parameters in parentheses and of the semicolon behind them. -/
def enclosedTokens (vs : List Variable) : List Token :=
  .ofMark [] '(' :: (paramTokens vs ++ [.ofMark [] ')', .ofMark [] ';'])

theorem reads_enclosed (vs : List Variable) :
    Reads false ('(' :: paramsText vs ++ [')', ';']) (enclosedTokens vs) true := by
  have hopening : Reads false ['('] [Token.ofMark [] '('] true := Reads.adjoiningMark (by decide)
  have hclosing : Reads false [')'] [Token.ofMark [] ')'] true := Reads.adjoiningMark (by decide)
  have hsemicolon : Reads false [';'] [Token.ofMark [] ';'] true := Reads.adjoiningMark (by decide)
  have hbehind := hclosing.loosen.append hsemicolon
  exact hopening.append ((reads_params vs).append hbehind)

/-! ## Members of enumerations -/

/-- The token of a value. -/
def Value.token : Value → Token
  | .number n => .ofNumber [' '] n
  | .named name => .ofWord [' '] name.text

theorem Value.reads (v : Value) : Reads false (' ' :: v.text) [v.token] false := by
  cases v with
  | number n => exact Reads.number isSpace_of_mem_space n
  | named name => exact Reads.spaced name.isName

/-- The tokens of a member of an enumeration. -/
def Constant.tokens (gap : Text) (c : Constant) : List Token :=
  .ofWord gap c.name.text ::
    match c.value with
    | none => []
    | some v => [.ofMark [' '] '=', v.token]

theorem Constant.reads (hgap : ∀ c ∈ gap, isSpace c = true) (c : Constant) :
    Reads gap.isEmpty (gap ++ c.text) (c.tokens gap) false := by
  have hname := Reads.word hgap c.name.isName
  rw [text, tokens, ← List.append_assoc]
  cases c.value with
  | none => exact hname.append Reads.nil
  | some v =>
    have hequals : Reads false [' ', '='] [Token.ofMark [' '] '='] true :=
      Reads.spacedMark (by decide)
    exact hname.append (hequals.loosen.append v.reads)

/-! ## Declarations -/

namespace Form

/-- The tokens of a structure or a union behind the word that begins a type definition. -/
def recordTokens (tag : Text) (name : Identifier) (fields : List Variable) : List Token :=
  .ofWord [' '] tag :: .ofMark [' '] '{' ::
    ((fields.flatMap fun v => v.tokens [' '] ++ [.ofMark [] ';']) ++
      [.ofMark [' '] '}', .ofWord [' '] name.text, .ofMark [] ';'])

/-- The tokens of an enumeration behind the word that begins it, up to the brace that closes it. -/
def memberTokens (item : Constant) (items : List Constant) : List Token :=
  .ofMark [' '] '{' :: (listedTokens Constant.tokens [' '] item items ++ [.ofMark [' '] '}'])

/-- The tokens of a declaration. -/
def tokens (gap : Text) : Form → List Token
  | .function result n name params =>
    result.tokens gap ++ (starTokens n ++ .ofWord [' '] name.text :: enclosedTokens params)
  | .callback result n name params =>
    .ofWord gap "typedef" :: (result.tokens [' '] ++ (starTokens n ++
      .ofMark [' '] '(' :: .ofMark [] '*' :: .ofWord [] name.text :: .ofMark [] ')' ::
        enclosedTokens params))
  | .synonym name target =>
    .ofWord gap "typedef" :: (target.tokens [' '] ++ [.ofWord [' '] name.text, .ofMark [] ';'])
  | .handle name =>
    [.ofWord gap "typedef", .ofWord [' '] "struct", .ofWord [' '] name.text,
      .ofWord [' '] name.text, .ofMark [] ';']
  | .struct name field fields =>
    .ofWord gap "typedef" :: recordTokens "struct" name (field :: fields)
  | .union name field fields =>
    .ofWord gap "typedef" :: recordTokens "union" name (field :: fields)
  | .enumeration (some name) item items =>
    .ofWord gap "typedef" :: .ofWord [' '] "enum" ::
      (memberTokens item items ++ [.ofWord [' '] name.text, .ofMark [] ';'])
  | .enumeration none item items =>
    .ofWord gap "enum" :: (memberTokens item items ++ [.ofMark [] ';'])
  | .marker name => [.ofWord gap "enum", .ofWord [' '] name.text, .ofMark [] ';']

private theorem reads_semicolon : Reads false [';'] [Token.ofMark [] ';'] true :=
  Reads.adjoiningMark (by decide)

/-- A name and a semicolon. -/
private theorem reads_name (name : Identifier) :
    Reads false (' ' :: name.text ++ [';']) [.ofWord [' '] name.text, .ofMark [] ';'] true :=
  (Reads.spaced name.isName).append reads_semicolon

private theorem reads_record {tag : Text} (htag : isName tag = true) (name : Identifier)
    (fields : List Variable) :
    Reads false (' ' :: recordText tag name fields) (recordTokens tag name fields) true := by
  have hfields : Reads false (fields.flatMap fun v => ' ' :: v.text ++ [';'])
      (fields.flatMap fun v => v.tokens [' '] ++ [.ofMark [] ';']) false := by
    induction fields with
    | nil => exact Reads.nil
    | cons v fields ih =>
      exact ((v.reads isSpace_of_mem_space).append reads_semicolon).loosen.append ih
  have hopening : Reads false [' ', '{'] [Token.ofMark [' '] '{'] true :=
    Reads.spacedMark (by decide)
  have hclosing : Reads false [' ', '}'] [Token.ofMark [' '] '}'] true :=
    Reads.spacedMark (by decide)
  have hwhole := (Reads.spaced htag).append
    (hopening.loosen.append (hfields.append (hclosing.loosen.append (reads_name name))))
  simpa [recordText, recordTokens] using hwhole

private theorem reads_members (item : Constant) (items : List Constant) :
    Reads false (' ' :: '{' :: ' ' :: listed Constant.text item items ++ [' ', '}'])
      (memberTokens item items) true := by
  have hopening : Reads false [' ', '{'] [Token.ofMark [' '] '{'] true :=
    Reads.spacedMark (by decide)
  have hclosing : Reads false [' ', '}'] [Token.ofMark [' '] '}'] true :=
    Reads.spacedMark (by decide)
  have hitems := reads_listed (fun hgap => Constant.reads hgap) isSpace_of_mem_space item items
  exact hopening.loosen.append (hitems.append hclosing)

theorem reads (hgap : ∀ c ∈ gap, isSpace c = true) (d : Form) :
    Reads gap.isEmpty (gap ++ d.text) (d.tokens gap) true := by
  have htypedef := Reads.word hgap (show isName ("typedef" : Text) = true
    by with_unfolding_all decide)
  have henum := Reads.word hgap (show isName ("enum" : Text) = true by with_unfolding_all decide)
  cases d with
  | function result n name params =>
    have hname := (Reads.spaced name.isName).append (reads_enclosed params)
    have hwhole := (result.reads hgap).append ((reads_stars n).append hname)
    simpa [text, tokens] using hwhole
  | callback result n name params =>
    have hopening : Reads false [' ', '('] [Token.ofMark [' '] '('] true :=
      Reads.spacedMark (by decide)
    have hstar : Reads false ['*'] [Token.ofMark [] '*'] true := Reads.adjoiningMark (by decide)
    have hclosing : Reads false [')'] [Token.ofMark [] ')'] true := Reads.adjoiningMark (by decide)
    have hname := (Reads.word isSpace_of_mem_nil name.isName).append
      (hclosing.loosen.append (reads_enclosed params))
    have hdeclarator := hopening.loosen.append (hstar.append hname)
    have hwhole := htypedef.append ((result.reads isSpace_of_mem_space).append
      ((reads_stars n).append hdeclarator))
    simpa [text, tokens] using hwhole
  | synonym name target =>
    have hwhole := htypedef.append ((target.reads isSpace_of_mem_space).append (reads_name name))
    simpa [text, tokens] using hwhole
  | handle name =>
    have hstruct := Reads.spaced (show isName ("struct" : Text) = true by with_unfolding_all decide)
    have hwhole := htypedef.append
      (hstruct.append ((Reads.spaced name.isName).append (reads_name name)))
    simpa [text, tokens] using hwhole
  | struct name field fields =>
    have hrecord := reads_record (show isName ("struct" : Text) = true
      by with_unfolding_all decide) name
      (field :: fields)
    simpa [text, tokens] using htypedef.append hrecord
  | union name field fields =>
    have hrecord := reads_record (show isName ("union" : Text) = true
      by with_unfolding_all decide) name
      (field :: fields)
    simpa [text, tokens] using htypedef.append hrecord
  | enumeration name item items =>
    cases name with
    | none =>
      have hwhole := henum.append ((reads_members item items).loosen.append reads_semicolon)
      simpa [text, tokens] using hwhole
    | some name =>
      have htag := Reads.spaced (show isName ("enum" : Text) = true by with_unfolding_all decide)
      have hwhole := htypedef.append
        (htag.append ((reads_members item items).loosen.append (reads_name name)))
      simpa [text, tokens] using hwhole
  | marker name => simpa [text, tokens] using henum.append (reads_name name)

/-- A declaration begins with a word. -/
theorem exists_prefix_text (d : Form) : ∃ w, isName w = true ∧ w <+: d.text := by
  have hresult : ∀ b : BaseType, ∃ w, isName w = true ∧ w <+: b.text := by
    intro b
    cases b with
    | unsignedInt => exact ⟨"unsigned", by with_unfolding_all decide, ' ' :: ("int" : Text),
      by with_unfolding_all decide⟩
    | named name => exact ⟨name.text, name.isName, List.prefix_rfl⟩
    | _ => exact ⟨_, by with_unfolding_all decide, List.prefix_rfl⟩
  have htypedef : isName ("typedef" : Text) = true := by with_unfolding_all decide
  have henum : isName ("enum" : Text) = true := by with_unfolding_all decide
  cases d with
  | function result n name params =>
    obtain ⟨w, hname, hw⟩ := hresult result
    refine ⟨w, hname, ?_⟩
    simp only [text, List.append_assoc]
    exact hw.trans (List.prefix_append _ _)
  | enumeration name item items =>
    cases name with
    | none => exact ⟨"enum", henum, by simp only [text, List.append_assoc, List.prefix_append]⟩
    | some name =>
      exact ⟨"typedef", htypedef, by simp only [text, List.append_assoc, List.prefix_append]⟩
  | marker name => exact ⟨"enum", henum, by simp only [text, List.append_assoc, List.prefix_append]⟩
  | _ => exact ⟨"typedef", htypedef, by simp only [text, List.append_assoc, List.prefix_append]⟩

end Form

/-! ## Headers -/

/-- The tokens of declarations, the first behind a gap and each of the others behind the line feed
before it. -/
def lineTokens (gap : Text) : List Form → List (List Token)
  | [] => []
  | d :: ds => d.tokens gap :: lineTokens ['\n'] ds

/-- Declarations on lines of their own, and the line feed before them, are read as their tokens. -/
private theorem exists_reads_lines (ds : List Form) :
    ∃ t, '\n' :: header ds = t ++ ['\n'] ∧
      Reads true t (lineTokens ['\n'] ds).flatten true := by
  induction ds with
  | nil => exact ⟨[], rfl, Reads.nil⟩
  | cons d ds ih =>
    obtain ⟨t, ht, hreads⟩ := ih
    have hfeed : ∀ c ∈ (['\n'] : Text), isSpace c = true := by decide
    refine ⟨'\n' :: d.text ++ t, ?_, (d.reads hfeed).weaken.append hreads⟩
    rw [List.append_assoc, ← ht, header, List.flatMap_cons]
    simp [header]

/-- The tokens of a header are those of its declarations. -/
theorem tokens_header (ds : List Form) :
    Header.tokens (header ds) = (lineTokens [] ds).flatten := by
  cases ds with
  | nil => rfl
  | cons d ds =>
    obtain ⟨t, ht, hreads⟩ := exists_reads_lines ds
    have hheader : header (d :: ds) = (d.text ++ t) ++ ['\n'] := by
      rw [List.append_assoc, ← ht, header, List.flatMap_cons]
      simp [header]
    have hwhole : Reads true (d.text ++ t) (lineTokens [] (d :: ds)).flatten true :=
      (d.reads isSpace_of_mem_nil).append hreads
    have hbegins : ∀ c ∈ (d.text ++ t ++ ['\n']).head?, c ≠ byteOrderMark := by
      obtain ⟨w, hname, rest, hw⟩ := d.exists_prefix_text
      rw [← hw]
      cases w with
      | nil => cases hname
      | cons c w =>
        rintro _ ⟨⟩ rfl
        rw [isName, isNameStart_byteOrderMark] at hname
        cases hname
    rw [hheader]
    exact Reads.tokens_append hwhole (by decide) hbegins

/-! ## What tokens are made of -/

/-- Whether a token is a word, a number or one of some marks. -/
def isPart (marks : Text) (t : Token) : Bool :=
  t.isWord || t.kind == .number || marks.any (t.isMark ·)

section Parts

variable {marks : Text} {t : Token}

theorem isPart_of_subset {others : Text} (h : isPart marks t = true) (hmarks : marks ⊆ others) :
    isPart others t = true := by
  rw [isPart, Bool.or_eq_true, List.any_eq_true] at h ⊢
  exact h.imp_right fun ⟨c, hc, ht⟩ => ⟨c, hmarks hc, ht⟩

theorem isMark_eq_false_of_isPart (h : isPart marks t = true) {c : Char} (hc : c ∉ marks) :
    t.isMark c = false := by
  rw [isPart, Bool.or_eq_true, Bool.or_eq_true, List.any_eq_true, Token.isWord, beq_iff_eq,
    beq_iff_eq] at h
  rw [Bool.eq_false_iff]
  intro hmark
  have hkind := Token.kind_of_isMark hmark
  rcases h with (h | h) | ⟨d, hd, h⟩
  · rw [h] at hkind
    cases hkind
  · rw [h] at hkind
    cases hkind
  · have hne : d ≠ c := fun he => hc (he ▸ hd)
    rw [Token.isMark_eq_false h hne] at hmark
    cases hmark

theorem isSolid_of_isPart (h : isPart marks t = true) : t.isSolid = true := by
  rw [isPart, Bool.or_eq_true, Bool.or_eq_true, List.any_eq_true] at h
  rcases h with (h | h) | ⟨d, -, h⟩
  · exact Token.isSolid_of_isWord h
  · simp [Token.isSolid, h]
  · exact Token.isSolid_of_isMark h

@[simp] theorem isPart_ofWord (w : Text) : isPart marks (.ofWord gap w) = true := rfl

@[simp] theorem isPart_ofNumber (n : Nat) : isPart marks (.ofNumber gap n) = true := rfl

@[simp] theorem isPart_ofMark {c : Char} : isPart marks (.ofMark gap c) = marks.contains c := by
  have hword : (Token.ofMark gap c).isWord = false := rfl
  have hnumber : ((Token.ofMark gap c).kind == .number) = false := rfl
  rw [isPart, hword, hnumber, Bool.or_self, Bool.false_or, List.contains_eq_any_beq]
  simp only [Token.isMark_ofMark]

end Parts

theorem BaseType.isPart_of_mem (b : BaseType) (marks : Text) :
    ∀ t ∈ b.tokens gap, isPart marks t = true := by
  cases b <;> simp [BaseType.tokens]

theorem isPart_of_mem_starTokens {marks : Text} (hmarks : '*' ∈ marks) (n : Nat) :
    ∀ t ∈ starTokens n, isPart marks t = true := by
  intro t ht
  rw [List.eq_of_mem_replicate ht, isPart_ofMark, List.contains_iff_mem]
  exact hmarks

/-- The marks in a parameter or a field. -/
def variableMarks : Text := ['*', '[', ']']

theorem Variable.isPart_of_mem (v : Variable) :
    ∀ t ∈ v.tokens gap, isPart variableMarks t = true := by
  have hbase : ∀ gap, ∀ t ∈ v.base.tokens gap, isPart variableMarks t = true := fun gap =>
    v.base.isPart_of_mem variableMarks
  have hstars := isPart_of_mem_starTokens (show '*' ∈ variableMarks by decide) v.stars
  rw [tokens, typeTokens, sizeTokens]
  simp only [List.forall_mem_append, List.forall_mem_cons]
  refine ⟨⟨?_, hstars⟩, isPart_ofWord _, ?_⟩
  · cases v.isConst with
    | false => exact hbase gap
    | true => exact List.forall_mem_cons.mpr ⟨isPart_ofWord _, hbase [' ']⟩
  · cases v.size <;> simp [variableMarks]

theorem isPart_of_mem_listedTokens {α : Type} {tokens : Text → α → List Token} {marks : Text}
    (htokens : ∀ gap a, ∀ t ∈ tokens gap a, isPart marks t = true) (a : α) (as : List α) :
    ∀ t ∈ listedTokens tokens gap a as, isPart (',' :: marks) t = true := by
  have hmember : ∀ gap a, ∀ t ∈ tokens gap a, isPart (',' :: marks) t = true := fun gap a t ht =>
    isPart_of_subset (htokens gap a t ht) (List.subset_cons_self _ _)
  rw [listedTokens, List.forall_mem_append]
  refine ⟨hmember gap a, ?_⟩
  intro t ht
  obtain ⟨b, -, ht⟩ := List.mem_flatMap.mp ht
  rcases List.mem_cons.mp ht with rfl | ht
  · simp
  · exact hmember [' '] b t ht

theorem isPart_of_mem_paramTokens (vs : List Variable) :
    ∀ t ∈ paramTokens vs, isPart (',' :: variableMarks) t = true := by
  cases vs with
  | nil => simp [paramTokens]
  | cons v vs => exact isPart_of_mem_listedTokens (fun _ v => v.isPart_of_mem) v vs

theorem Constant.isPart_of_mem (c : Constant) : ∀ t ∈ c.tokens gap, isPart ['='] t = true := by
  rw [tokens, List.forall_mem_cons]
  refine ⟨isPart_ofWord _, ?_⟩
  cases c.value with
  | none => simp
  | some v => cases v <;> simp [Value.token]

/-! ## Solid tokens -/

theorem all_isSolid_of_isPart {marks : Text} {ts : List Token}
    (h : ∀ t ∈ ts, isPart marks t = true) : ts.all (·.isSolid) = true :=
  List.all_eq_true.mpr fun t ht => isSolid_of_isPart (h t ht)

private theorem isSolid_ofWord (w : Text) : (Token.ofWord gap w).isSolid = true := rfl

private theorem isSolid_ofMark (c : Char) : (Token.ofMark gap c).isSolid = true := rfl

/-- A declaration is made of words, numbers and marks. -/
theorem Form.all_isSolid (d : Form) : (d.tokens gap).all (·.isSolid) = true := by
  have hbase : ∀ (b : BaseType) (gap : Text), (b.tokens gap).all (·.isSolid) = true :=
    fun b _ => all_isSolid_of_isPart (b.isPart_of_mem [])
  have hstars : ∀ n, (starTokens n).all (·.isSolid) = true := fun n =>
    all_isSolid_of_isPart (isPart_of_mem_starTokens (List.mem_singleton_self '*') n)
  have henclosed : ∀ vs, (enclosedTokens vs).all (·.isSolid) = true := by
    intro vs
    rw [enclosedTokens, List.all_cons, List.all_append,
      all_isSolid_of_isPart (isPart_of_mem_paramTokens vs)]
    rfl
  have hrecord : ∀ tag name fields, (recordTokens tag name fields).all (·.isSolid) = true := by
    intro tag name fields
    have hfields : (fields.flatMap fun v => v.tokens [' '] ++ [.ofMark [] ';']).all
        (·.isSolid) = true := by
      rw [List.all_flatMap, List.all_eq_true]
      intro v _
      rw [List.all_append, all_isSolid_of_isPart v.isPart_of_mem]
      rfl
    rw [recordTokens, List.all_cons, List.all_cons, List.all_append, hfields]
    rfl
  have hmembers : ∀ item items, (memberTokens item items).all (·.isSolid) = true := by
    intro item items
    rw [memberTokens, List.all_cons, List.all_append,
      all_isSolid_of_isPart (isPart_of_mem_listedTokens (fun _ c => c.isPart_of_mem) item items)]
    rfl
  cases d with
  | enumeration name item items =>
    cases name <;>
      simp only [tokens, List.all_cons, List.all_append, List.all_nil, isSolid_ofWord,
        isSolid_ofMark, hmembers, Bool.and_true]
  | _ =>
    simp only [tokens, List.all_cons, List.all_append, List.all_nil, isSolid_ofWord,
      isSolid_ofMark, hbase, hstars, henclosed, hrecord, Bool.and_true]

end Bindery.Canonical
