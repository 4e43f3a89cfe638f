import Bindery.Proofs.ContentSource
import Bindery.Proofs.Origin
import Bindery.Proofs.SpelledType

/-!
# The layout of fields

A declarator makes a field of its base type by layers of pointers and arrays, in any order. A field
type as it is read keeps the number of pointers and one size, so that it stands for the same layers
only where there is one array at most and that is the field itself. What a type of the target
language stands for is read off its spelling.
-/

namespace Bindery

/-- A step from a type to what it is made of. -/
inductive Layer where
  /-- A pointer to something. -/
  | pointer
  /-- An array of a size. -/
  | array (size : Text)
  deriving DecidableEq, Repr

/-! ## Layers of a declarator -/

namespace Header.Declarator

/-- What the declared thing is, layer by layer, before the base type is reached. What stands closer
to the name comes first. -/
def layers : Declarator → List Layer
  | .name _ => []
  | .pointer rest => rest.layers ++ [.pointer]
  | .array rest size => rest.layers ++ [.array size]
  | .function rest _ => rest.layers
  | .parens rest => rest.layers

/-- A declarator of pointers, arrays of decimal sizes and parentheses. -/
def IsPlain : Declarator → Prop
  | .name _ => True
  | .pointer rest => rest.IsPlain
  | .array rest size => rest.IsPlain ∧ IsDecimal size
  | .function _ _ => False
  | .parens rest => rest.IsPlain

instance decidableIsPlain : (d : Declarator) → Decidable d.IsPlain
  | .name _ => inferInstanceAs (Decidable True)
  | .pointer rest => rest.decidableIsPlain
  | .array rest size =>
    have := rest.decidableIsPlain
    inferInstanceAs (Decidable (rest.IsPlain ∧ IsDecimal size))
  | .function _ _ => inferInstanceAs (Decidable False)
  | .parens rest => rest.decidableIsPlain

end Header.Declarator

/-- The size of an array. -/
def Layer.size? : Layer → Option Text
  | .pointer => none
  | .array size => some size

/-- The layers that a number of pointers and a size stand for: the array of that size, if there is
one, and the pointers in it. -/
def layersOf (pointers : Nat) (size : Option Text) : List Layer :=
  size.toList.map .array ++ List.replicate pointers .pointer

open Header (Declarator Specifiers)

section Shapes

variable {d : Declarator}

/-- The pointers of a shape are those of the declarator, and its size is that of the array which is
farthest from the name. -/
theorem shape_eq (h : d.IsPlain) : d.shape.innerPointers = 0 ∧
    d.shape.pointers = d.layers.count .pointer ∧
    d.shape.array = (d.layers.filterMap Layer.size?).getLast? := by
  induction d with
  | name n => exact ⟨rfl, rfl, rfl⟩
  | pointer rest ih =>
    obtain ⟨hinner, hpointers, harray⟩ := ih h
    refine ⟨hinner, ?_, ?_⟩
    · rw [Declarator.layers, List.count_append, ← hpointers]
      rfl
    · rw [Declarator.layers, List.filterMap_append]
      change rest.shape.array = _
      rw [harray]
      exact congrArg List.getLast? (List.append_nil _).symm
  | array rest size ih =>
    obtain ⟨hinner, hpointers, _⟩ := ih h.1
    refine ⟨hinner, ?_, ?_⟩
    · rw [Declarator.layers, List.count_append, ← hpointers]
      rfl
    · rw [Declarator.layers, List.filterMap_append]
      simp [Layer.size?, Declarator.shape]
  | function rest params => exact h.elim
  | parens rest ih => exact ih h

/-- All sizes in a plain declarator are decimal. -/
theorem isDecimal_of_shape (h : d.IsPlain) : ∀ size ∈ d.shape.array, IsDecimal size := by
  induction d with
  | name n => exact fun size hsize => absurd hsize (Option.not_mem_none size)
  | pointer rest ih => exact ih h
  | array rest size ih =>
    intro size' hsize
    cases hsize
    exact h.2
  | function rest params => exact h.elim
  | parens rest ih => exact ih h

/-- Pointers and one size stand for some layers exactly when no array is behind the first one. -/
theorem layersOf_eq_iff {layers : List Layer} :
    layersOf (layers.count .pointer) (layers.filterMap Layer.size?).getLast? = layers ↔
      ∀ size, .array size ∉ layers.tail := by
  constructor
  · intro h size hmem
    have htail : (layersOf (layers.count .pointer) (layers.filterMap Layer.size?).getLast?).tail ⊆
        List.replicate (layers.count .pointer) .pointer := by
      unfold layersOf
      cases (layers.filterMap Layer.size?).getLast? with
      | none => exact (List.tail_sublist _).subset
      | some size => exact List.Subset.refl _
    rw [h] at htail
    cases List.eq_of_mem_replicate (htail hmem)
  · intro h
    have hpointers : ∀ rest : List Layer, (∀ size, .array size ∉ rest) →
        rest = List.replicate rest.length .pointer := by
      intro rest hrest
      refine List.eq_replicate_iff.mpr ⟨rfl, fun layer hlayer => ?_⟩
      cases layer with
      | pointer => rfl
      | array size => exact absurd hlayer (hrest size)
    cases layers with
    | nil => rfl
    | cons layer rest =>
      rw [hpointers rest h]
      have hnone : (List.replicate rest.length Layer.pointer).filterMap Layer.size? = [] := by
        rw [List.filterMap_eq_nil_iff]
        intro layer hlayer
        rw [List.eq_of_mem_replicate hlayer]
        rfl
      cases layer with
      | pointer =>
        rw [List.filterMap_cons_none rfl, hnone, List.count_cons_self, List.count_replicate_self]
        rfl
      | array size =>
        have hsome : (Layer.array size).size? = some size := rfl
        rw [List.filterMap_cons_some hsome, hnone, List.count_cons_of_ne (by simp),
          List.count_replicate_self]
        rfl

end Shapes

/-! ## Layers of a type in writing -/

theorem Text.length_lt_of_after? {lead t rest : Text} (hlead : lead ≠ [])
    (h : after? lead t = some rest) : rest.length < t.length := by
  rw [after?_eq_some_iff.mp h, List.length_append]
  exact Nat.lt_add_of_pos_left (List.length_pos_of_ne_nil hlead)

/-- What stands before a type that is pointed to. -/
def pointerMark : Text := "ptr "

/-- What stands before the size of an array. -/
def arrayMark : Text := "array["

theorem pointerMark_ne_nil : pointerMark ≠ [] := by with_unfolding_all decide

theorem referenceMark_ne_nil : referenceMark ≠ [] := by with_unfolding_all decide

theorem arrayMark_ne_nil : arrayMark ≠ [] := by with_unfolding_all decide

/-- What a type of the target language is, layer by layer, and the type that is named in the end. A
reference is a pointer, and so is what a handle stands for. Two pointers have names of their own. -/
def composition (handles : Handles) (t : Text) : List Layer × Text :=
  match _hpointer : Text.after? pointerMark t with
  | some rest => (.pointer :: (composition handles rest).1, (composition handles rest).2)
  | none =>
    match _hreference : Text.after? referenceMark t with
    | some rest => (.pointer :: (composition handles rest).1, (composition handles rest).2)
    | none =>
      match _harray : Text.after? arrayMark t with
      | some rest =>
        let element := ((rest.dropWhile (· != ',')).drop 2).dropLast
        (.array (rest.takeWhile (· != ',')) :: (composition handles element).1,
          (composition handles element).2)
      | none =>
        if t = ("cstring" : Text) then ([.pointer], "char")
        else if t = ("pointer" : Text) then ([.pointer], "void")
        else if t ∈ handles then ([.pointer], t)
        else ([], t)
termination_by t.length
decreasing_by
  · exact Text.length_lt_of_after? pointerMark_ne_nil _hpointer
  · exact Text.length_lt_of_after? referenceMark_ne_nil _hreference
  · have hrest := Text.length_lt_of_after? arrayMark_ne_nil _harray
    have hdrop := (List.dropWhile_suffix (l := rest) (· != ',')).length_le
    rw [List.length_dropLast, List.length_drop]
    omega

/-- A name of a type in the target language: it is not made of another type, and no pointer goes by
it. -/
structure IsTargetName (t : Text) : Prop where
  /-- It does not begin as a type that is made of another one. -/
  plain : ∀ mark ∈ [pointerMark, referenceMark, arrayMark], Text.after? mark t = none
  /-- It is not the pointer to characters. -/
  characters : t ≠ Text.ofString "cstring"
  /-- It is not the pointer to anything. -/
  anything : t ≠ Text.ofString "pointer"

instance (t : Text) : Decidable (IsTargetName t) :=
  decidable_of_iff ((∀ mark ∈ [pointerMark, referenceMark, arrayMark], Text.after? mark t = none) ∧
      t ≠ Text.ofString "cstring" ∧ t ≠ Text.ofString "pointer")
    ⟨fun ⟨h₁, h₂, h₃⟩ => ⟨h₁, h₂, h₃⟩, fun h => ⟨h.plain, h.characters, h.anything⟩⟩

section Written

variable {handles : Handles}

/-- The composition of a type, by what it begins with. -/
theorem composition_eq (t : Text) : composition handles t =
    match Text.after? pointerMark t, Text.after? referenceMark t, Text.after? arrayMark t with
    | some rest, _, _ | none, some rest, _ =>
      (.pointer :: (composition handles rest).1, (composition handles rest).2)
    | none, none, some rest =>
      let element := ((rest.dropWhile (· != ',')).drop 2).dropLast
      (.array (rest.takeWhile (· != ',')) :: (composition handles element).1,
        (composition handles element).2)
    | none, none, none =>
      if t = ("cstring" : Text) then ([.pointer], "char")
      else if t = ("pointer" : Text) then ([.pointer], "void")
      else if t ∈ handles then ([.pointer], t)
      else ([], t) := by
  rw [composition]
  split
  · next rest hpointer => rw [hpointer]
  · next hpointer =>
    rw [hpointer]
    split
    · next rest hreference => rw [hreference]
    · next hreference =>
      rw [hreference]
      split
      · next rest harray => rw [harray]
      · next harray => rw [harray]

theorem composition_pointer (t : Text) : composition handles (pointerMark ++ t) =
    (.pointer :: (composition handles t).1, (composition handles t).2) := by
  rw [composition_eq, Text.after?_append]

theorem composition_reference (t : Text) : composition handles (referenceMark ++ t) =
    (.pointer :: (composition handles t).1, (composition handles t).2) := by
  have hpointer : Text.after? pointerMark (referenceMark ++ t) = none := by
    simp [pointerMark, referenceMark, Text.ofString_eq, Text.after?]
  rw [composition_eq, hpointer, Text.after?_append]

theorem composition_array {size : Text} (hsize : IsDecimal size) (t : Text) :
    composition handles (arrayMark ++ size ++ ", " ++ t ++ [']']) =
      (.array size :: (composition handles t).1, (composition handles t).2) := by
  have hpointer :
      Text.after? pointerMark (arrayMark ++ (size ++ (", " ++ (t ++ [']'])))) = none := by
    simp [pointerMark, arrayMark, Text.ofString_eq, Text.after?]
  have hreference :
      Text.after? referenceMark (arrayMark ++ (size ++ (", " ++ (t ++ [']'])))) = none := by
    simp [referenceMark, arrayMark, Text.ofString_eq, Text.after?]
  have hcomma : ∀ c ∈ size, (c != ',') = true := by
    intro c hc
    rw [bne_iff_ne]
    rintro rfl
    exact absurd (hsize.2 _ hc) (by decide)
  have htake : (size ++ (Text.ofString ", " ++ (t ++ [']']))).takeWhile (· != ',') = size := by
    rw [List.takeWhile_append_of_pos hcomma, Text.ofString_eq]
    exact List.append_nil size
  have hdrop : (size ++ (Text.ofString ", " ++ (t ++ [']']))).dropWhile (· != ',') =
      Text.ofString ", " ++ (t ++ [']']) := by
    rw [List.dropWhile_append_of_pos hcomma, Text.ofString_eq]
    rfl
  have helement : ((Text.ofString ", " ++ (t ++ [']'])).drop 2).dropLast = t := by
    rw [Text.ofString_eq]
    exact List.dropLast_concat
  simp only [List.append_assoc]
  rw [composition_eq, hpointer, hreference, Text.after?_append]
  dsimp only
  rw [htake, hdrop, helement]

/-- A name stands for itself, or for a pointer where it is that of a handle. -/
theorem composition_of_isTargetName {t : Text} (h : IsTargetName t) :
    composition handles t = if t ∈ handles then ([.pointer], t) else ([], t) := by
  have hplain := h.plain
  simp only [List.forall_mem_cons] at hplain
  rw [composition_eq, hplain.1, hplain.2.1, hplain.2.2.1]
  dsimp only
  rw [if_neg h.characters, if_neg h.anything]

theorem composition_characters :
    composition handles (Text.ofString "cstring") = ([.pointer], Text.ofString "char") := by
  simp [composition_eq, pointerMark, referenceMark, arrayMark, Text.ofString_eq, Text.after?]

theorem composition_anything :
    composition handles (Text.ofString "pointer") = ([.pointer], Text.ofString "void") := by
  simp [composition_eq, pointerMark, referenceMark, arrayMark, Text.ofString_eq, Text.after?]

theorem composition_pointers (n : Nat) (t : Text) :
    composition handles ((List.replicate n pointerMark).flatten ++ t) =
      (List.replicate n .pointer ++ (composition handles t).1, (composition handles t).2) := by
  induction n with
  | zero => rfl
  | succ n ih =>
    rw [List.replicate_succ, List.flatten_cons, List.append_assoc, composition_pointer, ih]
    rfl

end Written

/-! ## Types of fields -/

section Elements

/-- Only one pointer to characters is written as such. -/
theorem eq_of_written_eq {n : Nat} {t : Text}
    (h : (List.replicate n pointerMark).flatten ++ t = Text.ofString "ptr char") :
    n = 0 ∧ t = Text.ofString "ptr char" ∨ n = 1 ∧ t = Text.ofString "char" := by
  have hsplit : Text.ofString "ptr char" = pointerMark ++ Text.ofString "char" := by
    with_unfolding_all decide
  cases n with
  | zero => exact Or.inl ⟨rfl, h⟩
  | succ n =>
    right
    rw [List.replicate_succ, List.flatten_cons, List.append_assoc, hsplit,
      List.append_cancel_left_eq] at h
    cases n with
    | zero => exact ⟨rfl, h⟩
    | succ n =>
      rw [List.replicate_succ, List.flatten_cons, List.append_assoc, pointerMark, Text.ofString_eq,
        Text.ofString_eq] at h
      exact absurd (List.cons.inj h).1 (by decide)

variable {handles : Handles} {t : TargetType}

/-- An element stands for its pointers, a reference being one of them, and for what its name stands
for. -/
theorem composition_renderElement (hname : t.pointers = 0 → t.name ≠ Text.ofString "ptr char")
    (hchar : t.pointers = 1 → t.name ≠ Text.ofString "char") :
    composition handles t.renderElement =
      (List.replicate t.pointers .pointer ++
        ((if t.reference then [.pointer] else []) ++ (composition handles t.name).1),
        (composition handles t.name).2) := by
  have hwritten : (List.replicate t.pointers pointerMark).flatten ++
      ((if t.reference then referenceMark else []) ++ t.name) ≠ Text.ofString "ptr char" := by
    intro h
    cases hreference : t.reference with
    | false =>
      rw [hreference] at h
      rcases eq_of_written_eq h with ⟨hn, ht⟩ | ⟨hn, ht⟩
      · exact hname hn ht
      · exact hchar hn ht
    | true =>
      rw [hreference, if_pos rfl, referenceMark, Text.ofString_eq] at h
      rcases eq_of_written_eq h with ⟨_, ht⟩ | ⟨_, ht⟩
      · rw [Text.ofString_eq] at ht
        exact absurd (List.cons.inj ht).1 (by decide)
      · rw [Text.ofString_eq] at ht
        exact absurd (List.cons.inj ht).1 (by decide)
  have helement : t.renderElement = (List.replicate t.pointers pointerMark).flatten ++
      ((if t.reference then referenceMark else []) ++ t.name) := by
    rw [TargetType.renderElement, List.append_assoc]
    exact if_neg hwritten
  rw [helement, composition_pointers]
  cases t.reference with
  | false => rfl
  | true => rw [if_pos rfl, if_pos rfl, composition_reference]; rfl

end Elements

/-- A base type that a field can be made of with so many pointers. In the target language it is
known by a name, and by that of a handle only where it is a type of the library that is pointed to;
and only characters are called so. -/
structure IsFieldBase (handles : Handles) (base : Text) (pointers : Nat) : Prop where
  /-- A header spells it as words. -/
  spelled : IsBaseType base
  /-- It is known by a name. -/
  named : IsTargetName (typeName handles [] base)
  /-- Only what a pointer leads to may be a handle. -/
  handle : typeName handles [] base ∈ handles →
    0 < pointers ∧ Text.startsWith libraryLead (baseNameOf base) = true
  /-- Only characters have their name. -/
  characters : typeName handles [] base = Text.ofString "char" →
    baseNameOf base = Text.ofString "char"

section Fields

variable {handles : Handles} {base : Text}

/-- A base type alone is known by the rest of its base name. -/
theorem typeName_of_isTargetName (h : IsBaseType base)
    (hname : IsTargetName (typeName handles [] base)) :
    typeName handles [] base = (bareName? (baseNameOf base)).getD (baseNameOf base) := by
  have halone : CType.ofText base = ⟨baseNameOf base, 0, none⟩ := by
    have hnone : ∀ s ∈ (none : Option Text), IsDecimal s := fun s hs =>
      absurd hs (Option.not_mem_none s)
    have hspelled := CType.ofText_spelledType h false 0 hnone
    rwa [show spelledType false base 0 none = base by simp [spelledType, sizeText]] at hspelled
  have htype := @typeName_of_base handles [] base _ halone
  dsimp only at htype
  split at htype
  · exact absurd htype hname.characters
  · exact htype

/-- The element of a field type stands for its pointers to the base type. -/
theorem IsFieldBase.composition_element {pointers : Nat} (h : IsFieldBase handles base pointers)
    (size : Option Text) : composition handles
      (TargetType.ofCType handles [] ⟨baseNameOf base, pointers, size⟩).renderElement =
        (List.replicate pointers .pointer, typeName handles [] base) := by
  have hbare := typeName_of_isTargetName h.spelled h.named
  have hnamed := @composition_of_isTargetName handles _ h.named
  have hhandle := h.handle
  have hcharacters := h.characters
  have hptr : typeName handles [] base ≠ Text.ofString "ptr char" := by
    intro he
    have hplain := h.named.plain pointerMark List.mem_cons_self
    rw [he] at hplain
    exact absurd hplain (by with_unfolding_all decide)
  rw [hbare] at hnamed hhandle hcharacters hptr ⊢
  generalize baseNameOf base = b at *
  by_cases hvoid : 0 < pointers ∧ b = Text.ofString "void"
  · -- A pointer to nothing in particular has a name of its own.
    obtain ⟨hpos, rfl⟩ := hvoid
    obtain ⟨n, rfl⟩ := Nat.exists_eq_succ_of_ne_zero (Nat.ne_of_gt hpos)
    have hname : (bareName? (Text.ofString "void")).getD (Text.ofString "void") =
        Text.ofString "void" := by
      with_unfolding_all decide
    have hptr : Text.ofString "pointer" ≠ Text.ofString "ptr char" := by with_unfolding_all decide
    have hchar : Text.ofString "pointer" ≠ Text.ofString "char" := by with_unfolding_all decide
    rw [ofCType_void hpos, composition_renderElement (fun _ => hptr) fun _ => hchar,
      composition_anything, hname, List.replicate_succ']
    rfl
  · rw [ofCType_nil hvoid]
    by_cases hlibrary : 0 < pointers ∧ Text.startsWith libraryLead b = true
    · -- The last pointer to a type of the library is the handle, or the reference.
      obtain ⟨n, rfl⟩ := Nat.exists_eq_succ_of_ne_zero (Nat.ne_of_gt hlibrary.1)
      have hchar : (bareName? b).getD b ≠ Text.ofString "char" := by
        intro he
        have hlead := hlibrary.2
        rw [hcharacters he] at hlead
        exact absurd hlead (by with_unfolding_all decide)
      rw [if_pos hlibrary, composition_renderElement (fun _ => hptr) fun _ => hchar, hnamed,
        List.replicate_succ']
      by_cases hmem : (bareName? b).getD b ∈ handles
      · simp [hmem]
      · simp [hmem]
    · have hmem : (bareName? b).getD b ∉ handles := fun hmem => hlibrary (hhandle hmem)
      rw [if_neg hlibrary]
      by_cases hchar : pointers = 1 ∧ (bareName? b).getD b = Text.ofString "char"
      · -- One pointer to characters has a name of its own, too.
        obtain ⟨rfl, he⟩ := hchar
        have hcstring : TargetType.renderElement ⟨1, false, Text.ofString "char", size⟩ =
            Text.ofString "cstring" := by
          have hwritten : (List.replicate 1 (Text.ofString "ptr ")).flatten ++ [] ++
              Text.ofString "char" = Text.ofString "ptr char" := by
            with_unfolding_all decide
          rw [TargetType.renderElement]
          exact if_pos hwritten
        rw [he, hcstring, composition_characters]
        rfl
      · rw [composition_renderElement (fun _ => hptr) fun hone he => hchar ⟨hone, he⟩, hnamed,
          if_neg hmem]
        simp

/-- A field type stands for one array at most, with its pointers in it. -/
theorem IsFieldBase.composition_typeName {pointers : Nat} (h : IsFieldBase handles base pointers)
    (constant : Bool) {size : Option Text} (hsize : ∀ s ∈ size, IsDecimal s) :
    composition handles (typeName handles [] (spelledType constant base pointers size)) =
      (layersOf pointers size, typeName handles [] base) := by
  have helement := h.composition_element size
  rw [typeName, CType.ofText_spelledType h.spelled constant pointers hsize, TargetType.render,
    TargetType.size_ofCType]
  cases size with
  | none => exact helement
  | some size =>
    have harray := @composition_array handles _ (hsize size rfl)
      (TargetType.ofCType handles [] ⟨baseNameOf base, pointers, some size⟩).renderElement
    rw [helement] at harray
    exact harray

open Header (typeOf paramOf)

/-- The type of a field as it is read. -/
theorem type_paramOf (s : Specifiers) (d : Declarator) (hd : d.IsPlain) :
    (paramOf s d.shape).type =
      spelledType s.constant s.base.name (d.layers.count .pointer) d.shape.array := by
  obtain ⟨hinner, hpointers, _⟩ := shape_eq hd
  rw [paramOf, typeOf, hinner, hpointers]
  rfl

/-- Whether the type of a field stands for what a declarator makes of a base type. -/
def KeepsLayout (handles : Handles) (s : Specifiers) (d : Declarator) (p : Param) : Prop :=
  composition handles (typeName handles [] p.type) = (d.layers, typeName handles [] s.base.name)

/-- A field keeps the layout of its declarator exactly when no array is behind another layer. -/
theorem keepsLayout_paramOf_iff {s : Specifiers} {d : Declarator} (hd : d.IsPlain)
    (hbase : IsFieldBase handles s.base.name (d.layers.count .pointer)) :
    KeepsLayout handles s d (paramOf s d.shape) ↔ ∀ size, .array size ∉ d.layers.tail := by
  rw [KeepsLayout, type_paramOf s d hd,
    hbase.composition_typeName s.constant (isDecimal_of_shape hd), Prod.mk.injEq,
    and_iff_left rfl, (shape_eq hd).2.2, layersOf_eq_iff]

end Fields

/-! ## Fields that are read -/

section ReadFields

open Header (Phrases Piece Parse paramOf)
open Header.Reader (commas covers_allWithSource mem_bind mem_orElse mem_pure)

variable {g : Phrases} {ps : List Piece}

/-- Whether fields are declared at the front of some pieces by specifiers and the declarators that
are read behind them. Where there is none, one field without a name is declared. -/
def AreDeclared (g : Phrases) (ps : List Piece) (s : Specifiers) (ds : List Declarator) : Prop :=
  ∃ x ∈ Header.specifiers g Header.Keyword.members ps, x.value = s ∧
    ∃ z ∈ (commas (Header.fieldDeclarator g) <|> pure []) x.rest,
      ds = if z.value.isEmpty then [.name none] else z.value

/-- The fields that declarators make of specifiers. -/
def declaredFields (e : Specifiers × List Declarator) : List Param :=
  e.2.map fun d => paramOf e.1 d.shape

/-- Fields have the types that their declarators make of their specifiers. -/
theorem exists_areDeclared_of_mem_fields {y : Parse (List Param)} (h : y ∈ Header.fields g ps) :
    ∃ e, y.value = declaredFields e ∧ AreDeclared g ps e.1 e.2 := by
  obtain ⟨s, hs, _, hds, rfl⟩ := mem_bind.mp h
  obtain ⟨ds, hmem, _, hskip, rfl⟩ := mem_bind.mp hds
  obtain ⟨_, _, _, hmark, rfl⟩ := mem_bind.mp hskip
  obtain ⟨_, _, _, hreturn, rfl⟩ := mem_bind.mp hmark
  obtain rfl := mem_pure.mp hreturn
  refine ⟨(s.value, _), ?_, s, hs, rfl, ds, hmem, rfl⟩
  dsimp only [declaredFields]
  cases ds.value with
  | nil => rfl
  | cons d ds => rfl

/-- A member that is no declaration of fields has none. -/
theorem exists_areDeclared_of_mem_member {y : Parse (List Param)} (h : y ∈ Header.member g ps) :
    (∃ e, y.value = declaredFields e ∧ AreDeclared g ps e.1 e.2) ∨ y.value = [] := by
  rcases mem_orElse.mp h with hfields | hother
  · exact Or.inl (exists_areDeclared_of_mem_fields hfields)
  · obtain ⟨_, _, _, hreturn, rfl⟩ := mem_bind.mp hother
    obtain rfl := mem_pure.mp hreturn
    exact Or.inr rfl

/-- The fields between braces are those of the declarations among the members, one after another. -/
theorem exists_areDeclared_of_members? {inside : List Piece} {fields : List Param}
    (h : Header.members? g inside = some fields) :
    ∃ declared : List (Specifiers × List Declarator), fields = declared.flatMap declaredFields ∧
      ∀ e ∈ declared, ∃ rest, rest <:+ inside ∧ AreDeclared g rest e.1 e.2 := by
  obtain ⟨w, hw, rfl⟩ := Option.map_eq_some_iff.mp h
  obtain ⟨row, hrow, rfl⟩ := Option.map_eq_some_iff.mp hw
  have hentries := (covers_allWithSource hrow).2
  dsimp only
  generalize row.value = entries at hentries ⊢
  induction entries with
  | nil => exact ⟨[], rfl, nofun⟩
  | cons entry entries ih =>
    obtain ⟨hentry, hbehind⟩ := List.forall_mem_cons.mp hentries
    obtain ⟨declared, hfields, hdeclared⟩ := ih hbehind
    obtain ⟨rest, hrest, y, hy, rfl, _⟩ := hentry
    rw [List.map_cons, List.flatten_cons, hfields]
    rcases exists_areDeclared_of_mem_member hy with ⟨e, hvalue, he⟩ | hnil
    · exact ⟨e :: declared, by rw [List.flatMap_cons, hvalue],
        List.forall_mem_cons.mpr ⟨⟨rest, hrest, he⟩, hdeclared⟩⟩
    · exact ⟨declared, by rw [hnil, List.nil_append], hdeclared⟩

/-- **A field type keeps the layout of its declarator** exactly when no array is behind another
layer: there is one array at most, and that is the field itself. The fields of a structure that is
read are made by declarators in this way, each by its own. -/
theorem composition_field_iff (handles : Handles) :
    (∀ (s : Specifiers) (d : Declarator), d.IsPlain →
      IsFieldBase handles s.base.name (d.layers.count .pointer) →
        (KeepsLayout handles s d (paramOf s d.shape) ↔ ∀ size, .array size ∉ d.layers.tail)) ∧
    ∀ (g : Phrases) (inside : List Piece) (fields : List Param),
      Header.members? g inside = some fields →
        ∃ declared : List (Specifiers × List Declarator), fields = declared.flatMap declaredFields ∧
          ∀ e ∈ declared, (∃ rest, rest <:+ inside ∧ AreDeclared g rest e.1 e.2) ∧
            ∀ d ∈ e.2, d.IsPlain → IsFieldBase handles e.1.base.name (d.layers.count .pointer) →
              (KeepsLayout handles e.1 d (paramOf e.1 d.shape) ↔
                ∀ size, .array size ∉ d.layers.tail) := by
  refine ⟨fun s d => keepsLayout_paramOf_iff, fun g inside fields h => ?_⟩
  obtain ⟨declared, hfields, hdeclared⟩ := exists_areDeclared_of_members? h
  exact ⟨declared, hfields, fun e he => ⟨hdeclared e he, fun d _ => keepsLayout_paramOf_iff⟩⟩

end ReadFields

/-! ## Declarators of several layers -/

section Declarators

open Header (paramOf)

/-- Integers as they are declared. -/
def intSpecifiers : Specifiers := ⟨.plain "int", false⟩

theorem isFieldBase_int (pointers : Nat) : IsFieldBase [] intSpecifiers.base.name pointers where
  spelled := Text.IsWordy.isBaseType (by with_unfolding_all decide) (by with_unfolding_all decide)
    (by with_unfolding_all decide)
  named := by with_unfolding_all decide
  handle := fun h => absurd h List.not_mem_nil
  characters := by with_unfolding_all decide

/-- An array of pointers, as in `*a[3]`. -/
def pointersDeclarator : Declarator := .pointer (.array (.name (some "a")) "3")

/-- An array of arrays, as in `a[2][3]`. -/
def gridDeclarator : Declarator := .array (.array (.name (some "a")) "2") "3"

/-- A pointer to an array, as in `(*a)[3]`. -/
def rowDeclarator : Declarator := .array (.parens (.pointer (.name (some "a")))) "3"

/-- An array of pointers stays one. It is what the reader makes of such a declaration. -/
theorem composition_field_iff_pointersDeclarator :
    (pointersDeclarator.IsPlain ∧
      composition [] (typeName [] [] (paramOf intSpecifiers pointersDeclarator.shape).type) =
        ([.array "3", .pointer], Text.ofString "cint")) ∧
    ∃ inside, Header.Piece.ofTokens? (Header.tokens "int *a[3];") = some inside ∧
      Header.members? (.upTo 4) inside = some [paramOf intSpecifiers pointersDeclarator.shape] ∧
      ∃ declared : List (Specifiers × List Declarator),
        [paramOf intSpecifiers pointersDeclarator.shape] = declared.flatMap declaredFields ∧
          ∀ e ∈ declared, ∃ rest, rest <:+ inside ∧ AreDeclared (.upTo 4) rest e.1 e.2 := by
  have hd : pointersDeclarator.IsPlain := by with_unfolding_all decide
  have hlayers : pointersDeclarator.layers = [.array "3", .pointer] := rfl
  have hname : typeName [] [] intSpecifiers.base.name = Text.ofString "cint" := by
    with_unfolding_all decide
  have hfield := ((composition_field_iff []).1 intSpecifiers pointersDeclarator hd
    (isFieldBase_int _)).mpr (by simp [hlayers])
  rw [KeepsLayout, hlayers, hname] at hfield
  have hread : (Header.Piece.ofTokens? (Header.tokens "int *a[3];")).bind
      (Header.members? (.upTo 4)) = some [paramOf intSpecifiers pointersDeclarator.shape] := by
    decide +kernel
  obtain ⟨inside, hpieces, hmembers⟩ := Option.bind_eq_some_iff.mp hread
  obtain ⟨declared, hfields, hdeclared⟩ := (composition_field_iff []).2 _ _ _ hmembers
  exact ⟨⟨hd, hfield⟩, inside, hpieces, hmembers, declared, hfields, fun e he => (hdeclared e he).1⟩

/-- An array of arrays loses the outer one, and a pointer to an array becomes an array of
pointers. -/
theorem not_composition_nested :
    (gridDeclarator.IsPlain ∧ gridDeclarator.layers = [.array "2", .array "3"] ∧
      typeName [] [] (paramOf intSpecifiers gridDeclarator.shape).type =
        Text.ofString "array[3, cint]" ∧
      composition [] (Text.ofString "array[3, cint]") = ([.array "3"], Text.ofString "cint")) ∧
    (rowDeclarator.IsPlain ∧ rowDeclarator.layers = [.pointer, .array "3"] ∧
      typeName [] [] (paramOf intSpecifiers rowDeclarator.shape).type =
        Text.ofString "array[3, ptr cint]" ∧
      composition [] (Text.ofString "array[3, ptr cint]") =
        ([.array "3", .pointer], Text.ofString "cint")) := by
  have hname : typeName [] [] intSpecifiers.base.name = Text.ofString "cint" := by
    with_unfolding_all decide
  have hsize : ∀ size ∈ some (Text.ofString "3"), IsDecimal size := by with_unfolding_all decide
  have hgrid := (isFieldBase_int 0).composition_typeName false hsize
  have hrow := (isFieldBase_int 1).composition_typeName false hsize
  have hgridType : typeName [] [] (spelledType false intSpecifiers.base.name 0 (some "3")) =
      Text.ofString "array[3, cint]" := by
    with_unfolding_all decide
  have hrowType : typeName [] [] (spelledType false intSpecifiers.base.name 1 (some "3")) =
      Text.ofString "array[3, ptr cint]" := by
    with_unfolding_all decide
  rw [hgridType, hname] at hgrid
  rw [hrowType, hname] at hrow
  exact ⟨⟨by with_unfolding_all decide, rfl, by with_unfolding_all decide, hgrid⟩,
    ⟨by with_unfolding_all decide, rfl, by with_unfolding_all decide, hrow⟩⟩

end Declarators

end Bindery
