import Bindery.Declaration.Basic
import Bindery.Header.Keyword
import Bindery.Proofs.Scanning
import Bindery.Text.Search

/-!
# Canonical declarations

Every kind of declaration has a canonical form with one way of writing it: a type is a base with
stars directly behind it, a parameter or a field has a name, a list has a comma and a space between
its members. The text of a canonical declaration is read as the tokens that are given beside it.
-/

namespace Bindery.Canonical

open Header

/-! ## Identifiers -/

/-- The words of C that it keeps for itself. -/
def keywordsOfC : List String :=
  ["alignas", "alignof", "auto", "bool", "break", "case", "char", "const", "constexpr",
    "continue", "default", "do", "double", "else", "enum", "extern", "false", "float", "for",
    "goto", "if", "inline", "int", "long", "nullptr", "register", "restrict", "return", "short",
    "signed", "sizeof", "static", "static_assert", "struct", "switch", "thread_local", "true",
    "typedef", "typeof", "typeof_unqual", "union", "unsigned", "void", "volatile", "while"]

/-- The words that C++ keeps for itself and C does not, the spelled operators among them. -/
def keywordsOfCpp : List String :=
  ["and", "and_eq", "asm", "bitand", "bitor", "catch", "char8_t", "char16_t", "char32_t",
    "class", "co_await", "co_return", "co_yield", "compl", "concept", "const_cast", "consteval",
    "constinit", "decltype", "delete", "dynamic_cast", "explicit", "export", "friend", "mutable",
    "namespace", "new", "noexcept", "not", "not_eq", "operator", "or", "or_eq", "private",
    "protected", "public", "reinterpret_cast", "requires", "static_cast", "template", "this",
    "throw", "try", "typeid", "typename", "using", "virtual", "wchar_t", "xor", "xor_eq"]

/-- Whether C or C++ reserves a text: it is a keyword, has two underscores in a row, or begins with
an underscore and a capital letter. -/
def isReserved (t : Text) : Bool :=
  ((keywordsOfC ++ keywordsOfCpp).map Text.ofString).contains t ||
    (Text.cutAt? ['_', '_'] t).isSome ||
    match t with
    | '_' :: c :: _ => c.isUpper
    | _ => false

/-- An identifier that is reserved neither in C nor in C++. -/
structure Identifier where
  /-- Its characters. -/
  text : Text
  /-- It is made of the characters of an identifier. -/
  isName : isName text = true
  /-- It is not reserved. -/
  isFree : isReserved text = false
  deriving DecidableEq

/-! ## Parts of declarations -/

/-- A base type. -/
inductive BaseType where
  /-- No type of values. -/
  | void
  /-- Whole numbers. -/
  | int
  /-- Characters. -/
  | char
  /-- Numbers with a fraction. -/
  | float
  /-- Whole numbers without a sign. -/
  | unsignedInt
  /-- A named type. -/
  | named (name : Identifier)
  deriving DecidableEq

/-- How a base type is written. -/
def BaseType.text : BaseType → Text
  | .void => "void"
  | .int => "int"
  | .char => "char"
  | .float => "float"
  | .unsignedInt => "unsigned int"
  | .named name => name.text

/-- So many stars. -/
def stars (n : Nat) : Text := List.replicate n '*'

/-- A parameter or a field. -/
structure Variable where
  /-- Whether it is constant. -/
  isConst : Bool
  /-- The base of its type. -/
  base : BaseType
  /-- The number of stars behind the base. -/
  stars : Nat
  /-- Its name. -/
  name : Identifier
  /-- The number of its elements, if it is an array. -/
  size : Option Nat
  deriving DecidableEq

namespace Variable

/-- Its type without the size of an array. -/
def elementType (v : Variable) : Text :=
  (if v.isConst then ("const " : Text) else []) ++ v.base.text ++ Canonical.stars v.stars

/-- The size of an array as it is written behind the name. -/
def sizeText (v : Variable) : Text :=
  match v.size with
  | none => []
  | some n => '[' :: Text.ofNat n ++ [']']

/-- How it is written. -/
def text (v : Variable) : Text := v.elementType ++ ' ' :: v.name.text ++ v.sizeText

/-- The parameter or field that it is. -/
def param (v : Variable) : Param :=
  match v.size with
  | none => ⟨v.elementType, some v.name.text⟩
  | some n => ⟨v.elementType ++ " [" ++ Text.ofNat n ++ "]", some v.name.text⟩

end Variable

/-- The value of a member of an enumeration. -/
inductive Value where
  /-- A whole number. -/
  | number (n : Nat)
  /-- A named value. -/
  | named (name : Identifier)
  deriving DecidableEq

/-- How a value is written. -/
def Value.text : Value → Text
  | .number n => Text.ofNat n
  | .named name => name.text

/-- A member of an enumeration. -/
structure Constant where
  /-- Its name. -/
  name : Identifier
  /-- Its value, if it is given. -/
  value : Option Value
  deriving DecidableEq

namespace Constant

/-- How it is written. -/
def text (c : Constant) : Text :=
  c.name.text ++
    match c.value with
    | none => []
    | some v => ' ' :: '=' :: ' ' :: v.text

/-- The member that it is. -/
def enumerator (c : Constant) : Enumerator := ⟨c.name.text, c.value.map Value.text⟩

end Constant

/-- Members of a list, with a comma and a space between them. -/
def listed {α : Type} (text : α → Text) (a : α) (as : List α) : Text :=
  text a ++ as.flatMap fun b => ',' :: ' ' :: text b

/-- Parameters as they are written between their parentheses. -/
def paramsText : List Variable → Text
  | [] => "void"
  | v :: vs => listed Variable.text v vs

/-! ## Declarations -/

/-- A canonical declaration. -/
inductive Form where
  /-- A function. -/
  | function (result : BaseType) (stars : Nat) (name : Identifier) (params : List Variable)
  /-- A name for pointers to functions. -/
  | callback (result : BaseType) (stars : Nat) (name : Identifier) (params : List Variable)
  /-- A second name for a type. -/
  | synonym (name : Identifier) (target : BaseType)
  /-- A structure whose fields are not shown. -/
  | handle (name : Identifier)
  /-- A structure with fields. -/
  | struct (name : Identifier) (field : Variable) (fields : List Variable)
  /-- A union. -/
  | union (name : Identifier) (field : Variable) (fields : List Variable)
  /-- An enumeration with members. -/
  | enumeration (name : Option Identifier) (item : Constant) (items : List Constant)
  /-- An enumeration without members. -/
  | marker (name : Identifier)
  deriving DecidableEq

namespace Form

/-- How a structure or a union is written behind the word that begins a type definition. -/
def recordText (tag : Text) (name : Identifier) (fields : List Variable) : Text :=
  tag ++ ' ' :: '{' :: (fields.flatMap fun v => ' ' :: v.text ++ [';']) ++ ' ' :: '}' :: ' ' ::
    name.text ++ [';']

/-- How a declaration is written. -/
def text : Form → Text
  | .function result n name params =>
    result.text ++ stars n ++ ' ' :: name.text ++ '(' :: paramsText params ++ [')', ';']
  | .callback result n name params =>
    "typedef" ++ ' ' :: result.text ++ stars n ++ ' ' :: '(' :: '*' :: name.text ++ ')' :: '(' ::
      paramsText params ++ [')', ';']
  | .synonym name target => "typedef" ++ ' ' :: target.text ++ ' ' :: name.text ++ [';']
  | .handle name => "typedef" ++ ' ' :: "struct" ++ ' ' :: name.text ++ ' ' :: name.text ++ [';']
  | .struct name field fields => "typedef" ++ ' ' :: recordText "struct" name (field :: fields)
  | .union name field fields => "typedef" ++ ' ' :: recordText "union" name (field :: fields)
  | .enumeration (some name) item items =>
    "typedef" ++ ' ' :: "enum" ++ ' ' :: '{' :: ' ' :: listed Constant.text item items ++ ' ' ::
      '}' :: ' ' :: name.text ++ [';']
  | .enumeration none item items =>
    "enum" ++ ' ' :: '{' :: ' ' :: listed Constant.text item items ++ [' ', '}', ';']
  | .marker name => "enum" ++ ' ' :: name.text ++ [';']

/-- The declaration that a canonical declaration is. -/
def declaration : Form → Declaration
  | .function result n name params =>
    .function ⟨result.text ++ stars n, name.text, params.map Variable.param⟩
  | .callback result n name params =>
    .callback ⟨result.text ++ stars n, name.text, params.map Variable.param⟩
  | .synonym name target => .alias name.text target.text
  | .handle name => .handle name.text
  | .struct name field fields => .struct ⟨name.text, (field :: fields).map Variable.param⟩
  | .union name field fields => .union ⟨name.text, (field :: fields).map Variable.param⟩
  | .enumeration name item items =>
    .enumeration (name.map Identifier.text) (some ((item :: items).map Constant.enumerator))
  | .marker name => .enumeration (some name.text) none

end Form

/-- The text of a header: its declarations, each on a line of its own. -/
def header (ds : List Form) : Text := ds.flatMap fun d => d.text ++ ['\n']

/-! ## Words with a meaning of their own

Some identifiers that neither language reserves have a meaning in the grammar all the same: at their
places they are no names. -/

/-- Whether an identifier is none of some words. -/
def Identifier.avoids (words : List Text) (name : Identifier) : Bool := !words.contains name.text

/-- Whether a base type is none of some words. -/
def BaseType.avoids (words : List Text) : BaseType → Bool
  | .named name => name.avoids words
  | _ => true

/-- Words that qualify a type. -/
def qualifiers : List Text := ["noreturn"]

/-- Words that qualify a type or, behind a star, a pointer. -/
def qualifiersBehind : Nat → List Text
  | 0 => qualifiers
  | _ + 1 => "_unaligned" :: qualifiers

/-- Words that begin an operand, and so could begin a statement or an argument. -/
def operands : List Text := ["TRUE", "FALSE", "NULL", "offsetof", "_alignof"]

/-- Words that are no values by themselves. -/
def typesAndOperators : List Text := Keyword.primitives ++ (["offsetof", "_alignof"] : List Text)

/-- Whether neither the type nor the name of a parameter or a field has another meaning. -/
def Variable.isOrdinary (words : List Text) (v : Variable) : Bool :=
  v.base.avoids (words ++ qualifiers) && v.name.avoids (qualifiersBehind v.stars)

/-- Whether the value of a member has no other meaning. -/
def Constant.isOrdinary (c : Constant) : Bool :=
  match c.value with
  | some (.named name) => name.avoids typesAndOperators
  | _ => true

/-- Whether no identifier of a declaration has another meaning at its place. -/
def Form.isOrdinary : Form → Bool
  | .function result n name params =>
    result.avoids (operands ++ qualifiers) && name.avoids (qualifiersBehind n) &&
      params.all (·.isOrdinary operands)
  | .callback result _ name params =>
    result.avoids qualifiers && name.avoids (qualifiersBehind 1) &&
      params.all (·.isOrdinary operands)
  | .synonym name target => target.avoids qualifiers && name.avoids qualifiers
  | .handle name => name.avoids (Keyword.closures ++ qualifiers)
  | .struct name field fields | .union name field fields =>
    name.avoids qualifiers && (field :: fields).all (·.isOrdinary [])
  | .enumeration name item items =>
    name.all (·.avoids qualifiers) && (item :: items).all Constant.isOrdinary
  | .marker _ => true

end Bindery.Canonical
