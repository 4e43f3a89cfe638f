import Bindery.Text.Basic

/-!
# Words with a meaning

A word has its special meaning only where that meaning could stand; anywhere else it is a name.
So there is no one list of reserved words, but lists of the words that mean something at one kind
of place, from which each reader takes those that cannot be names where it reads.
-/

namespace Bindery.Header.Keyword

/-- Words that size a number type. -/
def sizes : List Text := ["signed", "unsigned", "long", "short"]

/-- Words that are types by themselves. -/
def primitives : List Text :=
  ["bool", "char", "int", "float", "double", "void", "size_t", "ssize_t", "ptrdiff_t", "intptr_t",
    "uintptr_t", "charptr_t", "nullptr_t", "max_align_t", "int8_t", "int16_t", "int32_t",
    "int64_t", "uint8_t", "uint16_t", "uint32_t", "uint64_t", "char8_t", "char16_t", "char32_t",
    "char64_t"]

/-- Words that begin a tagged type. -/
def tags : List Text := ["struct", "union", "enum", "class"]

/-- Words that qualify a type. -/
def qualifiers : List Text :=
  ["const", "constexpr", "volatile", "restrict", "__restrict__", "__extension__", "_Atomic",
    "_Noreturn", "noreturn", "_Nonnull", "mutable", "constinit", "consteval"]

/-- Words that say how an object is aligned, before parentheses. -/
def alignments : List Text := ["alignas", "_Alignas"]

/-- Words that say how what is declared is stored or linked. -/
def storages : List Text :=
  ["extern", "static", "register", "inline", "__inline", "__inline__", "__forceinline",
    "thread_local", "__thread", "virtual"]

/-- Words that begin an attribute in double parentheses. -/
def attributes : List Text := ["__attribute__", "__attribute"]

/-- Words that modify a declaration and are no type. -/
def modifiers : List Text :=
  qualifiers ++ alignments ++ storages ++ attributes ++ (["__declspec"] : List Text)

/-- Words that qualify a pointer behind its star, besides the qualifiers of types. -/
def pointers : List Text :=
  ["__restrict", "__uptr", "__sptr", "_unaligned", "__unaligned"]

/-- Words that say how a function is called. -/
def conventions : List Text :=
  ["__cdecl", "__clrcall", "__stdcall", "__fastcall", "__thiscall", "__vectorcall"]

/-- Words that give the alignment of a type. -/
def alignmentsOf : List Text :=
  ["__alignof__", "__alignof", "_alignof", "alignof", "_Alignof"]

/-- Words that begin a line of machine code. -/
def assembly : List Text := ["asm", "__asm__", "__asm"]

/-- Words that are values. -/
def values : List Text :=
  ["true", "TRUE", "false", "FALSE", "NULL", "nullptr", "this"]

/-- Words that are written before an operand. -/
def operators : List Text := ["not", "compl", "co_await"]

/-- Words with a meaning where an operand of an expression begins. -/
def operands : List Text :=
  values ++ operators ++ primitives ++ alignmentsOf ++ assembly ++
    (["sizeof", "offsetof", "_Generic", "__extension__", "decltype", "requires", "new", "delete",
      "template"] : List Text)

/-- Words with a meaning where a type begins that may be qualified. -/
def types : List Text :=
  tags ++ sizes ++ primitives ++ qualifiers ++ alignments ++
    (["typename", "auto", "decltype", "template"] : List Text)

/-- Words with a meaning where a type or an operand begins. -/
def typeNames : List Text := types ++ operands

/-- Words with a meaning where a parameter begins. -/
def parameters : List Text := types ++ modifiers ++ operands

/-- Words with a meaning where a declaration or a statement begins. -/
def statements : List Text :=
  (["typedef", "using", "namespace", "static_assert", "concept", "if", "switch", "case", "default",
    "while", "do", "for", "return", "break", "continue", "goto", "try", "throw", "co_return",
    "co_yield", "operator", "explicit"] : List Text) ++ conventions ++ parameters

/-- Words with a meaning where a statement begins, but none where an operand does. -/
def statementStarts : List Text := statements.filter fun w => !operands.contains w

/-- Words with a meaning where a member of a structure begins. -/
def members : List Text :=
  (["typedef", "using", "friend", "template", "static_assert", "public", "private", "protected",
    "operator", "explicit"] : List Text) ++ types ++ modifiers

/-- Words with a meaning where a declared name stands. -/
def declarators : List Text :=
  modifiers ++ sizes ++ (["operator", "decltype", "template", "auto", "__based"] : List Text)

/-- Words that cannot begin the name of a function without a base type, of those with a meaning at
its place. -/
def withoutType (reserved : List Text) : List Text :=
  reserved.filter fun w => !declarators.contains w

/-- Words with a meaning where the name of a field stands. -/
def fields : List Text := modifiers ++ sizes ++ (["operator", "auto", "__based"] : List Text)

/-- Words with a meaning where the name of a type is defined. -/
def definitions : List Text := qualifiers ++ alignments ++ (["__based"] : List Text)

/-- Words that close a structure or a function to what may be derived from it. -/
def closures : List Text := ["final", "override"]

/-- Words with a meaning behind the word that begins a structure, a union or a class. -/
def records : List Text :=
  attributes ++ alignments ++ closures ++ (["__declspec", "decltype", "template"] : List Text)

/-- Words with a meaning behind the word that begins an enumeration. -/
def enumerations : List Text := ["class", "struct", "decltype", "template"]

/-- Words with a meaning behind a scope. -/
def inScopes : List Text := ["template", "operator", "decltype"]

/-- Operators between two operands that are spelled as words. -/
def infixes : List Text := ["or", "and", "bitor", "xor", "bitand", "not_eq"]

/-- Assignments that are spelled as words. -/
def assignments : List Text := ["and_eq", "or_eq", "xor_eq"]

/-- Operators that are spelled as words where an operator is named. -/
def named : List Text :=
  ["co_await", "xor", "bitand", "bitor", "compl", "not", "xor_eq", "and_eq", "or_eq", "not_eq",
    "and", "or"]

end Bindery.Header.Keyword
