import Bindery.Header.Directive
import Bindery.Header.Keyword
import Bindery.Source.Span

/-!
# Items of a header

A header is a sequence of items. The splitter takes one token at a time and knows where an item
ends without understanding it: at a semicolon outside braces, at the brace that closes a function
body or a namespace, before a brace that closes nothing, and before a word that cannot follow the
parameters of a function. Such a word may also be one too many; the token behind it tells. A
conditional part is one item, up to the directive that closes it. Blocks of foreign linkage are
entered: their items are items of the header. A semicolon on its own is no item.
-/

namespace Bindery.Header

/-- The tokens of one item. -/
structure Item where
  /-- Whether the item is the single declaration of a linkage specification. -/
  linkage : Bool
  /-- Whether the item stands in a block. -/
  nested : Bool
  /-- The byte offset at which its first token begins. -/
  start : Nat
  /-- Its tokens, in order; never empty. The gap before the first one is no part of it. -/
  tokens : List Token
  deriving DecidableEq, Repr

namespace Item

/-- From the first to the last token of the item. -/
def span (item : Item) : Span := Token.spanFrom item.start item.tokens

/-- The byte offset at which its last token ends. -/
def stop (item : Item) : Nat := item.start + Token.widthOf item.tokens

/-- Words that may follow the parameters of a function within its declaration. -/
def afterParameters : List Text :=
  ["const", "volatile", "noexcept", "override", "final", "throw", "try", "asm", "__asm__", "__asm",
    "__attribute__", "__attribute", "__declspec", "requires", "catch"]

/-- Words whose parentheses are not parameters. -/
def attributeWords : List Text :=
  ["__attribute__", "__attribute", "__declspec", "alignas", "_Alignas", "asm", "__asm__", "__asm",
    "decltype", "noexcept", "throw", "requires", "explicit"]

/-- Words that begin a statement whose last part may be a block. -/
def controlWords : List Text := ["if", "else", "while", "for", "switch", "try", "catch"]

/-- Words that begin an item wherever they stand. -/
def beginningWords : List Text := controlWords ++ (["do", "namespace"] : List Text)

/-- Words that go on with a statement before them. -/
def continuingWords : List Text := ["else", "catch"]

/-- Whether a word that goes on with a statement may follow an item. -/
def mayContinue (item : Item) : Bool := item.tokens.any (·.isOneOf ["if", "try"])

end Item

/-- What an opening parenthesis begins. -/
inductive Parenthesis where
  /-- The parameters of a function, or the arguments of a call. -/
  | parameters
  /-- An attribute, with all the parentheses inside it. -/
  | attribute
  /-- Anything else. -/
  | grouping
  deriving DecidableEq, Repr

/-- What the beginning of an item says about its end. -/
inductive Heading where
  /-- Nothing: a brace ends it only if it closes the body of a function. -/
  | plain
  /-- The outermost brace that closes ends it. -/
  | block
  /-- A list of members with their values has begun, and the body of a function follows it. -/
  | members
  /-- A value has begun, and no brace ends the item. -/
  | value
  /-- A semicolon ends it only behind the word that repeats what stands before. -/
  | repeated
  /-- A conditional part, with the brackets that are open inside it, innermost first. -/
  | conditional (inner : List Char)
  deriving DecidableEq, Repr

/-- The state between two tokens. -/
structure Splitter where
  /-- The number of bytes taken. -/
  offset : Nat := 0
  /-- The number of linkage blocks that are open. -/
  blocks : Nat := 0
  /-- Whether the item being read is the declaration of a linkage specification. -/
  linkage : Bool := false
  /-- The byte offset at which the item being read begins. -/
  start : Nat := 0
  /-- The tokens of the item being read, in reverse. -/
  taken : List Token := []
  /-- What its beginning says about its end. -/
  heading : Heading := .plain
  /-- The number of its braces that are open. -/
  braces : Nat := 0
  /-- Whether the item ends with the outermost brace that is open. -/
  body : Bool := false
  /-- Its open parentheses outside braces, innermost first. -/
  parens : List Parenthesis := []
  /-- Whether the tokens outside parentheses end with parameters and what may follow them, or with
  a value in braces. -/
  called : Bool := false
  /-- Whether the last token may be one too many, or else begins an item of its own. -/
  extra : Bool := false
  /-- The items found, the last one first. -/
  items : List Item := []
  deriving DecidableEq, Repr

/-- Whether a token behind what could be a whole declaration may be one too many: it is short, and
not a word that has a meaning there. -/
def Token.mayBeExtra (t : Token) : Bool :=
  t.isShort && !t.isDirective &&
    !t.isOneOf (Item.beginningWords ++ Keyword.tags ++ Item.attributeWords)

/-- Whether a token may go on with what could end before it. -/
def Token.goesOn (t : Token) : Bool := [';', ',', '=', '(', '[', '\x7b'].any (t.isMark ·)

namespace Splitter

/-- Be between items. -/
def between (s : Splitter) : Splitter :=
  { offset := s.offset, blocks := s.blocks, items := s.items }

/-- End the item being read. -/
def close (s : Splitter) : Splitter :=
  if s.taken.isEmpty then s.between
  else
    { s.between with
      items := ⟨s.linkage, 0 < s.blocks, s.start, s.taken.reverse⟩ :: s.items }

/-- Whether the item names an operator. -/
def namesOperator (s : Splitter) : Bool := s.taken.any (·.isTheWord ("operator" : Text))

/-- What a parenthesis behind what has been read opens. -/
def parenthesis (s : Splitter) : Parenthesis :=
  match s.parens, s.taken with
  | .attribute :: _, _ => .attribute
  | _, [] => .grouping
  | _, t :: _ =>
    if t.isOneOf Item.attributeWords then .attribute
    else if t.isWord || t.isMark ')' || t.isMark '>' || s.namesOperator then .parameters
    else .grouping

/-- Whether an opening brace behind what has been read begins a body with which the item ends. -/
def opensBody (s : Splitter) : Bool :=
  s.parens.isEmpty &&
    match s.heading with
    | .plain => s.called || s.taken.head?.any (·.isTheWord ("try" : Text))
    | .block => true
    | .members => s.taken.head?.any fun t => t.isMark ')' || t.isMark '}'
    | _ => false

/-- Whether an outermost brace that closes ends what has been read, as far as the words before it
show: it does unless it closes the body of a tagged type. -/
def closesValue (s : Splitter) : Bool :=
  s.heading == .plain && !s.taken.any (·.isOneOf Keyword.tags)

/-- Whether a semicolon ends the item. -/
def endsAtSemicolon (s : Splitter) : Bool :=
  match s.heading with
  | .repeated => false
  | .block => s.parens.isEmpty
  | _ => true

/-- What a word or a mark outside parentheses and braces says about the end of the item. -/
def turn (s : Splitter) (t : Token) : Splitter :=
  if t.isOneOf Item.afterParameters then s
  else if t.isTheWord ("namespace" : Text) then { s with heading := .block, called := false }
  else if s.called && t.isMark '-' then { s with heading := .block, called := false }
  else if s.called && t.isMark ':' then { s with heading := .members, called := false }
  else if s.called && t.isMark '&' then s
  else if t.isMark '=' && !s.namesOperator then { s with heading := .value, called := false }
  else { s with called := false }

/-- Take a token of a conditional part. -/
def takeConditional (s : Splitter) (inner : List Char) (t : Token) : Splitter :=
  let s' := { s with taken := t :: s.taken }
  if t.isDirective then
    if Directive.opens t.text then { s' with heading := .conditional ('#' :: inner) }
    else if Directive.closes t.text then
      match inner with
      | ['#'] => s'.close
      | '#' :: outer => { s' with heading := .conditional outer }
      | _ => s'
    else s'
  else
    match inner with
    | c :: outer =>
      if t.isMark '(' then { s' with heading := .conditional (')' :: inner) }
      else if t.isMark '[' then { s' with heading := .conditional (']' :: inner) }
      else if t.isMark '\x7b' then { s' with heading := .conditional ('\x7d' :: inner) }
      else if t.isMark c then { s' with heading := .conditional outer }
      else s'
    | [] => s'

/-- Take a token in the braces of an item. -/
def takeInBraces (s : Splitter) (t : Token) : Splitter :=
  let s' := { s with taken := t :: s.taken }
  if t.isMark '{' then { s' with braces := s.braces + 1 }
  else if t.isMark '}' then
    if s.braces > 1 then { s' with braces := s.braces - 1 }
    else if s.body then s'.close
    else { s' with braces := 0, called := s.parens.isEmpty && s.closesValue }
  else s'

/-- Take a token of an item outside its braces. -/
def takeOutside (s : Splitter) (t : Token) : Splitter :=
  let s' := { s with taken := t :: s.taken }
  if t.isMark ';' then if s.endsAtSemicolon then s'.close else s'
  else if t.isMark '{' then
    { s' with braces := 1, body := s.opensBody, called := false }
  else if t.isMark '(' then
    { s' with
      parens := s.parenthesis :: s.parens
      called := s.called && s.parenthesis == .attribute }
  else if t.isMark ')' then
    match s.parens with
    | [] => s'
    | opened :: outer => { s' with parens := outer, called := opened == .parameters || s.called }
  else if !s.parens.isEmpty then s'
  else if s.heading == .repeated && t.isTheWord "while" then { s' with heading := .plain }
  else s'.turn t

/-- Take a token into the item being read. -/
def take (s : Splitter) (t : Token) : Splitter :=
  match s.heading with
  | .conditional inner => s.takeConditional inner t
  | _ => if s.braces > 0 then s.takeInBraces t else s.takeOutside t

/-- Whether a token cannot belong to the item being read. -/
def endsBefore (s : Splitter) (t : Token) : Bool :=
  match s.heading with
  | .conditional _ => false
  | heading =>
    s.braces == 0 && !s.taken.isEmpty &&
      (t.isMark '}' || (t.isDirective && s.parens.isEmpty) ||
        (s.taken.all (·.kind == .stray) && t.kind != .stray) ||
        (heading == .plain && s.called && s.parens.isEmpty && t.kind != .mark &&
          !t.isOneOf Item.afterParameters))

/-- Whether what has been read may be called complete, and one token more be one too many. -/
def mayExceed (s : Splitter) (t : Token) : Bool :=
  s.called && s.heading == .plain && s.parens.isEmpty && t.mayBeExtra

/-- Whether what has been read is the beginning of a linkage specification. -/
def atLinkage (s : Splitter) : Bool :=
  match s.taken with
  | [text, word] => text.kind == .text && word.isTheWord "extern" && !s.linkage
  | _ => false

/-- The heading of an item that begins with a token. -/
def headingOf (t : Token) : Heading :=
  if t.isDirective && Directive.opens t.text then .conditional ['#']
  else if t.isMark '{' || t.isOneOf Item.controlWords then .block
  else if t.isTheWord ("do" : Text) then .repeated
  else .plain

/-- Be at the beginning of an item whose first token is the next one. -/
def before (s : Splitter) (t : Token) : Splitter :=
  { s.between with linkage := s.linkage, start := s.offset + Text.byteSize t.gap }

/-- Take a token that begins an item. -/
def begin (s : Splitter) (t : Token) : Splitter :=
  match headingOf t with
  | .conditional inner => { s.before t with heading := .conditional inner, taken := [t.withoutGap] }
  | heading =>
    if t.isDirective then { s.before t with taken := [t.withoutGap] }.close
    else { s.before t with heading := heading }.take t.withoutGap

/-- Take a token that goes on with the last item, which ends directly before it. -/
def resume (s : Splitter) (last : Item) (others : List Item) (t : Token) : Splitter :=
  { s.between with
    linkage := last.linkage
    items := others
    start := last.start
    taken := last.tokens.reverse
    heading := .block }.take t

/-- Take a token that stands between items. -/
def open_ (s : Splitter) (t : Token) : Splitter :=
  if t.isMark ';' then s.between
  else if t.isMark '}' then
    if s.blocks > 0 then { s.between with blocks := s.blocks - 1 }
    else { s.before t with taken := [t.withoutGap] }.close
  else
    match s.items with
    | last :: others =>
      if t.isOneOf Item.continuingWords && last.mayContinue && last.stop == s.offset then
        s.resume last others t
      else s.begin t
    | [] => s.begin t

/-- Take one token behind tokens none of which is in doubt. -/
def acceptSettled (s : Splitter) (t : Token) : Splitter :=
  if s.atLinkage then
    if t.kind == .stray then s
    else if t.isMark ';' || t.isMark '\x7d' then s.close.open_ t
    else if t.isMark '{' then { s.between with blocks := s.blocks + 1 }
    else { s.between with linkage := true }.open_ t
  else if s.taken.isEmpty then s.open_ t
  else if s.endsBefore t then
    if s.mayExceed t then { s with taken := t :: s.taken, extra := true }
    else s.close.open_ t
  else s.take t

/-- End the item before a token that is in doubt, and begin the next one with it. -/
def settle (s : Splitter) : Splitter :=
  match s.extra, s.taken with
  | true, t :: ts =>
    let s' := { s with offset := s.offset - t.width, taken := ts, extra := false }
    { s'.close.open_ t with offset := s.offset }
  | _, _ => s

/-- Take one token, all but the count of bytes. A token in doubt is one too many if what follows it
goes on with what stands before it. -/
def accept (s : Splitter) (t : Token) : Splitter :=
  if s.extra && t.goesOn then { s with extra := false }.take t else s.settle.acceptSettled t

/-- Take one token. -/
def step (s : Splitter) (t : Token) : Splitter :=
  { s.accept t with offset := s.offset + t.width }

/-- Take a list of tokens. -/
def run (s : Splitter) (ts : List Token) : Splitter := ts.foldl step s

/-- Reading a list of tokens in two parts is the same as reading it at once. -/
theorem run_append (s : Splitter) (ts us : List Token) : s.run (ts ++ us) = (s.run ts).run us :=
  List.foldl_append

end Splitter

/-- The items of a token list, and the number of linkage blocks left open at its end. -/
def splitItems (ts : List Token) : List Item × Nat :=
  let s := (Splitter.run {} ts).settle.close
  (s.items.reverse, s.blocks)

end Bindery.Header
