import Bindery.Header.Directive
import Bindery.Header.Number

/-!
# From characters to tokens

The scanner takes one character at a time, so reading a text in two parts is the same as reading
it at once. Blanks and comments fall into gaps; directive lines, numbers, and text in quotes with
what belongs to it are one token each. What breaks off before its end is stray.
-/

namespace Bindery.Header

/-- How far a directive line has been read. -/
inductive DirectivePhase where
  /-- Before or inside its name. -/
  | name
  /-- Behind the name. -/
  | body
  /-- Behind a backslash, which keeps the line going over a line feed. -/
  | escape
  /-- Behind a slash, which may open a comment; the flag says that an argument has begun. -/
  | slash (argued : Bool)
  /-- Inside a comment that may go over several lines; the flag says that the last character was
  a star. -/
  | comment (star : Bool)
  deriving DecidableEq, Repr

/-- What the scanner is inside of. Characters read so far stand in reverse. -/
inductive ScanMode where
  /-- Between tokens. -/
  | between
  /-- In a word. -/
  | word (read : Text)
  /-- Behind a backslash that follows a word, or nothing. -/
  | backslash (word : Text)
  /-- Behind a backslash and a carriage return that follow a word, or nothing. -/
  | carriageReturn (word : Text)
  /-- In the code of a character that belongs to a word; so many digits are still to come. -/
  | code (word escape : Text) (wanted : Nat)
  /-- In a number. -/
  | number (read : Text)
  /-- In a run of characters that begin no token. -/
  | stray (read : Text)
  /-- In quotes; the flag says that the next character stands for itself. -/
  | quoted (quote : Char) (escaped : Bool) (read : Text)
  /-- In quotes and behind a line feed, with the blanks that follow it. -/
  | broken (quote : Char) (read blanks : Text)
  /-- Behind the closing quote, where a suffix may follow. -/
  | suffix (quote : Char) (read suffix : Text)
  /-- In the mark between the opening quote and the parenthesis of raw text. -/
  | delimiter (read delimiter : Text)
  /-- In raw text, which ends with its mark. -/
  | raw (delimiter read : Text)
  /-- Behind a slash, which may open a comment. -/
  | slash
  /-- In a comment that ends with its line. -/
  | lineComment (escaped : Bool)
  /-- In a comment that ends with star and slash; the flag says that the last one was a star. -/
  | blockComment (star : Bool) (read : Text)
  /-- In a directive line. -/
  | directive (phase : DirectivePhase) (read : Text)
  deriving DecidableEq, Repr

/-- The state between two characters. -/
structure Scanner where
  /-- What the scanner is inside of. -/
  mode : ScanMode := .between
  /-- The gap before the token that is being read or comes next, in reverse. -/
  gap : Text := []
  /-- The number of conditional parts that are open. -/
  depth : Nat := 0
  /-- The tokens found, the last one first. -/
  tokens : List Token := []
  deriving DecidableEq, Repr

namespace Scanner

/-- Be in a mode. -/
def become (s : Scanner) (mode : ScanMode) : Scanner := { s with mode := mode }

/-- Add to the gap and be in a mode. -/
def skip (s : Scanner) (mode : ScanMode) (c : Char) : Scanner :=
  { s with mode := mode, gap := c :: s.gap }

/-- Finish a token, given its characters in reverse; what follows it directly begins a new one. -/
def emit (s : Scanner) (kind : TokenKind) (read : Text) : Scanner :=
  { s with
    mode := .between
    gap := []
    tokens := ⟨kind, read.reverse, s.gap.reverse⟩ :: s.tokens }

/-- Finish a word, if one has been read. -/
def emitWord (s : Scanner) (word : Text) : Scanner :=
  if word.isEmpty then s else s.emit .word word

/-- Finish a number. A sign at its end does not belong to it. -/
def emitNumber (s : Scanner) (read : Text) : Scanner :=
  match read with
  | [] => s.become .between
  | c :: before =>
    let kind (t : Text) : TokenKind := if Number.isNumber t.reverse then .number else .stray
    if c == '+' || c == '-' then (s.emit (kind before) before).emit .mark [c]
    else s.emit (kind read) read

/-- Whether a directive line ends with its name: those that divide or close a conditional part and
take nothing do, where one is open. -/
def endsWithName (s : Scanner) (read : Text) : Bool :=
  0 < s.depth && Directive.bare.contains (Directive.nameOf read.reverse)

/-- Finish a directive line. -/
def emitDirective (s : Scanner) (read : Text) (ended : Bool) : Scanner :=
  let line := read.reverse
  let depth :=
    if Directive.opens line then s.depth + 1
    else if Directive.closes line then s.depth - 1
    else s.depth
  { s.emit (.directive ended) read with depth := depth }

/-- Whether every escape in a text in double quotes is complete. -/
def hasWholeEscapes : Text → Bool
  | [] => true
  | '\\' :: 'x' :: t => (t.head?.any isHexDigit) && hasWholeEscapes t
  | '\\' :: 'u' :: t => (t.take 4).length == 4 && (t.take 4).all isHexDigit && hasWholeEscapes t
  | '\\' :: 'U' :: t => (t.take 8).length == 8 && (t.take 8).all isHexDigit && hasWholeEscapes t
  | '\\' :: _ :: t => hasWholeEscapes t
  | _ :: t => hasWholeEscapes t

/-- The kind of token that a finished text in quotes is; raw text goes under its letter. -/
def quotedKind (quote : Char) (read : Text) : TokenKind :=
  if quote == '"' then if hasWholeEscapes read.reverse then .text else .stray
  else if quote == '\'' then
    if (read.reverse.dropWhile (· != quote)).length == 2 then .stray else .character
  else .text

/-- Finish a text in quotes with its suffix. -/
def emitQuoted (s : Scanner) (quote : Char) (read suffix : Text) : Scanner :=
  s.emit (quotedKind quote read) (suffix ++ read)

/-- The words that may stand directly before a quote and belong to the literal. -/
def literalLeads : List Text := ["L", "u", "U", "u8"]

/-- The words that may stand directly before the quote of raw text. -/
def rawLeads : List Text := ["R", "LR", "uR", "UR", "u8R"]

/-- Begin what a quote begins behind a word, if the word may stand there. -/
def openQuoted? (word : Text) (c : Char) : Option ScanMode :=
  if (c == '"' || c == '\'') && (word.isEmpty || literalLeads.contains word.reverse) then
    some (.quoted c false (c :: word))
  else if c == '"' && rawLeads.contains word.reverse then some (.delimiter (c :: word) [])
  else none

/-- Take a character that stands between tokens. -/
def advanceBetween (s : Scanner) (c : Char) : Scanner :=
  if isSpace c then s.skip .between c
  else if c == '\\' then s.become (.backslash [])
  else if isNameStart c then s.become (.word [c])
  else if c.isDigit then s.become (.number [c])
  else if c == '"' || c == '\'' then s.become (.quoted c false [c])
  else if c == '/' then s.become .slash
  else if c == '#' then s.become (.directive .name [c])
  else if isPunctuation c then s.emit .mark [c]
  else s.become (.stray [c])

/-- Take a character behind a backslash that follows a word, or nothing. -/
def advanceBackslash (s : Scanner) (word : Text) (c : Char) : Scanner :=
  if c == 'u' then s.become (.code word ['u', '\\'] 4)
  else if c == 'U' then s.become (.code word ['U', '\\'] 8)
  else if c == '\n' then
    let t := s.emitWord word
    { t with mode := .between, gap := '\n' :: '\\' :: t.gap }
  else if c == '\r' then s.become (.carriageReturn word)
  else ((s.emitWord word).emit .stray ['\\']).advanceBetween c

/-- Take a character of a directive line behind its name. -/
def advanceBody (s : Scanner) (read : Text) (c : Char) : Scanner :=
  if c == '\n' then
    if Directive.wantsArgument read.reverse then s.become (.directive .body (c :: read))
    else (s.emitDirective read true).skip .between c
  else if c == '\\' then s.become (.directive .escape (c :: read))
  else if c == '/' then
    s.become (.directive (.slash (Directive.hasArgument read.reverse)) (c :: read))
  else s.become (.directive .body (c :: read))

/-- Take a character of a directive line. -/
def advanceDirective (s : Scanner) (phase : DirectivePhase) (read : Text) (c : Char) : Scanner :=
  match phase with
  | .name =>
    if Text.isAsciiWord c then s.become (.directive .name (c :: read))
    else if (c == ' ' || c == '\t') && (Directive.nameOf read.reverse).isEmpty then
      s.become (.directive .name (c :: read))
    else if s.endsWithName read then (s.emitDirective read true).advanceBetween c
    else s.advanceBody read c
  | .body => s.advanceBody read c
  | .escape =>
    if c == '\r' then s.become (.directive .escape (c :: read))
    else s.become (.directive .body (c :: read))
  | .slash argued =>
    if c == '*' then s.become (.directive (.comment false) (c :: read))
    else if argued || c == '/' then s.become (.directive .body (c :: read))
    else s.advanceBody read c
  | .comment star =>
    if star && c == '/' then s.become (.directive .body (c :: read))
    else s.become (.directive (.comment (c == '*')) (c :: read))

/-- Take a character behind a closing quote. -/
def advanceSuffix (s : Scanner) (quote : Char) (read suffix : Text) (c : Char) : Scanner :=
  if if suffix.isEmpty then c.isAlpha || c == '_' else Text.isWord c then
    s.become (.suffix quote read (c :: suffix))
  else
    match if suffix.isEmpty then none else openQuoted? suffix c with
    | some mode => (s.emitQuoted quote read []).become mode
    | none => (s.emitQuoted quote read suffix).advanceBetween c

/-- Take one character. -/
def step (s : Scanner) (c : Char) : Scanner :=
  match s.mode with
  | .between => s.advanceBetween c
  | .word read =>
    if isNamePart c then s.become (.word (c :: read))
    else if c == '\\' then s.become (.backslash read)
    else
      match openQuoted? read c with
      | some mode => s.become mode
      | none => (s.emit .word read).advanceBetween c
  | .backslash word => s.advanceBackslash word c
  | .carriageReturn word =>
    let t := s.emitWord word
    if c == '\n' then { t with mode := .between, gap := '\n' :: '\r' :: '\\' :: t.gap }
    else ((t.emit .stray ['\\']).skip .between '\r').advanceBetween c
  | .code word escape wanted =>
    if isHexDigit c then
      if wanted = 1 then s.become (.word (c :: escape ++ word))
      else s.become (.code word (c :: escape) (wanted - 1))
    else ((s.emitWord word).emit .stray escape).advanceBetween c
  | .number read =>
    if isNamePart c || c == '.' || c == '\'' then s.become (.number (c :: read))
    else if (c == '+' || c == '-') && Number.awaitsExponent read then s.become (.number (c :: read))
    else (s.emitNumber read).advanceBetween c
  | .stray read =>
    if isSpace c || isNameStart c || c.isDigit || isPunctuation c || c == '"' || c == '\'' ||
        c == '#' || c == '\\' then
      (s.emit .stray read).advanceBetween c
    else s.become (.stray (c :: read))
  | .quoted quote escaped read =>
    if escaped then s.become (.quoted quote false (c :: read))
    else if c == '\\' then s.become (.quoted quote true (c :: read))
    else if c == quote then s.become (.suffix quote (c :: read) [])
    else if c == '\n' then s.become (.broken quote read [c])
    else s.become (.quoted quote false (c :: read))
  | .broken quote read blanks =>
    if isSpace c then s.become (.broken quote read (c :: blanks))
    else if c == quote then s.become (.suffix quote (c :: blanks ++ read) [])
    else if c == '\\' then s.become (.quoted quote true (c :: blanks ++ read))
    else
      let t := s.emit .stray read
      { t with gap := blanks }.advanceBetween c
  | .suffix quote read suffix => s.advanceSuffix quote read suffix c
  | .delimiter read delimiter =>
    if c == '(' then s.become (.raw delimiter (c :: read))
    else if isSpace c || c == '\\' || delimiter.length == 16 then
      (s.emit .stray read).advanceBetween c
    else s.become (.delimiter (c :: read) (c :: delimiter))
  | .raw delimiter read =>
    if c == '"' && Text.startsWith (delimiter ++ [')']) read then
      s.become (.suffix 'R' (c :: read) [])
    else s.become (.raw delimiter (c :: read))
  | .slash =>
    if c == '/' then { s with mode := .lineComment false, gap := c :: '/' :: s.gap }
    else if c == '*' then s.become (.blockComment false ['*', '/'])
    else (s.emit .mark ['/']).advanceBetween c
  | .lineComment escaped =>
    if c == '\\' then s.skip (.lineComment true) c
    else if c == '\n' && !escaped then s.skip .between c
    else s.skip (.lineComment (escaped && c == '\r')) c
  | .blockComment star read =>
    if c == '/' && star then { s with mode := .between, gap := c :: read ++ s.gap }
    else s.become (.blockComment (c == '*') (c :: read))
  | .directive phase read => s.advanceDirective phase read c

/-- Finish the token that the text ends in. -/
def finish (s : Scanner) : Scanner :=
  match s.mode with
  | .between | .lineComment _ => s
  | .word read => s.emit .word read
  | .backslash word => (s.emitWord word).emit .stray ['\\']
  | .carriageReturn word => (s.emitWord word).emit .stray ['\\']
  | .code word escape _ => (s.emitWord word).emit .stray escape
  | .number read => s.emitNumber read
  | .stray read | .quoted _ _ read | .broken _ read _ | .delimiter read _ | .raw _ read =>
    s.emit .stray read
  | .suffix quote read suffix => s.emitQuoted quote read suffix
  | .slash => s.emit .mark ['/']
  | .blockComment _ read => s.emit .stray (Text.trimStart read)
  | .directive _ read => s.emitDirective read (s.endsWithName read)

/-- Take a whole text. -/
def run (s : Scanner) (source : Text) : Scanner := source.foldl step s

/-- Reading a text in two parts is the same as reading it at once. -/
theorem run_append (s : Scanner) (t u : Text) : s.run (t ++ u) = (s.run t).run u :=
  List.foldl_append

end Scanner

/-- The mark of byte order, which may stand before the first character of a text. -/
def byteOrderMark : Char := Char.ofNat 0xFEFF

/-- Take a whole header. -/
def scan : Text → Scanner
  | [] => {}
  | c :: t => if c = byteOrderMark then Scanner.run { gap := [c] } t else Scanner.run {} (c :: t)

/-- The tokens of a header, in order. -/
def tokens (source : Text) : List Token := (scan source).finish.tokens.reverse

end Bindery.Header
