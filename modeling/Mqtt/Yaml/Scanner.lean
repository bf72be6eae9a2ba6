/-! # Reading YAML: tokens

The scanner turns YAML text into tokens: the start and end of the stream and of documents, the
starts and ends of block and flow collections, entries, keys and values, anchors, aliases, tags
and scalars, each with the place where it starts.

Block structure comes from indentation. The scanner keeps a stack of indentation columns: a
block collection starts where a line is indented further than the current column, and ends,
with a BLOCK-END token, where a line is indented less. A key without `?` (a simple key) is only
known to be one when the `:` after it is found; the scanner remembers where each possible simple
key starts and inserts the KEY token, and where needed the start of a block mapping, at that
place afterwards. A simple key must stay on one line and within 1024 characters, and in block
context a possible key at the current indentation must turn out to be one.

Scalars come plain, single-quoted, double-quoted, literal (`|`) or folded (`>`); line breaks
inside plain and quoted scalars are folded into spaces.

The scanner stops at the first problem and reports it with the place where it was found and,
for most problems, the place of the construct it was reading.
-/

namespace Mqtt

namespace Yaml

/-- A place in the text: character index, line and column, all from zero. -/
structure Mark where
  index : Nat := 0
  line : Nat := 0
  column : Nat := 0
  deriving DecidableEq, Repr, Inhabited

/-- How a scalar was written. -/
inductive ScalarStyle where
  | plain
  | singleQuoted
  | doubleQuoted
  | literal
  | folded
  deriving DecidableEq, Repr, Inhabited

/-- The kinds of token. -/
inductive TokenKind where
  | streamStart
  | streamEnd
  | directive
  | documentStart
  | documentEnd
  | blockSequenceStart
  | blockMappingStart
  | blockEnd
  | flowSequenceStart
  | flowSequenceEnd
  | flowMappingStart
  | flowMappingEnd
  | blockEntry
  | flowEntry
  | key
  | value
  | alias (name : String)
  | anchor (name : String)
  | tag (handle suffix : String)
  | scalar (text : String) (style : ScalarStyle)
  deriving DecidableEq, Repr, Inhabited

/-- A token and the places where it starts and ends. -/
structure Token where
  kind : TokenKind
  start : Mark
  stop : Mark
  deriving Repr, Inhabited

/-- A problem found while reading: what was being read and where it started, and what went
wrong where. -/
structure Problem where
  context : String := ""
  contextMark : Mark := {}
  problem : String
  problemMark : Mark := {}
  deriving Repr, Inhabited

/-- A place where a simple key may start. -/
structure SimpleKey where
  possible : Bool := false
  required : Bool := false
  tokenNumber : Nat := 0
  mark : Mark := {}
  deriving Repr, Inhabited

/-- The state of the scanner. -/
structure Scanner where
  input : Array Char
  mark : Mark := {}
  tokens : Array Token := #[]
  indent : Int := -1
  indents : List Int := []
  simpleKeyAllowed : Bool := false
  /-- One possible simple key per flow level, the innermost first. -/
  simpleKeys : List SimpleKey := []
  flowLevel : Nat := 0
  streamStartProduced : Bool := false
  streamEndProduced : Bool := false
  deriving Repr, Inhabited

/-- A problem with the tokens produced before it. -/
structure ScanFailure where
  problem : Problem
  tokens : Array Token
  deriving Repr, Inhabited

/-- Scanning: a step on the scanner that may fail. -/
abbrev Scan := StateT Scanner (Except ScanFailure)

/-- The character that stands for the end of the text. -/
def endChar : Char := '\x00'

/-- Whether a character is a line break. -/
def isBreak (c : Char) : Bool :=
  c == '\r' || c == '\n' || c.toNat == 0x85 || c.toNat == 0x2028 || c.toNat == 0x2029

/-- Whether a character is a space or a tab. -/
def isBlank (c : Char) : Bool := c == ' ' || c == '\t'

/-- Whether a character is a line break or the end. -/
def isBreakZ (c : Char) : Bool := isBreak c || c == endChar

/-- Whether a character is blank, a line break or the end. -/
def isBlankZ (c : Char) : Bool := isBlank c || isBreakZ c

/-- Whether a character may appear in an anchor name. -/
def isAnchorChar (c : Char) : Bool :=
  !isBlankZ c && c != ',' && c != '[' && c != ']' && c != '{' && c != '}' && c.toNat != 0xFEFF

/-- Whether a character is a letter, a digit, `_` or `-`. -/
def isWordChar (c : Char) : Bool := c.isAlphanum || c == '_' || c == '-'

/-- Whether a character may appear in a tag URI. -/
def isUriChar (c : Char) : Bool :=
  c.isAlphanum || ";/?:@&=+$,.!~*'()[]%-_#".toList.contains c

namespace Scan

/-- How many steps any loop of the scanner may take: more than characters in the text. -/
def fuel : Scan Nat := return (← get).input.size + 2

/-- The character `k` places ahead. -/
def peekAt (k : Nat) : Scan Char := do
  let s ← get
  return s.input.getD (s.mark.index + k) endChar

/-- The current character. -/
def cur : Scan Char := peekAt 0

/-- The current place. -/
def mark : Scan Mark := return (← get).mark

/-- Fails with a problem. -/
def fail {α : Type} (context : String) (contextMark : Mark) (problem : String) : Scan α := do
  let s ← get
  throw { problem := { context, contextMark, problem, problemMark := s.mark }, tokens := s.tokens }

/-- Moves past one character that is not a line break. -/
def skip : Scan Unit :=
  modify fun s => { s with mark := { s.mark with index := s.mark.index + 1, column := s.mark.column + 1 } }

/-- Moves past a line break, `\r\n` counting as one. -/
def skipLine : Scan Unit := do
  let c ← cur
  if c == '\r' && (← peekAt 1) == '\n' then
    modify fun s => { s with mark := { index := s.mark.index + 2, line := s.mark.line + 1, column := 0 } }
  else if isBreak c then
    modify fun s => { s with mark := { index := s.mark.index + 1, line := s.mark.line + 1, column := 0 } }

/-- Reads one character that is not a line break. -/
def read : Scan Char := do
  let c ← cur
  skip
  return c

/-- Reads a line break: `\r\n`, `\r`, `\n` and NEL read as `\n`, the line and paragraph
separators as themselves. -/
def readLine : Scan String := do
  let c ← cur
  if !isBreak c then return ""
  skipLine
  if c.toNat == 0x2028 || c.toNat == 0x2029 then return c.toString
  return "\n"

/-- Adds a token at the end. -/
def addToken (k : TokenKind) (start stop : Mark) : Scan Unit :=
  modify fun s => { s with tokens := s.tokens.push { kind := k, start, stop } }

/-- Inserts a token at a position of the token list. -/
def insertToken (pos : Nat) (k : TokenKind) (start stop : Mark) : Scan Unit :=
  modify fun s => { s with tokens := s.tokens.insertIdxIfInBounds pos { kind := k, start, stop } }

/-- The possible simple key of the current flow level. -/
def currentKey : Scan SimpleKey := return (← get).simpleKeys.headD {}

/-- Replaces the possible simple key of the current flow level. -/
def setCurrentKey (k : SimpleKey) : Scan Unit :=
  modify fun s => { s with simpleKeys := match s.simpleKeys with
    | [] => [k]
    | _ :: rest => k :: rest }

/-- Forgets the possible simple key of the current flow level; one that was required is a
problem. -/
def removeSimpleKey : Scan Unit := do
  let k ← currentKey
  if k.possible && k.required then
    fail "while scanning a simple key" k.mark "could not find expected ':'"
  setCurrentKey { k with possible := false }

/-- Remembers that a simple key may start here. -/
def saveSimpleKey : Scan Unit := do
  let s ← get
  let required := s.flowLevel == 0 && s.indent == s.mark.column
  if s.simpleKeyAllowed then
    removeSimpleKey
    setCurrentKey { possible := true, required, tokenNumber := s.tokens.size, mark := s.mark }

/-- Drops the possible simple keys that can no longer be keys: those on an earlier line or too
far back. A required one is a problem. -/
def staleSimpleKeys : Scan Unit := do
  let s ← get
  let mut keys : List SimpleKey := []
  for k in s.simpleKeys do
    if k.possible && (k.mark.line < s.mark.line || k.mark.index + 1024 < s.mark.index) then
      if k.required then fail "while scanning a simple key" k.mark "could not find expected ':'"
      keys := keys ++ [{ k with possible := false }]
    else keys := keys ++ [k]
  set { (← get) with simpleKeys := keys }

/-- Opens a flow level. -/
def increaseFlowLevel : Scan Unit :=
  modify fun s => { s with simpleKeys := {} :: s.simpleKeys, flowLevel := s.flowLevel + 1 }

/-- Closes a flow level. -/
def decreaseFlowLevel : Scan Unit :=
  modify fun s =>
    if s.flowLevel == 0 then s
    else { s with simpleKeys := s.simpleKeys.drop 1, flowLevel := s.flowLevel - 1 }

/-- In block context, starts a block collection when `column` is indented further than the
current column: the start token goes at position `number`, or at the end. -/
def rollIndent (column : Nat) (number : Option Nat) (k : TokenKind) (m : Mark) : Scan Unit := do
  let s ← get
  if s.flowLevel > 0 then return
  if s.indent < column then
    set { s with indents := s.indent :: s.indents, indent := column }
    match number with
    | some n => insertToken n k m m
    | none => addToken k m m

/-- In block context, ends every block collection indented further than `column`. -/
def unrollIndent (column : Int) : Scan Unit := do
  if (← get).flowLevel > 0 then return
  for _ in [0:(← fuel)] do
    let s ← get
    if s.indent ≤ column then break
    addToken .blockEnd s.mark s.mark
    set { (← get) with indent := s.indents.headD (-1), indents := s.indents.drop 1 }

/-- Moves past spaces, comments and line breaks to the next token. Tabs count as space in flow
context and where a simple key cannot start. -/
def scanToNextToken : Scan Unit := do
  for _ in [0:(← fuel)] do
    if (← mark).column == 0 && (← cur).toNat == 0xFEFF then skip
    for _ in [0:(← fuel)] do
      let c ← cur
      let s ← get
      if c == ' ' || ((s.flowLevel > 0 || !s.simpleKeyAllowed) && c == '\t') then skip else break
    if (← cur) == '#' then
      for _ in [0:(← fuel)] do
        if isBreakZ (← cur) then break
        skip
    if isBreak (← cur) then
      skipLine
      if (← get).flowLevel == 0 then modify fun s => { s with simpleKeyAllowed := true }
    else break

/-- Starts the stream. -/
def fetchStreamStart : Scan Unit := do
  modify fun s => { s with indent := -1, simpleKeyAllowed := true, simpleKeys := [{}],
                           streamStartProduced := true }
  let m ← mark
  addToken .streamStart m m

/-- Ends the stream, closing every block collection. -/
def fetchStreamEnd : Scan Unit := do
  modify fun s => if s.mark.column != 0 then
      { s with mark := { s.mark with column := 0, line := s.mark.line + 1 } } else s
  unrollIndent (-1)
  removeSimpleKey
  modify fun s => { s with simpleKeyAllowed := false, streamEndProduced := true }
  let m ← mark
  addToken .streamEnd m m

/-- Reads a directive line, which only the stream's start may hold. -/
def fetchDirective : Scan Unit := do
  unrollIndent (-1)
  removeSimpleKey
  modify fun s => { s with simpleKeyAllowed := false }
  let start ← mark
  for _ in [0:(← fuel)] do
    if isBreakZ (← cur) then break
    skip
  addToken .directive start (← mark)

/-- Reads `---` or `...`. -/
def fetchDocumentIndicator (k : TokenKind) : Scan Unit := do
  unrollIndent (-1)
  removeSimpleKey
  modify fun s => { s with simpleKeyAllowed := false }
  let start ← mark
  skip; skip; skip
  addToken k start (← mark)

/-- Reads `[` or `{`. -/
def fetchFlowCollectionStart (k : TokenKind) : Scan Unit := do
  saveSimpleKey
  increaseFlowLevel
  modify fun s => { s with simpleKeyAllowed := true }
  let start ← mark
  skip
  addToken k start (← mark)

/-- Reads `]` or `}`. -/
def fetchFlowCollectionEnd (k : TokenKind) : Scan Unit := do
  removeSimpleKey
  decreaseFlowLevel
  modify fun s => { s with simpleKeyAllowed := false }
  let start ← mark
  skip
  addToken k start (← mark)

/-- Reads `,`. -/
def fetchFlowEntry : Scan Unit := do
  removeSimpleKey
  modify fun s => { s with simpleKeyAllowed := true }
  let start ← mark
  skip
  addToken .flowEntry start (← mark)

/-- Reads `-` before a block sequence entry. -/
def fetchBlockEntry : Scan Unit := do
  let s ← get
  if s.flowLevel == 0 then
    if !s.simpleKeyAllowed then
      fail "" s.mark "block sequence entries are not allowed in this context"
    rollIndent s.mark.column none .blockSequenceStart s.mark
  removeSimpleKey
  modify fun s => { s with simpleKeyAllowed := true }
  let start ← mark
  skip
  addToken .blockEntry start (← mark)

/-- Reads `?` before a complex key. -/
def fetchKey : Scan Unit := do
  let s ← get
  if s.flowLevel == 0 then
    if !s.simpleKeyAllowed then
      fail "" s.mark "mapping keys are not allowed in this context"
    rollIndent s.mark.column none .blockMappingStart s.mark
  removeSimpleKey
  modify fun s => { s with simpleKeyAllowed := s.flowLevel == 0 }
  let start ← mark
  skip
  addToken .key start (← mark)

/-- Reads `:` before a value; a possible simple key before it becomes a key. -/
def fetchValue : Scan Unit := do
  let s ← get
  let k := s.simpleKeys.headD {}
  let valid := k.possible && !(k.mark.line < s.mark.line || k.mark.index + 1024 < s.mark.index)
  if k.possible && !valid && k.required then
    fail "while scanning a simple key" k.mark "could not find expected ':'"
  if valid then
    insertToken k.tokenNumber .key k.mark k.mark
    rollIndent k.mark.column (some k.tokenNumber) .blockMappingStart k.mark
    setCurrentKey { k with possible := false }
    modify fun s => { s with simpleKeyAllowed := false }
  else
    setCurrentKey { k with possible := false }
    if s.flowLevel == 0 then
      if !s.simpleKeyAllowed then
        fail "" s.mark "mapping values are not allowed in this context"
      rollIndent s.mark.column none .blockMappingStart s.mark
    modify fun s => { s with simpleKeyAllowed := s.flowLevel == 0 }
  let start ← mark
  skip
  addToken .value start (← mark)

/-- Reads an anchor (`&name`) or an alias (`*name`). -/
def fetchAnchor (isAlias : Bool) : Scan Unit := do
  saveSimpleKey
  modify fun s => { s with simpleKeyAllowed := false }
  let start ← mark
  skip
  let mut name := ""
  for _ in [0:(← fuel)] do
    let c ← cur
    if !isAnchorChar c then break
    name := name.push c
    skip
  if name.isEmpty then
    fail (if isAlias then "while scanning an alias" else "while scanning an anchor") start
      "did not find expected alphabetic or numeric character"
  addToken (if isAlias then .alias name else .anchor name) start (← mark)

/-- Reads the characters of a tag URI. -/
def scanTagUri : Scan String := do
  let mut out := ""
  for _ in [0:(← fuel)] do
    let c ← cur
    let s ← get
    if !isUriChar c || (s.flowLevel > 0 && (c == ',' || c == '[' || c == ']' || c == '{' || c == '}')) then
      break
    out := out.push c
    skip
  return out

/-- Reads a tag: `!<uri>`, `!handle!suffix`, `!suffix` or `!`. -/
def fetchTag : Scan Unit := do
  saveSimpleKey
  modify fun s => { s with simpleKeyAllowed := false }
  let start ← mark
  let (handle, suffix) ← if (← peekAt 1) == '<' then do
      skip; skip
      let u ← scanTagUri
      if (← cur) != '>' then fail "while scanning a tag" start "did not find the expected '>'"
      skip
      pure ("", u)
    else do
      skip
      let mut word := ""
      for _ in [0:(← fuel)] do
        let c ← cur
        if !isWordChar c then break
        word := word.push c
        skip
      if (← cur) == '!' then
        skip
        let suffix ← scanTagUri
        pure ("!" ++ word ++ "!", suffix)
      else
        let rest ← scanTagUri
        let suffix := word ++ rest
        if suffix.isEmpty then pure ("", "!") else pure ("!", suffix)
  let c ← cur
  if !isBlankZ c && !((← get).flowLevel > 0 && c == ',') then
    fail "while scanning a tag" start "did not find expected whitespace or line break"
  addToken (.tag handle suffix) start (← mark)

/-- Moves past the indentation and empty lines before the content of a block scalar, setting
the indentation when it is not given. -/
def scanBlockScalarBreaks (indent : Nat) (start : Mark) : Scan (Nat × String × Mark) := do
  let mut ind := indent
  let mut maxIndent := 0
  let mut breaks := ""
  let mut stop ← mark
  for _ in [0:(← fuel)] do
    for _ in [0:(← fuel)] do
      let m ← mark
      if (ind == 0 || m.column < ind) && (← cur) == ' ' then skip else break
    let m ← mark
    if m.column > maxIndent then maxIndent := m.column
    if (ind == 0 || m.column < ind) && (← cur) == '\t' then
      fail "while scanning a block scalar" start "found a tab character where an indentation space is expected"
    if !isBreak (← cur) then break
    breaks := breaks ++ (← readLine)
    stop ← mark
  if ind == 0 then
    let parent := (← get).indent
    ind := max (max maxIndent (parent + 1).toNat) 1
  return (ind, breaks, stop)

/-- Reads a literal (`|`) or folded (`>`) block scalar. -/
def fetchBlockScalar (literal : Bool) : Scan Unit := do
  removeSimpleKey
  modify fun s => { s with simpleKeyAllowed := true }
  let start ← mark
  skip
  let mut chomping : Int := 0
  let mut increment := 0
  let c ← cur
  if c == '+' || c == '-' then
    chomping := if c == '+' then 1 else -1
    skip
    let d ← cur
    if d.isDigit then
      if d == '0' then fail "while scanning a block scalar" start "found an indentation indicator equal to 0"
      increment := d.toNat - '0'.toNat
      skip
  else if c.isDigit then
    if c == '0' then fail "while scanning a block scalar" start "found an indentation indicator equal to 0"
    increment := c.toNat - '0'.toNat
    skip
    let d ← cur
    if d == '+' || d == '-' then
      chomping := if d == '+' then 1 else -1
      skip
  for _ in [0:(← fuel)] do
    if isBlank (← cur) then skip else break
  if (← cur) == '#' then
    for _ in [0:(← fuel)] do
      if isBreakZ (← cur) then break
      skip
  if !isBreakZ (← cur) then
    fail "while scanning a block scalar" start "did not find expected comment or line break"
  if isBreak (← cur) then skipLine
  let parent := (← get).indent
  let given := if increment == 0 then 0 else
    if parent ≥ 0 then (parent + increment).toNat else increment
  let (indent, firstBreaks, stop0) ← scanBlockScalarBreaks given start
  let mut stop := stop0
  let mut text := ""
  let mut leadingBreak := ""
  let mut trailingBreaks := firstBreaks
  let mut leadingBlank := false
  for _ in [0:(← fuel)] do
    let m ← mark
    if m.column != indent || (← cur) == endChar then break
    let trailingBlank := isBlank (← cur)
    if !literal && leadingBreak.startsWith "\n" && !leadingBlank && !trailingBlank then
      if trailingBreaks.isEmpty then text := text.push ' '
      leadingBreak := ""
    else
      text := text ++ leadingBreak
      leadingBreak := ""
    text := text ++ trailingBreaks
    trailingBreaks := ""
    leadingBlank := isBlank (← cur)
    for _ in [0:(← fuel)] do
      if isBreakZ (← cur) then break
      text := text.push (← read)
    leadingBreak := ← readLine
    let (_, more, stop') ← scanBlockScalarBreaks indent start
    trailingBreaks := more
    stop := stop'
  if chomping != -1 then text := text ++ leadingBreak
  if chomping == 1 then text := text ++ trailingBreaks
  addToken (.scalar text (if literal then .literal else .folded)) start stop

/-- The hexadecimal value of a digit. -/
def hexValue (c : Char) : Option Nat :=
  if c.isDigit then some (c.toNat - '0'.toNat)
  else if 'a' ≤ c && c ≤ 'f' then some (c.toNat - 'a'.toNat + 10)
  else if 'A' ≤ c && c ≤ 'F' then some (c.toNat - 'A'.toNat + 10)
  else none

/-- The character a double-quoted escape letter stands for, when it takes no digits. -/
def simpleEscape (c : Char) : Option Char :=
  match c with
  | '0' => some '\x00' | 'a' => some '\x07' | 'b' => some '\x08' | 't' => some '\t'
  | '\t' => some '\t' | 'n' => some '\n' | 'v' => some '\x0b' | 'f' => some '\x0c'
  | 'r' => some '\r' | 'e' => some '\x1b' | ' ' => some ' ' | '"' => some '"'
  | '/' => some '/' | '\\' => some '\\' | 'N' => some (Char.ofNat 0x85)
  | '_' => some (Char.ofNat 0xA0) | 'L' => some (Char.ofNat 0x2028) | 'P' => some (Char.ofNat 0x2029)
  | _ => none

/-- Whether the text at the current place is `---` or `...` at the start of a line, followed by
a blank, a line break or the end. -/
def atDocumentIndicator : Scan Bool := do
  let m ← mark
  if m.column != 0 then return false
  let a ← peekAt 0
  let b ← peekAt 1
  let c ← peekAt 2
  let d ← peekAt 3
  return ((a == '-' && b == '-' && c == '-') || (a == '.' && b == '.' && c == '.')) && isBlankZ d

/-- Reads a single- or double-quoted scalar. -/
def fetchQuotedScalar (single : Bool) : Scan Unit := do
  saveSimpleKey
  modify fun s => { s with simpleKeyAllowed := false }
  let start ← mark
  skip
  let quote := if single then '\'' else '"'
  let mut text := ""
  for _ in [0:(← fuel)] do
    if ← atDocumentIndicator then
      fail "while scanning a quoted scalar" start "found unexpected document indicator"
    if (← cur) == endChar then
      fail "while scanning a quoted scalar" start "found unexpected end of stream"
    let mut leadingBlanks := false
    for _ in [0:(← fuel)] do
      let c ← cur
      if isBlankZ c then break
      if single && c == '\'' && (← peekAt 1) == '\'' then
        text := text.push '\''
        skip; skip
      else if c == quote then break
      else if !single && c == '\\' && isBreak (← peekAt 1) then
        skip
        skipLine
        leadingBlanks := true
        break
      else if !single && c == '\\' then
        let e ← peekAt 1
        match simpleEscape e with
        | some ch =>
          text := text.push ch
          skip; skip
        | none =>
          let width := if e == 'x' then 2 else if e == 'u' then 4 else if e == 'U' then 8 else 0
          if width == 0 then
            fail "while parsing a quoted scalar" start "found unknown escape character"
          skip; skip
          let mut code := 0
          for _ in [0:width] do
            match hexValue (← cur) with
            | some v =>
              code := code * 16 + v
              skip
            | none => fail "while parsing a quoted scalar" start "did not find expected hexdecimal number"
          if (0xD800 ≤ code && code ≤ 0xDFFF) || code > 0x10FFFF then
            fail "while parsing a quoted scalar" start "found invalid Unicode character escape code"
          text := text.push (Char.ofNat code)
      else
        text := text.push c
        skip
    if (← cur) == quote then break
    let mut whitespace := ""
    let mut leadingBreak := ""
    let mut trailingBreaks := ""
    for _ in [0:(← fuel)] do
      let c ← cur
      if isBlank c then
        if !leadingBlanks then whitespace := whitespace.push c
        skip
      else if isBreak c then
        if !leadingBlanks then
          whitespace := ""
          leadingBreak := ← readLine
          leadingBlanks := true
        else trailingBreaks := trailingBreaks ++ (← readLine)
      else break
    if leadingBlanks then
      if leadingBreak.startsWith "\n" then
        text := text ++ (if trailingBreaks.isEmpty then " " else trailingBreaks)
      else text := text ++ leadingBreak ++ trailingBreaks
    else text := text ++ whitespace
  skip
  addToken (.scalar text (if single then .singleQuoted else .doubleQuoted)) start (← mark)

/-- Whether a character ends a plain scalar here: `:` before a blank, or a flow indicator in
flow context. -/
def endsPlain (c next : Char) (flowLevel : Nat) : Bool :=
  (c == ':' && isBlankZ next) ||
    (flowLevel > 0 && (c == ',' || c == '[' || c == ']' || c == '{' || c == '}'))

/-- Reads a plain scalar, which may run over several lines indented further than the current
block. -/
def fetchPlainScalar : Scan Unit := do
  saveSimpleKey
  modify fun s => { s with simpleKeyAllowed := false }
  let start ← mark
  let mut stop := start
  let indent := (← get).indent + 1
  let mut text := ""
  let mut leadingBlanks := false
  let mut whitespace := ""
  let mut leadingBreak := ""
  let mut trailingBreaks := ""
  for _ in [0:(← fuel)] do
    if ← atDocumentIndicator then break
    if (← cur) == '#' then break
    for _ in [0:(← fuel)] do
      let c ← cur
      if isBlankZ c then break
      if endsPlain c (← peekAt 1) (← get).flowLevel then break
      if leadingBlanks || !whitespace.isEmpty then
        if leadingBlanks then
          if leadingBreak.startsWith "\n" then
            text := text ++ (if trailingBreaks.isEmpty then " " else trailingBreaks)
          else text := text ++ leadingBreak ++ trailingBreaks
          trailingBreaks := ""
          leadingBreak := ""
          leadingBlanks := false
        else
          text := text ++ whitespace
          whitespace := ""
      text := text.push c
      skip
      stop ← mark
    let c ← cur
    if !(isBlank c || isBreak c) then break
    for _ in [0:(← fuel)] do
      let c ← cur
      if isBlank c then
        if leadingBlanks && (← mark).column < indent && c == '\t' then
          fail "while scanning a plain scalar" start "found a tab character that violates indentation"
        if !leadingBlanks then whitespace := whitespace.push c
        skip
      else if isBreak c then
        if !leadingBlanks then
          whitespace := ""
          leadingBreak := ← readLine
          leadingBlanks := true
        else trailingBreaks := trailingBreaks ++ (← readLine)
      else break
    if (← get).flowLevel == 0 && ((← mark).column : Int) < indent then break
  addToken (.scalar text .plain) start stop
  if leadingBlanks then modify fun s => { s with simpleKeyAllowed := true }

/-- Whether a character can start a plain scalar here. -/
def startsPlain (c next : Char) (flowLevel : Nat) : Bool :=
  let indicator := "-?:,[]{}#&*!|>'\"%@`".toList.contains c
  !(isBlankZ c || indicator) ||
    (c == '-' && !isBlank next) ||
    (flowLevel == 0 && (c == '?' || c == ':') && !isBlankZ next)

/-- Reads the next token, with the BLOCK-END tokens before it. -/
def fetchNextToken : Scan Unit := do
  if !(← get).streamStartProduced then
    fetchStreamStart
    return
  scanToNextToken
  staleSimpleKeys
  unrollIndent (← mark).column
  let c ← cur
  let next ← peekAt 1
  let s ← get
  if c == endChar then fetchStreamEnd
  else if s.mark.column == 0 && c == '%' then fetchDirective
  else if s.mark.column == 0 && c == '-' && next == '-' && (← peekAt 2) == '-' && isBlankZ (← peekAt 3) then
    fetchDocumentIndicator .documentStart
  else if s.mark.column == 0 && c == '.' && next == '.' && (← peekAt 2) == '.' && isBlankZ (← peekAt 3) then
    fetchDocumentIndicator .documentEnd
  else if c == '[' then fetchFlowCollectionStart .flowSequenceStart
  else if c == '{' then fetchFlowCollectionStart .flowMappingStart
  else if c == ']' then fetchFlowCollectionEnd .flowSequenceEnd
  else if c == '}' then fetchFlowCollectionEnd .flowMappingEnd
  else if c == ',' then fetchFlowEntry
  else if c == '-' && isBlankZ next then fetchBlockEntry
  else if c == '?' && (s.flowLevel > 0 || isBlankZ next) then fetchKey
  else if c == ':' && (s.flowLevel > 0 || isBlankZ next) then fetchValue
  else if c == '*' then fetchAnchor true
  else if c == '&' then fetchAnchor false
  else if c == '!' then fetchTag
  else if c == '|' && s.flowLevel == 0 then fetchBlockScalar true
  else if c == '>' && s.flowLevel == 0 then fetchBlockScalar false
  else if c == '\'' then fetchQuotedScalar true
  else if c == '"' then fetchQuotedScalar false
  else if startsPlain c next s.flowLevel then fetchPlainScalar
  else fail "while scanning for the next token" s.mark "found character that cannot start any token"

/-- Reads tokens up to the end of the stream. -/
def scanAll : Scan Unit := do
  for _ in [0:(← fuel) * 2] do
    if (← get).streamEndProduced then break
    fetchNextToken

end Scan

/-- Whether a character may appear in YAML text: tab, line breaks, printable ASCII, NEL and
the rest of Unicode except controls, surrogates and the two non-characters U+FFFE and U+FFFF. -/
def allowedChar (c : Char) : Bool :=
  let n := c.toNat
  n == 0x9 || n == 0xA || n == 0xD || (0x20 ≤ n && n ≤ 0x7E) || n == 0x85 ||
    (0xA0 ≤ n && n ≤ 0xD7FF) || (0xE000 ≤ n && n ≤ 0xFFFD) || 0x10000 ≤ n

/-- The tokens of a text, and the problem that stopped the scanner early if there was one, with
the number of tokens produced before it. A text with a character YAML does not allow is refused
as a whole. -/
def scan (text : String) : Except Problem (Array Token × Option ScanFailure) :=
  if !text.toList.all allowedChar then .error { problem := "control characters are not allowed" }
  else
    match Scan.scanAll.run { input := text.toList.toArray } with
    | .ok ((), s) => .ok (s.tokens, none)
    | .error f => .ok (f.tokens, some f)

end Yaml

end Mqtt
