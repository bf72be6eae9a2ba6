import Mqtt.Yaml.Scanner
import Mqtt.Yaml.Resolve
/-! # Reading YAML: documents

The parser reads the first document of a token stream into a tree of nodes: scalars,
sequences and mappings, each with its tag and the line it starts on. Aliases stand for a copy of
the node their anchor names. A block mapping holds pairs `KEY node VALUE node`, a block
sequence entries `- node`; a sequence may also sit without indentation under a mapping key.
Flow collections are delimited by brackets and separated by commas, and a flow sequence entry
`a: b` is a mapping of one pair. Missing keys and values are empty scalars, which read as null.

The parser asks the scanner for tokens ahead of the one it reads: a problem the scanner meets
within the next three tokens, or while a simple key is still undecided, stops the parser first.

A problem is reported as `yaml: line N: problem`. For problems of the scanner, N counts lines
from one, at the construct being read or else at the problem; for problems of the parser the
same places are counted from zero. The line is left out when it would be zero.
-/

namespace Mqtt

namespace Yaml

/-- A node of a document: its content, its tag written short, and its line counted from one. -/
inductive Node where
  | scalar (text : String) (tag : String) (style : ScalarStyle) (line : Nat)
  | sequence (items : List Node) (tag : String) (line : Nat)
  | mapping (pairs : List (Node × Node)) (tag : String) (line : Nat)
  deriving Repr, Inhabited

namespace Node

/-- The line a node starts on, counted from one. -/
def line : Node → Nat
  | scalar _ _ _ l | sequence _ _ l | mapping _ _ l => l

/-- The tag of a node. -/
def tag : Node → String
  | scalar _ t _ _ | sequence _ t _ | mapping _ t _ => t

/-- The text of a scalar; empty for a collection. -/
def text : Node → String
  | scalar s _ _ _ => s
  | _ => ""

end Node

/-- A problem of reading YAML. -/
inductive YamlError where
  | scanner (p : Problem)
  | parser (p : Problem)
  /-- A problem found after the text was read, such as an unknown anchor. -/
  | other (text : String)
  deriving Repr, Inhabited

/-- The text of a problem, starting `yaml: `. -/
def YamlError.message : YamlError → String
  | .other t => "yaml: " ++ t
  | .scanner p => "yaml: " ++ lineOf p true ++ p.problem
  | .parser p => "yaml: " ++ lineOf p false ++ p.problem
where
  lineOf (p : Problem) (fromOne : Bool) : String :=
    let l := if p.contextMark.line != 0 then p.contextMark.line
      else if p.problemMark.line != 0 then p.problemMark.line else 0
    if l == 0 then "" else s!"line {if fromOne then l + 1 else l}: "

/-- What the parser reads: the tokens and the problem that stopped the scanner, if any. -/
structure TokenSource where
  tokens : Array Token
  failure : Option ScanFailure

/-- The state of the parser: the next token and the anchors seen. -/
structure ParseState where
  pos : Nat := 0
  anchors : List (String × Node) := []

/-- Parsing: a step that reads tokens and may fail. -/
abbrev Parse := ReaderT TokenSource (StateT ParseState (Except YamlError))

namespace Parse

/-- The next token. When the scanner stopped within the tokens the parser looks ahead to, its
problem stops the parser. -/
def peek : Parse Token := do
  let src ← read
  let i := (← get).pos
  if let some f := src.failure then
    if src.tokens.size < i + 3 then throw (.scanner f.problem)
  match src.tokens[i]? with
  | some t => return t
  | none => return src.tokens.back?.getD { kind := .streamEnd, start := {}, stop := {} }

/-- Moves to the token after the next. -/
def advance : Parse Unit := modify fun s => { s with pos := s.pos + 1 }

/-- Fails with a problem of the parser. -/
def fail {α : Type} (context : String) (contextMark : Mark) (problem : String) (at' : Mark) : Parse α :=
  throw (.parser { context, contextMark, problem, problemMark := at' })

/-- An empty scalar at a place. -/
def emptyScalar (m : Mark) : Node := .scalar "" "!!null" .plain (m.line + 1)

/-- The full tag of a tag token: the standard handle `!!` stands for the standard prefix, the
primary handle `!` for itself, and a verbatim tag has no handle; other handles are not defined. -/
def tagText (handle suffix : String) : Option String :=
  if handle == "!!" then some (standardTagPrefix ++ suffix)
  else if handle == "!" then some ("!" ++ suffix)
  else if handle == "" then some suffix
  else none

/-- The node of a scalar token: an explicit tag written short, else `!!str` for a quoted or
block scalar, `!!merge` for a plain `<<`, else the tag its plain reading gives. -/
def scalarNode (text : String) (style : ScalarStyle) (tag : String) (m : Mark) : Node :=
  let t := if tag != "" && tag != "!" then shortTag tag
    else if style != .plain then "!!str"
    else if text == "<<" then "!!merge"
    else (resolvePlain text).1
  .scalar text t style (m.line + 1)

/-- The tag of a collection: an explicit tag written short, else the given one. -/
def collectionTag (tag standard : String) : String :=
  if tag != "" && tag != "!" then shortTag tag else standard

/-- Remembers a node under its anchor. -/
def remember (anchor : Option String) (n : Node) : Parse Node := do
  if let some a := anchor then
    modify fun s => { s with anchors := (a, n) :: s.anchors }
  return n

/-- Whether a token is of one of the kinds that end an entry in block context. -/
def endsBlockEntry (k : TokenKind) (withKeys : Bool) : Bool :=
  k == .blockEntry || k == .blockEnd || (withKeys && (k == .key || k == .value))

/-- Reads a node; `block` says whether block collections may start here and `indentless`
whether a sequence without indentation may. `fuel` bounds the nesting. -/
def node : Nat → Bool → Bool → Parse Node
  | 0, _, _ => throw (.other "document nested too deeply")
  | fuel + 1, block, indentless => do
    let t ← peek
    if let .alias name := t.kind then
      advance
      match (← get).anchors.lookup name with
      | some n => return n
      | none => throw (.other s!"unknown anchor '{name}' referenced")
    let start := t.start
    let mut anchor : Option String := none
    let mut tagged : Option (String × String × Mark) := none
    match t.kind with
    | .anchor a =>
      anchor := some a
      advance
      let t2 ← peek
      if let .tag h s := t2.kind then
        tagged := some (h, s, t2.start)
        advance
    | .tag h s =>
      tagged := some (h, s, t.start)
      advance
      if let .anchor a := (← peek).kind then
        anchor := some a
        advance
    | _ => pure ()
    let tag ← match tagged with
      | none => pure ""
      | some (h, s, m) => match tagText h s with
        | some full => pure full
        | none => fail "while parsing a node" start "found undefined tag handle" m
    let t ← peek
    if indentless && t.kind == .blockEntry then
      let items ← indentlessSequence fuel
      return ← remember anchor (.sequence items (collectionTag tag "!!seq") (start.line + 1))
    match t.kind with
    | .scalar text style =>
      advance
      remember anchor (scalarNode text style tag start)
    | .flowSequenceStart =>
      advance
      let items ← flowSequence fuel t.start
      remember anchor (.sequence items (collectionTag tag "!!seq") (start.line + 1))
    | .flowMappingStart =>
      advance
      let pairs ← flowMapping fuel t.start
      remember anchor (.mapping pairs (collectionTag tag "!!map") (start.line + 1))
    | .blockSequenceStart =>
      if block then
        advance
        let items ← blockSequence fuel t.start
        remember anchor (.sequence items (collectionTag tag "!!seq") (start.line + 1))
      else emptyOrFail block anchor tag start t
    | .blockMappingStart =>
      if block then
        advance
        let pairs ← blockMapping fuel t.start
        remember anchor (.mapping pairs (collectionTag tag "!!map") (start.line + 1))
      else emptyOrFail block anchor tag start t
    | _ => emptyOrFail block anchor tag start t
where
  /-- A node with an anchor or a tag and no content is an empty scalar; without either, the
  content is missing. -/
  emptyOrFail (block : Bool) (anchor : Option String) (tag : String) (start : Mark) (t : Token) : Parse Node :=
    if anchor.isSome || !tag.isEmpty then remember anchor (scalarNode "" .plain tag start)
    else fail (if block then "while parsing a block node" else "while parsing a flow node") start
      "did not find expected node content" t.start
  /-- The entries of a block sequence, after its start. -/
  blockSequence (fuel : Nat) (start : Mark) : Parse (List Node) := do
    let mut items : List Node := []
    for _ in [0:(← read).tokens.size + 1] do
      let t ← peek
      if t.kind == .blockEntry then
        advance
        let t2 ← peek
        if t2.kind == .blockEntry || t2.kind == .blockEnd then items := items ++ [emptyScalar t.stop]
        else items := items ++ [← node fuel true false]
      else if t.kind == .blockEnd then
        advance
        return items
      else fail "while parsing a block collection" start "did not find expected '-' indicator" t.start
    return items
  /-- The entries of a sequence without indentation under a mapping key. -/
  indentlessSequence (fuel : Nat) : Parse (List Node) := do
    let mut items : List Node := []
    for _ in [0:(← read).tokens.size + 1] do
      let t ← peek
      if t.kind != .blockEntry then return items
      advance
      let t2 ← peek
      if t2.kind == .blockEntry || t2.kind == .key || t2.kind == .value || t2.kind == .blockEnd then
        items := items ++ [emptyScalar t.stop]
      else items := items ++ [← node fuel true false]
    return items
  /-- The pairs of a block mapping, after its start. -/
  blockMapping (fuel : Nat) (start : Mark) : Parse (List (Node × Node)) := do
    let mut pairs : List (Node × Node) := []
    for _ in [0:(← read).tokens.size + 1] do
      let t ← peek
      if t.kind == .key then
        advance
        let t2 ← peek
        let k ← if t2.kind == .key || t2.kind == .value || t2.kind == .blockEnd then
            pure (emptyScalar t2.start) else node fuel true true
        let t3 ← peek
        let v ← if t3.kind == .value then do
            advance
            let t4 ← peek
            if t4.kind == .key || t4.kind == .value || t4.kind == .blockEnd then
              pure (emptyScalar t4.start)
            else node fuel true true
          else pure (emptyScalar t3.start)
        pairs := pairs ++ [(k, v)]
      else if t.kind == .blockEnd then
        advance
        return pairs
      else fail "while parsing a block mapping" start "did not find expected key" t.start
    return pairs
  /-- The entries of a flow sequence, after `[`; an entry `k: v` is a mapping of one pair. -/
  flowSequence (fuel : Nat) (start : Mark) : Parse (List Node) := do
    let mut items : List Node := []
    let mut first := true
    for _ in [0:(← read).tokens.size + 1] do
      let mut t ← peek
      if t.kind == .flowSequenceEnd then
        advance
        return items
      if !first then
        if t.kind == .flowEntry then
          advance
          t ← peek
        else fail "while parsing a flow sequence" start "did not find expected ',' or ']'" t.start
      first := false
      if t.kind == .key then
        advance
        let t2 ← peek
        let k ← if t2.kind == .value || t2.kind == .flowEntry || t2.kind == .flowSequenceEnd then do
            advance
            pure (emptyScalar t2.stop)
          else node fuel false false
        let t3 ← peek
        let v ← if t3.kind == .value then do
            advance
            let t4 ← peek
            if t4.kind == .flowEntry || t4.kind == .flowSequenceEnd then pure (emptyScalar t4.start)
            else node fuel false false
          else pure (emptyScalar t3.start)
        items := items ++ [.mapping [(k, v)] "!!map" (t.start.line + 1)]
      else if t.kind != .flowSequenceEnd then
        items := items ++ [← node fuel false false]
    return items
  /-- The pairs of a flow mapping, after `{`. -/
  flowMapping (fuel : Nat) (start : Mark) : Parse (List (Node × Node)) := do
    let mut pairs : List (Node × Node) := []
    let mut first := true
    for _ in [0:(← read).tokens.size + 1] do
      let mut t ← peek
      if t.kind == .flowMappingEnd then
        advance
        return pairs
      if !first then
        if t.kind == .flowEntry then
          advance
          t ← peek
        else fail "while parsing a flow mapping" start "did not find expected ',' or '\x7d'" t.start
      first := false
      if t.kind == .key then
        advance
        let t2 ← peek
        let k ← if t2.kind == .value || t2.kind == .flowEntry || t2.kind == .flowMappingEnd then
            pure (emptyScalar t2.start) else node fuel false false
        let t3 ← peek
        let v ← if t3.kind == .value then do
            advance
            let t4 ← peek
            if t4.kind == .flowEntry || t4.kind == .flowMappingEnd then pure (emptyScalar t4.start)
            else node fuel false false
          else pure (emptyScalar t3.start)
        pairs := pairs ++ [(k, v)]
      else if t.kind != .flowMappingEnd then
        let k ← node fuel false false
        pairs := pairs ++ [(k, emptyScalar (← peek).start)]
    return pairs

/-- Reads the first document: its root node, or none for an empty stream. -/
def document : Parse (Option Node) := do
  let t0 ← peek
  if t0.kind == .streamStart then advance
  let mut t ← peek
  if t.kind == .streamEnd then return none
  let fuel := (← read).tokens.size + 2
  let explicit := t.kind == .directive || t.kind == .documentStart
  if t.kind == .directive then
    for _ in [0:(← read).tokens.size + 1] do
      if (← peek).kind == .directive then advance else break
    t ← peek
    if t.kind != .documentStart then
      throw (.parser { problem := "did not find expected <document start>", problemMark := t.start })
  let root ← if explicit || t.kind == .documentStart then do
      advance
      let t2 ← peek
      if t2.kind == .directive || t2.kind == .documentStart || t2.kind == .documentEnd ||
          t2.kind == .streamEnd then pure (emptyScalar t2.start)
      else node fuel true false
    else node fuel true false
  let _ ← peek
  return some root

end Parse

/-- Reads the first document of a YAML text. -/
def parseDocument (text : String) : Except YamlError (Option Node) :=
  match scan text with
  | .error p => .error (.other p.problem)
  | .ok (tokens, failure) =>
    match (Parse.document.run { tokens, failure }).run {} with
    | .ok (n, _) => .ok n
    | .error e => .error e

end Yaml

end Mqtt
