import AnsiArt.Yaml.Token

/-!
# Documents of a settings file

The tokens of a text form one document: a scalar, a list or a map, or nothing, which counts as null.
`Node.ofTokens` builds the tree of a document.
-/

namespace AnsiArt.Yaml

/-- The tree of a document, in which plain scalars are not yet interpreted. -/
inductive Node
  | plain (text : List Char)
  | quoted (codes : List Nat)
  | list (items : List Node)
  | map (entries : List (Node × Node))

/-- Why tokens form no document: there are too few of them, or one stands at a wrong place. -/
inductive TokenMisfit
  | ended
  | misplaced

/-- What is wrong where other tokens are expected. -/
def TokenMisfit.ofRest : List Token → TokenMisfit
  | [] => .ended
  | _ => .misplaced

namespace Node

/-- What stands where nothing is written. -/
def nothing : Node := plain []

/-- What is to be read next. A **part** of a collection is what remains of it. -/
inductive Goal
  /-- One node; the flags allow block collections, and lists without an indentation of their own. -/
  | node (block indentless : Bool)
  | blockItems
  | indentlessItems
  | blockEntries
  | flowItems (first : Bool)
  | flowEntries (first : Bool)
  /-- The value of a key, which may be missing. -/
  | value (block : Bool)

/-- Whether an entry ends with the next token, so that what is expected there is missing. -/
def entryEnds (block : Bool) : List Token → Bool
  | t :: _ =>
    if block then t == .key || t == .value || t == .blockEnd
    else t == .flowEntry || t == .flowMappingEnd || t == .flowSequenceEnd
  | [] => true

/-- Drops the comma in front of an entry that is not the first. -/
def dropComma (first : Bool) : List Token → Except TokenMisfit (List Token)
  | .flowEntry :: rest => if first then .error .misplaced else .ok rest
  | rest => if first then .ok rest else .error (.ofRest rest)

/-- Reads tokens towards a goal. The result holds the nodes that were read, keys and values of a map
in turns, and the remaining tokens. -/
def parse : Goal → List Token → Nat → Except TokenMisfit (List Node × List Token)
  | _, _, 0 => .error .misplaced
  | goal, tokens, fuel + 1 =>
    let one (goal : Goal) (tokens : List Token) : Except TokenMisfit (Node × List Token) := do
      match ← parse goal tokens fuel with
      | ([n], rest) => return (n, rest)
      | _ => throw .misplaced
    let then_ (front : List Node) (goal : Goal) (tokens : List Token) := do
      let (more, rest) ← parse goal tokens fuel
      return (front ++ more, rest)
    let allow (b : Bool) : Except TokenMisfit Unit := if b then .ok () else .error .misplaced
    match goal with
    | .node block indentless =>
      match tokens with
      | .blockEntry :: _ => do
        allow indentless
        let (items, rest) ← parse .indentlessItems tokens fuel
        return ([list items], rest)
      | .plain text :: rest => .ok ([plain text], rest)
      | .quoted codes :: rest => .ok ([quoted codes], rest)
      | .flowSequence :: rest => do
        let (items, rest) ← parse (.flowItems true) rest fuel
        return ([list items], rest)
      | .flowMapping :: rest => do
        let (nodes, rest) ← parse (.flowEntries true) rest fuel
        return ([map (pairs nodes)], rest)
      | .blockSequence :: rest => do
        allow block
        let (items, rest) ← parse .blockItems rest fuel
        return ([list items], rest)
      | .blockMapping :: rest => do
        allow block
        let (nodes, rest) ← parse .blockEntries rest fuel
        return ([map (pairs nodes)], rest)
      | rest => .error (.ofRest rest)
    | .blockItems =>
      match tokens with
      | .blockEntry :: .blockEntry :: rest => then_ [nothing] .blockItems (.blockEntry :: rest)
      | .blockEntry :: .blockEnd :: rest => then_ [nothing] .blockItems (.blockEnd :: rest)
      | .blockEntry :: rest => do
        let (item, rest) ← one (.node true false) rest
        then_ [item] .blockItems rest
      | .blockEnd :: rest => .ok ([], rest)
      | rest => .error (.ofRest rest)
    | .indentlessItems =>
      match tokens with
      | .blockEntry :: rest =>
        match rest with
        | .blockEntry :: _ => then_ [nothing] .indentlessItems rest
        | _ =>
          if entryEnds true rest then then_ [nothing] .indentlessItems rest
          else do
            let (item, rest) ← one (.node true false) rest
            then_ [item] .indentlessItems rest
      | rest => .ok ([], rest)
    | .blockEntries =>
      match tokens with
      | .key :: rest => do
        let (k, rest) ← if entryEnds true rest then .ok (nothing, rest)
          else one (.node true true) rest
        let (v, rest) ← one (.value true) rest
        then_ [k, v] .blockEntries rest
      | .blockEnd :: rest => .ok ([], rest)
      | rest => .error (.ofRest rest)
    | .flowItems first =>
      match tokens with
      | .flowSequenceEnd :: rest => .ok ([], rest)
      | _ => do
        match ← dropComma first tokens with
        | .flowSequenceEnd :: rest => return ([], rest)
        | .key :: rest =>
          -- A key inside a list makes a map of one entry.
          let (k, rest) ← if entryEnds false rest || rest.head? == some .value then
              .ok (nothing, rest)
            else one (.node false false) rest
          let (v, rest) ← one (.value false) rest
          then_ [map [(k, v)]] (.flowItems false) rest
        | rest =>
          let (item, rest) ← one (.node false false) rest
          then_ [item] (.flowItems false) rest
    | .flowEntries first =>
      match tokens with
      | .flowMappingEnd :: rest => .ok ([], rest)
      | _ => do
        match ← dropComma first tokens with
        | .flowMappingEnd :: rest => return ([], rest)
        | .key :: rest =>
          let (k, rest) ← if entryEnds false rest || rest.head? == some .value then
              .ok (nothing, rest)
            else one (.node false false) rest
          let (v, rest) ← one (.value false) rest
          then_ [k, v] (.flowEntries false) rest
        | rest =>
          let (k, rest) ← one (.node false false) rest
          then_ [k, nothing] (.flowEntries false) rest
    | .value block =>
      match tokens with
      | .value :: rest => if entryEnds block rest then .ok ([nothing], rest)
        else parse (.node block block) rest fuel
      | rest => .ok ([nothing], rest)
where
  /-- The entries of a list of keys and values in turns. -/
  pairs : List Node → List (Node × Node)
    | k :: v :: rest => (k, v) :: pairs rest
    | _ => []

/-- Drops the marks in front of the document and tells whether the document may be left out. -/
def openDocument : List Token → List Token × Bool
  | .documentStart :: rest => (rest, true)
  | tokens => (tokens, false)

/-- Whether nothing but ends of the document remains. -/
def onlyEnds (tokens : List Token) : Bool := tokens.all (· == .documentEnd)

/-- The tree of the only document of a text. -/
def ofTokens (tokens : List Token) : Except TokenMisfit Node := do
  if tokens.isEmpty then return nothing
  let (tokens, explicit) := openDocument tokens
  if explicit && onlyEnds tokens then return nothing
  match ← parse (.node true false) tokens (4 * tokens.length + 4) with
  | ([n], rest) => if onlyEnds rest then return n else throw .misplaced
  | _ => throw .misplaced

end Node

end AnsiArt.Yaml
