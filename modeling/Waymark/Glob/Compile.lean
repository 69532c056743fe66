import Waymark.Glob.Basic

/-! What globs may take to be matched together. A glob that is a text with one star at one end is compared as a
text. All others are compiled as patterns, and a set of them is refused where one is nested too deeply or where
the states of the patterns take too much memory.
-/

set_option autoImplicit false

namespace Waymark.Glob

def Token.isLiteral : Token → Bool
  | .literal _ => true
  | _ => false

/-- Whether a glob is a text but for a star or a double star at one end. -/
def isPlain (glob : Glob) : Bool :=
  let behind :=
    match glob.tokens with
    | .leading :: .run :: rest => rest
    | .leading :: rest => rest
    | .run :: rest => rest
    | tokens => tokens
  let before :=
    match glob.tokens.reverse with
    | .run :: rest => rest
    | .trailing :: rest => rest
    | tokens => tokens
  [behind, before].any fun text => !text.isEmpty && text.all (·.isLiteral)

/-- Whether a glob ends in a point and literals. These are compiled one by one. -/
def hasExtension (glob : Glob) : Bool :=
  let isInner : Token → Bool
    | .literal c => c != '.' && c != '/'
    | _ => false
  match glob.tokens.reverse.dropWhile isInner with
  | .literal '.' :: _ => true
  | _ => false

/-! Nesting -/

/-- The pieces that a token has in its pattern, one for each byte of a character. -/
def Token.pieces : Token → Nat
  | .literal c => (String.utf8EncodeChar c).length
  | .trailing => 2
  | .alternatives branches => if areSilent branches then 0 else 1
  | _ => 1

def pieces (tokens : List Token) : Nat := tokens.foldl (fun count token => count + token.pieces) 0

def spoken (branches : List (List Token)) : Nat := branches.countP (!isSilentSequence ·)

mutual

/-- How deep the pattern of a token goes; a group, a choice, a sequence and a repetition are a level each. -/
def Token.nesting : Token → Nat
  | .literal _ | .any => 0
  | .run | .trailing => 1
  | .leading | .between => 4
  | .oneOf _ ranges => if ranges.length = 1 then 1 else 2
  | .alternatives branches =>
    if areSilent branches then 0
    else branchNesting branches 0 + if spoken branches = 1 then 1 else 2

def sequenceNesting : List Token → Nat → Nat
  | [], deepest => deepest
  | token :: tokens, deepest => sequenceNesting tokens (max deepest token.nesting)

def branchNesting : List (List Token) → Nat → Nat
  | [], deepest => deepest
  | branch :: branches, deepest =>
    branchNesting branches
      (max deepest (sequenceNesting branch 0 + if pieces branch ≤ 1 then 0 else 1))

end

/-- A whole pattern is a sequence between its start and its end. -/
def nesting (glob : Glob) : Nat := sequenceNesting glob.tokens 0 + 1

def maxNesting : Nat := 250

/-! Memory -/

mutual

def Token.states : Token → Nat
  | .literal c => (String.utf8EncodeChar c).length
  | .any | .oneOf .. => 1
  | .run => 2
  | .trailing => 3
  | .between => 7
  | .leading => 8
  | .alternatives branches => branchStates branches 2

def sequenceStates : List Token → Nat → Nat
  | [], count => count
  | token :: tokens, count => sequenceStates tokens (count + token.states)

def branchStates : List (List Token) → Nat → Nat
  | [], count => count
  | branch :: branches, count => branchStates branches (sequenceStates branch count)

end

/-- Bytes of a state, without the lists that some states hold. -/
def stateSize : Nat := 32

/-- A pattern has five states besides those of its tokens: its start and end, those of its match and the match
itself. -/
def memory (glob : Glob) : Nat := stateSize * sequenceStates glob.tokens 5

def maxMemory : Nat := 10 * 1024 * 1024

def canCompile (globs : List Glob) : Bool :=
  let patterns := globs.filter (!·.isPlain)
  patterns.all (fun glob => decide (glob.nesting ≤ maxNesting)) &&
    (patterns.filter (·.hasExtension)).all (fun glob => decide (glob.memory ≤ maxMemory)) &&
    decide (((patterns.filter (!·.hasExtension)).map memory).foldr (· + ·) 0 ≤ maxMemory)

end Waymark.Glob
