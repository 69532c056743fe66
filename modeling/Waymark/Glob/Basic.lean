/-! Globs over the bytes of a path. A star and a question mark take any bytes, the slash included; a
double star is special only where it fills a whole segment.
-/

set_option autoImplicit false

namespace Waymark

namespace Glob

inductive Token where
  | literal (c : Char)
  /-- Any one byte. -/
  | any
  /-- Any bytes. -/
  | run
  /-- Any segments at the start, or none. -/
  | leading
  /-- Any segments at the end. -/
  | trailing
  /-- A slash, or any segments between two slashes. -/
  | between
  | oneOf (negated : Bool) (ranges : List (Char × Char))
  | alternatives (branches : List (List Token))

end Glob

structure Glob where
  tokens : List Glob.Token

namespace Glob

abbrev Bytes := List UInt8

def slash : UInt8 := 47

/-- All ends of a text, the longest first. -/
def ends : Bytes → List Bytes
  | [] => [[]]
  | b :: rest => (b :: rest) :: ends rest

def afterSlashes : Bytes → List Bytes
  | [] => []
  | b :: rest => if b = slash then rest :: afterSlashes rest else afterSlashes rest

/-- The ranges of bytes that a range of characters stands for. Only its ends count, and they count
byte by byte. -/
def byteRanges (range : Char × Char) : List (UInt8 × UInt8) :=
  let single (b : UInt8) := (b, b)
  let low := String.utf8EncodeChar range.1
  let high := String.utf8EncodeChar range.2
  if range.1 = range.2 then low.map single
  else low.dropLast.map single ++ [(low.getLastD 0, high.headD 0)] ++ (high.drop 1).map single

def inRanges (ranges : List (Char × Char)) (b : UInt8) : Bool :=
  (ranges.flatMap byteRanges).any fun range => range.1 ≤ b && b ≤ range.2

/-- What follows a slash at the start of a text, cut in the given ways. -/
def afterSlash (cut : Bytes → List Bytes) : Bytes → List Bytes
  | [] => []
  | b :: rest => if b = slash then cut rest else []

mutual

/-- Whether a token stands for nothing: a group without a branch that says something. -/
def Token.isSilent : Token → Bool
  | .alternatives branches => areSilent branches
  | _ => false

def isSilentSequence : List Token → Bool
  | [] => true
  | token :: tokens => token.isSilent && isSilentSequence tokens

def areSilent : List (List Token) → Bool
  | [] => true
  | branch :: branches => isSilentSequence branch && areSilent branches

end

mutual

def Token.rests : Token → Bytes → List Bytes
  | .literal c, text => ((String.utf8EncodeChar c).isPrefixOf? text).toList
  | .any, text => (text.tail?).toList
  | .run, text => ends text
  | .leading, text => text :: afterSlashes text
  | .trailing, text => afterSlash ends text
  | .between, text => afterSlash (fun rest => rest :: afterSlashes rest) text
  | .oneOf negated ranges, text =>
    match text with
    | [] => []
    | b :: rest => if inRanges ranges b != negated then [rest] else []
  | .alternatives branches, text =>
    if areSilent branches then [text] else branchRests branches text

def sequenceRests : List Token → Bytes → List Bytes
  | [], text => [text]
  | token :: tokens, text => ((token.rests text).flatMap (sequenceRests tokens)).eraseDups

/-- What may be left of a text after one branch; a branch that stands for nothing does not count. -/
def branchRests : List (List Token) → Bytes → List Bytes
  | [], _ => []
  | branch :: branches, text =>
    (if isSilentSequence branch then [] else sequenceRests branch text) ++
      branchRests branches text

end

/-- Whether the glob is a double star alone, which takes every text. -/
def takesAll (glob : Glob) : Bool :=
  match glob.tokens with
  | [.leading] => true
  | _ => false

def isMatch (glob : Glob) (text : String) : Bool :=
  glob.takesAll || (sequenceRests glob.tokens text.toUTF8.toList).contains []

end Glob

end Waymark
