import SourceSurvey.Expression.Parser

/-!
# Literals

An expression is a literal if it stands for a value by itself: a number with or without a sign, a
quoted text, a constant, or a tuple, set or dictionary of literals.

* `textComplaint`: the contents of quoted texts;
* `evaluate`: what kind of value an expression is, as far as it is a literal;
* `check`: whether a text is a literal.
-/

namespace SourceSurvey.Expression

/-- The number of hexadecimal digits behind the letter of an escape, and the complaint when they are
not there. -/
def escapeDigits : Char → Option (Nat × String)
  | 'x' => some (2, "truncated \\xXX escape")
  | 'u' => some (4, "truncated \\uXXXX escape")
  | 'U' => some (8, "truncated \\UXXXXXXXX escape")
  | _ => none

/-- The value of a hexadecimal digit. -/
def hexValue (c : Char) : Nat :=
  if c.isDigit then c.toNat - '0'.toNat else c.toLower.toNat - 'a'.toNat + 10

/-- The first escape in the contents of a text that cannot be read.  A character outside ASCII
counts as ten bytes, and a backslash in front of one as six. -/
def escapeComplaint (position : Nat) : List Char → Option Complaint
  | [] => none
  | '\\' :: c :: cs =>
    match escapeDigits c with
    | some (count, what) =>
      let digits := (cs.take count).takeWhile isHexDigit
      let last := position + 1 + digits.length
      if digits.length < count then some (.badEscape position last what)
      else if 0x10FFFF < digits.foldl (fun n d => 16 * n + hexValue d) 0 then
        some (.badEscape position last "illegal Unicode character")
      else escapeComplaint (position + 2) cs
    | none =>
      if 128 ≤ c.toNat then escapeComplaint (position + 16) cs
      else if c = 'N' && cs.head? ≠ some '\x7b' then
        some (.badEscape position (position + 1) "malformed \\N character escape")
      else escapeComplaint (position + 2) cs
  | c :: cs => escapeComplaint (position + if 128 ≤ c.toNat then 10 else 1) cs

/-- The first escape in the contents of a text of bytes that cannot be read. -/
def byteEscapeComplaint (position : Nat) : List Char → Option Complaint
  | [] => none
  | '\\' :: 'x' :: cs =>
    if (cs.take 2).length = 2 && (cs.take 2).all isHexDigit
      then byteEscapeComplaint (position + 2) cs
    else some (.badByteEscape position)
  | '\\' :: _ :: cs => byteEscapeComplaint (position + 2) cs
  | _ :: cs => byteEscapeComplaint (position + 1) cs

/-- The letters in front of a quoted text, in small letters. -/
def marks (token : Token) : List Char := (token.chars.takeWhile Char.isAlpha).map Char.toLower

/-- The contents of a quoted text. -/
def contents (token : Token) : List Char :=
  match token.chars.dropWhile Char.isAlpha with
  | a :: b :: c :: rest =>
    let size := if a = b && b = c then 3 else 1
    (((a :: b :: c :: rest).drop size).reverse.drop size).reverse
  | _ => []

/-- What is wrong with one quoted text. -/
def tokenComplaint (token : Token) : Option Complaint :=
  let letters := marks token
  let body := contents token
  if letters.contains 'b' then
    if body.any (128 ≤ ·.toNat) then some .byteNotAscii
    else if letters.contains 'r' then none
    else byteEscapeComplaint 0 body
  else if letters.contains 'r' || letters.contains 'f' then none
  else escapeComplaint 0 body

/-- What is wrong with quoted texts one behind the other, given whether the first is one of
bytes. -/
def tokensComplaint (bytes : Option Bool) : List Token → Option Complaint
  | [] => none
  | token :: rest =>
    let own := (marks token).contains 'b'
    match tokenComplaint token with
    | some complaint => some complaint
    | none =>
      if bytes.any (· != own) then some .mixedTexts else tokensComplaint (some own) rest

/-- What is wrong with quoted texts one behind the other. -/
def textComplaint (trees : List Tree) : Option Complaint :=
  tokensComplaint none (trees.filterMap fun
    | .leaf token => some token
    | .node _ _ => none)

/-- Kinds of values. -/
inductive Literal where
  | constant
  | tuple (members : List Literal)
  | set
  | dictionary

/-- Why a text is no literal. -/
inductive Flaw where
  /-- It is no expression. -/
  | complaint (why : Complaint)
  /-- A member of a set or a key of a dictionary is of a kind that cannot be one. -/
  | unhashable (kind : String)
  /-- It is an expression, but not a value; the line is missing for a part without a place. -/
  | notValue (line : Option Nat)
  deriving DecidableEq

/-- The wording of a flaw. -/
def Flaw.message : Flaw → String
  | .complaint why => why.message
  | .unhashable kind => s!"unhashable type: '{kind}'"
  | .notValue (some line) => s!"malformed node or string on line {line}"
  | .notValue none => "malformed node or string: None"

/-- Refuses a value that cannot be a member of a set. -/
def Literal.hashable : Literal → Except Flaw Unit
  | .constant => .ok ()
  | .set => .error (.unhashable "set")
  | .dictionary => .error (.unhashable "dict")
  | .tuple members => members.attach.forM fun ⟨member, _⟩ => member.hashable

/-- The line of the first token of a tree. -/
def Tree.line : Tree → Nat
  | .leaf token => token.line
  | .node _ [] => 1
  | .node _ (first :: _) => first.line

/-- Whether a tree is a number, which is imaginary or not. -/
def isNumber (imaginary : Bool) (tree : Tree) : Bool :=
  match tree.ungrouped with
  | .leaf token =>
    token.kind = .number && (token.chars.getLast?.any fun c => c = 'j' || c = 'J') == imaginary
  | .node _ _ => false

/-- Whether a tree is a number with or without a sign, which is not imaginary. -/
def isSignedReal (tree : Tree) : Bool :=
  isNumber false tree ||
    match tree.ungrouped with
    | .node .factor [sign, number] => !sign.isWord "~" && isNumber false number
    | _ => false

/-- The value of a token. -/
def evaluateToken (token : Token) : Except Flaw Literal :=
  match token.kind with
  | .number => .ok .constant
  | .text => if Tree.hasFields token then .error (.notValue (some token.line)) else .ok .constant
  | .sign => .ok .constant
  | _ =>
    if ["True", "False", "None"].contains token.spelling then .ok .constant
    else .error (.notValue (some token.line))

/-- Whether a tree is a bracket or a comma. -/
def isPunctuation (tree : Tree) : Bool := ["(", ")", "\x7b", "\x7d", ","].any tree.isWord

/-- The value that an expression is.  A pair of a dictionary counts as its key. -/
def evaluate (tree : Tree) : Except Flaw Literal :=
  let refuse : Except Flaw Literal := .error (.notValue (some tree.line))
  match tree with
  | .leaf token => evaluateToken token
  | .node r members =>
    match r with
    | .group =>
      match members with
      | [_, inner, _] => evaluate inner
      | _ => refuse
    | .texts =>
      if members.any fun
        | .leaf token => Tree.hasFields token
        | .node _ _ => false
      then refuse else .ok .constant
    | .tuple | .expressions => do
      let inner := members.attach.filter fun ⟨member, _⟩ => !isPunctuation member
      return .tuple (← inner.mapM fun ⟨member, _⟩ => evaluate member)
    | .set => do
      let inner := members.attach.filter fun ⟨member, _⟩ => !isPunctuation member
      inner.forM fun ⟨member, _⟩ => do (← evaluate member).hashable
      return .set
    | .dictionary => do
      let inner := members.attach.filter fun ⟨member, _⟩ => !isPunctuation member
      inner.forM fun ⟨member, _⟩ => do let _ ← evaluate member
      return .dictionary
    | .pair =>
      match members with
      | [key, _, value] => do
        let key ← evaluate key
        let _ ← evaluate value
        key.hashable
        return key
      | _ => refuse
    | .starPair => .error (.notValue none)
    | .primary =>
      match members with
      | [callee, opening, closing] =>
        if callee.isWord "set" && opening.isWord "(" && closing.isWord ")" then .ok .set else refuse
      | _ => refuse
    | .factor =>
      match members with
      | [sign, number] =>
        if !sign.isWord "~" && (isNumber false number || isNumber true number) then .ok .constant
        else refuse
      | _ => refuse
    | .sum =>
      match members with
      | [left, _, right] =>
        if isSignedReal left && isNumber true right then .ok .constant else refuse
      | _ => refuse
    | _ => refuse

/-- Checks that a text is a literal. -/
def check (text : List Char) : Except Flaw Unit := do
  match read textComplaint (text.dropWhile fun c => c = ' ' || c = '\t') with
  | .error why => throw (.complaint why)
  | .ok tree => let _ ← evaluate tree

end SourceSurvey.Expression
