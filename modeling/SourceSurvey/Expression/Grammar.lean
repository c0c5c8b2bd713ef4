import SourceSurvey.Expression.Token

/-!
# The grammar of expressions

Expressions are described by rules with ordered choice: of several parts the first that fits is
taken, and nothing comes back to the others.  Some parts fit only texts that are no expressions;
they are there to say what is wrong, and count only when a text is read a second time.  The texts
stand inside tags, which hold no square brackets, so there are no lists, indices or slices.

* `Rule`, `Tree`, `Form`;
* `definition`: the part that a rule stands for.
-/

namespace SourceSurvey.Expression

/-- The rules of the grammar. -/
inductive Rule where
  | start
  | expressions
  | expression
  | plainExpression
  | looseExpressions
  | oldCall
  | yielding
  | starExpressions
  | starExpression
  | starNamed
  | assignment
  | named
  | misplacedAssignment
  | disjunction
  | conjunction
  | inversion
  | comparison
  | bitOr
  | bitXor
  | bitAnd
  | shift
  | sum
  | product
  | factor
  | power
  | awaited
  | primary
  | atom
  | texts
  | tuple
  | group
  | badGroup
  | generator
  | badComprehension
  | dictionary
  | badPairs
  | badPair
  | pair
  | starPair
  | set
  | dictionaryComprehension
  | badDictionaryComprehension
  | setComprehension
  | clauses
  | clause
  | badTarget
  | arguments
  | badArguments
  | argumentList
  | keywordArguments
  | keywordOrStar
  | keywordOrDoubleStar
  | badKeyword
  | starArgument
  | targets
  | target
  | targetPath
  | targetAtom
  | targetPrimary
  | function
  | parameters
  | badParameters
  | slashPlain
  | slashDefault
  | plainParameter
  | defaultParameter
  | anyParameter
  | starParameters
  | badStarParameters
  | doubleStarParameter
  | badDoubleStarParameter
  | default
  | badDefault
  deriving DecidableEq, Hashable

/-- What is read: a token, or what a rule is made of.  A rule with one member only stands for
that. -/
inductive Tree where
  | leaf (token : Token)
  | node (rule : Rule) (members : List Tree)

namespace Tree

/-- The last token of what is read. -/
def last? : Tree → Option Token
  | .leaf token => some token
  | .node _ members =>
    match members.attach.getLast? with
    | some ⟨member, _⟩ => member.last?
    | none => none

/-- Whether a tree is a certain sign or keyword. -/
def isWord (word : String) : Tree → Bool
  | .leaf token => token.isWord word
  | .node _ _ => false

/-- The members of a tree that are no brackets and no commas. -/
def elements : Tree → List Tree
  | .node _ members =>
    members.filter fun member => !(["(", ")", "\x7b", "\x7d", ","].any member.isWord)
  | .leaf _ => []

/-- What a group in parentheses holds. -/
def ungrouped : Tree → Tree
  | .node .group [_, inner, _] => ungrouped inner
  | other => other

/-- Whether a quoted text has fields to fill in. -/
def hasFields (token : Token) : Bool :=
  (token.chars.takeWhile Char.isAlpha).any fun c => c = 'f' || c = 'F'

/-- What a tree is called when it stands where it must not. -/
def name : Tree → String
  | .leaf token =>
    match token.kind with
    | .number => "literal"
    | .text => if hasFields token then "f-string expression" else "literal"
    | .sign => "ellipsis"
    | _ =>
      if ["True", "False", "None"].contains token.spelling then token.spelling
      else if token.spelling = "yield" then "yield expression"
      else "name"
  | .node .group [_, inner, _] => name inner
  | .node .primary members =>
    match members.getLast? with
    | some (.leaf token) => if token.kind = .name then "attribute" else "function call"
    | _ => "function call"
  | .node .texts members =>
    if members.any fun
      | .leaf token => hasFields token
      | .node _ _ => false
    then "f-string expression" else "literal"
  | .node rule _ =>
    match rule with
    | .expression => "conditional expression"
    | .function => "lambda"
    | .comparison => "comparison"
    | .awaited => "await expression"
    | .yielding => "yield expression"
    | .assignment => "named expression"
    | .starExpression | .starNamed | .starArgument => "starred"
    | .expressions | .starExpressions | .tuple => "tuple"
    | .generator => "generator expression"
    | .set => "set display"
    | .dictionary => "dict literal"
    | .setComprehension => "set comprehension"
    | .dictionaryComprehension => "dict comprehension"
    | _ => "expression"

end Tree

/-- What a rule is made of. -/
inductive Form where
  | nothing
  | word (text : String)
  | kind (kind : TokenKind)
  /-- A name that is a keyword elsewhere. -/
  | softKeyword
  | rule (rule : Rule)
  | both (first second : Form)
  | either (first second : Form)
  | many (part : Form)
  /-- The part follows, but is not taken. -/
  | ahead (part : Form)
  /-- The part does not follow. -/
  | absent (part : Form)
  /-- Counts on the second reading only. -/
  | later (part : Form)
  /-- What fits is complained about; without a complaint the rule fits nothing. -/
  | refuse (part : Form) (why : List Tree → Option Complaint)
  /-- What fits may be complained about. -/
  | check (part : Form) (why : List Tree → Option Complaint)

namespace Form

/-- Parts one behind the other. -/
def inOrder : List Form → Form
  | [] => .nothing
  | [part] => part
  | part :: rest => .both part (inOrder rest)

/-- The first of several parts that fits. -/
def oneOf : List Form → Form
  | [] => .absent .nothing
  | [part] => part
  | part :: rest => .either part (oneOf rest)

/-- A part or nothing. -/
def maybe (part : Form) : Form := .either part .nothing

/-- A part once or more often. -/
def onceOrMore (part : Form) : Form := .both part (.many part)

/-- A part once or more often, with a sign between. -/
def separated (sign : String) (part : Form) : Form := .both part (.many (.both (.word sign) part))

/-- A list with commas between its members, and maybe one behind the last. -/
def list (part : Form) : Form := .both (separated "," part) (maybe (.word ","))

/-- One of several signs or keywords. -/
def anyWord (words : List String) : Form := oneOf (words.map .word)

/-- A part with operators of the same rank between its operands. -/
def chain (operand : Form) (operators : List String) : Form :=
  .both operand (.many (.both (anyWord operators) operand))

/-- A part between an opening and a closing bracket. -/
def bracketed (opening closing : String) (part : Form) : Form :=
  inOrder [.word opening, part, .word closing]

/-- What fits is always complained about in the same words. -/
def wrong (complaint : Complaint) (parts : List Form) : Form :=
  .refuse (inOrder parts) fun _ => some complaint

end Form

open Form

/-- A name. -/
def name : Form := .kind .name

/-- The names of calls that need no parentheses in old texts. -/
def oldCalls : List String := ["print", "exec"]

/-- Whether a tree is the name of an old call. -/
def isOldCall (tree : Tree) : Bool :=
  match tree.ungrouped with
  | .leaf token => token.kind = .name && oldCalls.contains token.spelling
  | .node _ _ => false

/-- Two expressions without a comma between them, unless no bracket is open. -/
def commaComplaint : List Tree → Option Complaint
  | [first, second] =>
    if isOldCall first || second.last?.any (·.level = 0) then none else some .missingComma
  | _ => none

/-- An old call without parentheses. -/
def oldCallComplaint : List Tree → Option Complaint
  | first :: _ =>
    match first with
    | .leaf token =>
      if oldCalls.contains token.spelling then some (.missingParentheses token.spelling) else none
    | .node _ _ => none
  | [] => none

/-- A complaint about the name of the first tree. -/
def aboutFirst (complaint : String → Complaint) : List Tree → Option Complaint
  | first :: _ => some (complaint first.name)
  | [] => none

/-- The first part of a target to which nothing can be assigned. -/
def badTarget? : Tree → Option Tree
  | .leaf token => if token.isKind .name then none else some (.leaf token)
  | .node .group [_, inner, _] => badTarget? inner
  | .node r members =>
    match r with
    | .tuple | .expressions | .starExpressions =>
      (members.attach.filter fun ⟨member, _⟩ =>
        !(["(", ")", ","].any member.isWord)).findSome? fun ⟨member, _⟩ => badTarget? member
    | .starExpression | .starNamed =>
      match members with
      | [_, inner] => badTarget? inner
      | _ => none
    | .comparison =>
      match members with
      | left :: operator :: _ => if operator.isWord "in" then badTarget? left else none
      | _ => none
    | .primary =>
      if (Tree.node r members).name = "attribute" then none else some (.node r members)
    | _ => some (.node r members)

/-- The target of a loop to which nothing can be assigned. -/
def targetComplaint (trees : List Tree) : Option Complaint :=
  match trees.getLast? with
  | some target => (badTarget? target).map fun tree => .assignmentTo tree.name
  | none => none

/-- Whether an argument is given by name. -/
def isKeyword : Tree → Bool
  | .node .keywordOrStar _ | .node .keywordOrDoubleStar _ => true
  | _ => false

/-- The arguments in a tree. -/
def argumentsIn : Tree → List Tree
  | .node .argumentList members =>
    (Tree.node .argumentList members).elements.flatMap fun
      | .node .keywordArguments inner => (Tree.node .keywordArguments inner).elements
      | other => [other]
  | .node .keywordArguments members => (Tree.node .keywordArguments members).elements
  | other => [other]

/-- A loop behind arguments of which it can only belong to the last. -/
def generatorComplaint : List Tree → Option Complaint
  | arguments :: _ =>
    if ((argumentsIn arguments).filter (!isKeyword ·)).length ≤ 1 then none else some .bareGenerator
  | [] => none

/-- An argument without a name behind one with a name. -/
def orderComplaint : List Tree → Option Complaint
  | arguments :: _ =>
    if (argumentsIn arguments).any fun
      | .node .keywordOrDoubleStar (first :: _) => first.isWord "**"
      | _ => false
    then some .positionalAfterUnpacking else some .positionalAfterKeyword
  | [] => none

/-- A constant as the name of an argument. -/
def constantComplaint : List Tree → Option Complaint
  | .leaf token :: _ => some (.assignmentTo token.spelling)
  | _ => none

/-- The greatest number of digits of a decimal number. -/
def digitLimit : Nat := 4300

/-- A decimal number with too many digits. -/
def numberComplaint : List Tree → Option Complaint
  | [.leaf token] =>
    let digits := token.chars.filter (· ≠ '_')
    if digits.all Char.isDigit && digitLimit < digits.length
      then some (.tooManyDigits digits.length)
    else none
  | _ => none

/-- The forms of an expression. -/
def plainForms : Form :=
  oneOf [
    inOrder [.rule .disjunction, .word "if", .rule .disjunction, .word "else", .rule .expression],
    .rule .disjunction,
    .rule .function]

/-- The pairs of a dictionary. -/
def pairs : Form := .list (.rule .starPair)

/-- A named expression in a generator or an argument. -/
def unnamed : Form :=
  .either (.rule .assignment) (.both (.rule .expression) (.absent (.word ":=")))

/-- An argument without a name. -/
def positional : Form := .either (.rule .starArgument) (.both unnamed (.absent (.word "=")))

/-- An end of a parameter: a comma, or the colon that ends them all. -/
def ended (part : Form) : Form :=
  .either (.both part (.word ",")) (.both part (.ahead (.word ":")))

/-- The part that a rule stands for.  `textComplaint` checks the contents of quoted texts. -/
def definition (textComplaint : List Tree → Option Complaint) : Rule → Form
  | .start => inOrder [.rule .expressions, .many (.kind .lineEnd), .kind .finish]
  | .expressions => .list (.rule .expression)
  | .expression => oneOf [.later (.rule .looseExpressions), .later (.rule .oldCall), plainForms]
  | .plainExpression => plainForms
  | .looseExpressions =>
    oneOf [
      .refuse (inOrder [.absent (.either (.both name (.kind .text)) .softKeyword),
        .rule .disjunction, .rule .plainExpression]) commaComplaint,
      wrong .missingElse [.rule .disjunction, .word "if", .rule .disjunction,
        .absent (anyWord ["else", ":"])]]
  | .oldCall =>
    .refuse (inOrder [name, .absent (.word "("), .rule .starExpressions]) oldCallComplaint
  | .yielding =>
    .either (inOrder [.word "yield", .word "from", .rule .expression])
      (.both (.word "yield") (maybe (.rule .starExpressions)))
  | .starExpressions => .list (.rule .starExpression)
  | .starExpression => .either (.both (.word "*") (.rule .bitOr)) (.rule .expression)
  | .starNamed => .either (.both (.word "*") (.rule .bitOr)) (.rule .named)
  | .assignment => inOrder [name, .word ":=", .rule .expression]
  | .named =>
    oneOf [.rule .assignment, .later (.rule .misplacedAssignment),
      .both (.rule .expression) (.absent (.word ":="))]
  | .misplacedAssignment =>
    oneOf [
      .refuse (inOrder [.rule .expression, .word ":=", .rule .expression]) (aboutFirst .walrusWith),
      wrong .assignmentInside [name, .word "=", .rule .bitOr, .absent (anyWord ["=", ":="])],
      .refuse (inOrder [
        .absent (oneOf [.rule .tuple, .rule .generator, anyWord ["True", "None", "False"]]),
        .rule .bitOr, .word "=", .rule .bitOr, .absent (anyWord ["=", ":="])])
        (aboutFirst .assignmentToHere)]
  | .disjunction => chain (.rule .conjunction) ["or"]
  | .conjunction => chain (.rule .inversion) ["and"]
  | .inversion => .either (.both (.word "not") (.rule .inversion)) (.rule .comparison)
  | .comparison =>
    .both (.rule .bitOr) (.many (.both
      (oneOf [anyWord ["==", "!=", "<=", "<", ">=", ">"],
        .both (.word "not") (.word "in"), .word "in", .both (.word "is") (.word "not"), .word "is"])
      (.rule .bitOr)))
  | .bitOr => chain (.rule .bitXor) ["|"]
  | .bitXor => chain (.rule .bitAnd) ["^"]
  | .bitAnd => chain (.rule .shift) ["&"]
  | .shift => chain (.rule .sum) ["<<", ">>"]
  | .sum => chain (.rule .product) ["+", "-"]
  | .product => chain (.rule .factor) ["*", "/", "//", "%", "@"]
  | .factor => .either (.both (anyWord ["+", "-", "~"]) (.rule .factor)) (.rule .power)
  | .power => .either (inOrder [.rule .awaited, .word "**", .rule .factor]) (.rule .awaited)
  | .awaited => .either (.both (.word "await") (.rule .primary)) (.rule .primary)
  | .primary =>
    .both (.rule .atom) (.many (oneOf [.both (.word ".") name, .rule .generator,
      bracketed "(" ")" (maybe (.rule .arguments))]))
  | .atom =>
    oneOf [name, anyWord ["True", "False", "None"],
      .both (.ahead (.kind .text)) (.rule .texts),
      .check (.kind .number) numberComplaint,
      .both (.ahead (.word "(")) (oneOf [.rule .tuple, .rule .group, .rule .generator]),
      .both (.ahead (.word "\x7b")) (oneOf [.rule .dictionary, .rule .set,
        .rule .dictionaryComprehension, .rule .setComprehension]),
      .word "..."]
  | .texts => .check (onceOrMore (.kind .text)) textComplaint
  | .tuple =>
    bracketed "(" ")" (maybe (inOrder [.rule .starNamed, .word ",",
      maybe (.list (.rule .starNamed))]))
  | .group =>
    .either (bracketed "(" ")" (.either (.rule .yielding) (.rule .named)))
      (.later (.rule .badGroup))
  | .badGroup =>
    .either (wrong .starredGroup [.word "(", .rule .starArgument, .word ")"])
      (wrong .doubleStarredGroup [.word "(", .word "**", .rule .expression, .word ")"])
  | .generator =>
    .either (bracketed "(" ")" (.both unnamed (.rule .clauses))) (.later (.rule .badComprehension))
  | .badComprehension =>
    oneOf [
      wrong .starredComprehension [anyWord ["(", "\x7b"], .rule .starArgument, .rule .clauses],
      wrong .bareTarget [.word "\x7b", .rule .starNamed, .word ",", .list (.rule .starNamed),
        .rule .clauses],
      wrong .bareTarget [.word "\x7b", .rule .starNamed, .word ",", .rule .clauses]]
  | .dictionary =>
    .either (bracketed "\x7b" "\x7d" (maybe pairs))
      (bracketed "\x7b" "\x7d" (.rule .badPairs))
  | .badPairs =>
    oneOf [
      inOrder [separated "," (.rule .starPair), .word ",", .rule .badPair],
      wrong .starredValue [.rule .expression, .word ":", .word "*", .rule .bitOr],
      wrong .missingValue [.rule .expression, .word ":", .ahead (anyWord ["\x7d", ","])]]
  | .badPair =>
    oneOf [
      wrong .missingColon [.rule .expression, .absent (.word ":")],
      wrong .starredValue [.rule .expression, .word ":", .word "*", .rule .bitOr],
      wrong .missingValue [.rule .expression, .word ":", .ahead (anyWord ["\x7d", ","])]]
  | .pair => inOrder [.rule .expression, .word ":", .rule .expression]
  | .starPair => .either (.both (.word "**") (.rule .bitOr)) (.rule .pair)
  | .set => bracketed "\x7b" "\x7d" (.list (.rule .starNamed))
  | .dictionaryComprehension =>
    .either (bracketed "\x7b" "\x7d" (.both (.rule .pair) (.rule .clauses)))
      (.later (.rule .badDictionaryComprehension))
  | .badDictionaryComprehension =>
    wrong .unpackedComprehension [.word "\x7b", .word "**", .rule .bitOr, .rule .clauses,
      .word "\x7d"]
  | .setComprehension =>
    .either (bracketed "\x7b" "\x7d" (.both (.rule .named) (.rule .clauses)))
      (.later (.rule .badComprehension))
  | .clauses => onceOrMore (.rule .clause)
  | .clause =>
    let head := inOrder [maybe (.word "async"), .word "for", .rule .targets, .word "in"]
    .either
      (inOrder [head, .rule .disjunction, .many (.both (.word "if") (.rule .disjunction))])
      (.later (.both (.absent head) (.rule .badTarget)))
  | .badTarget =>
    .refuse (inOrder [maybe (.word "async"), .word "for", .rule .starExpressions]) targetComplaint
  | .arguments =>
    .either (inOrder [.rule .argumentList, maybe (.word ","), .ahead (.word ")")])
      (.later (.rule .badArguments))
  | .badArguments =>
    oneOf [
      wrong .starAfterDoubleStar [
        .either (inOrder [separated "," positional, .word ",", .rule .keywordArguments])
          (.rule .keywordArguments),
        .word ",", separated "," (.both (.rule .starArgument) (.absent (.word "=")))],
      wrong .bareGenerator [.rule .expression, .rule .clauses, .word ",",
        maybe (.either (.rule .argumentList) (.both (.rule .expression) (.rule .clauses)))],
      wrong .assignmentInside [name, .word "=", .rule .expression, .rule .clauses],
      .refuse (.both (.rule .argumentList) (.rule .clauses)) generatorComplaint,
      wrong .bareGenerator [.rule .argumentList, .word ",", .rule .expression, .rule .clauses],
      .refuse (inOrder [.rule .argumentList, .word ",", .rule .argumentList]) orderComplaint]
  | .argumentList =>
    .either
      (.both (separated "," positional) (maybe (.both (.word ",") (.rule .keywordArguments))))
      (.rule .keywordArguments)
  | .keywordArguments =>
    oneOf [
      inOrder [separated "," (.rule .keywordOrStar), .word ",",
        separated "," (.rule .keywordOrDoubleStar)],
      separated "," (.rule .keywordOrStar),
      separated "," (.rule .keywordOrDoubleStar)]
  | .keywordOrStar =>
    oneOf [.later (.rule .badKeyword), inOrder [name, .word "=", .rule .expression],
      .rule .starArgument]
  | .keywordOrDoubleStar =>
    oneOf [.later (.rule .badKeyword), inOrder [name, .word "=", .rule .expression],
      .both (.word "**") (.rule .expression)]
  | .badKeyword =>
    oneOf [
      .refuse (.both (anyWord ["True", "False", "None"]) (.word "=")) constantComplaint,
      wrong .assignmentInside [name, .word "=", .rule .expression, .rule .clauses],
      wrong .keywordExpression [.absent (.both name (.word "=")), .rule .expression, .word "="]]
  | .starArgument =>
    .either (.both (.word "*") (.rule .expression)) (wrong .bareStarredPlace [.word "*"])
  | .targets =>
    .either (.both (.rule .target) (.absent (.word ","))) (.list (.rule .target))
  | .target =>
    .either (inOrder [.word "*", .absent (.word "*"), .rule .target]) (.rule .targetPath)
  | .targetPath =>
    .either
      (inOrder [.rule .targetPrimary, .word ".", name, .absent (anyWord ["(", "["]),
        .absent (.word ".")])
      (.rule .targetAtom)
  | .targetAtom =>
    oneOf [name, bracketed "(" ")" (.rule .targetPath),
      bracketed "(" ")" (maybe (.either
        (inOrder [.rule .target, onceOrMore (.both (.word ",") (.rule .target)), maybe (.word ",")])
        (.both (.rule .target) (.word ","))))]
  | .targetPrimary =>
    let further := .ahead (anyWord ["(", "[", "."])
    .both (.both (.rule .atom) further)
      (.many (.both (oneOf [.both (.word ".") name, .rule .generator,
        bracketed "(" ")" (maybe (.rule .arguments))]) further))
  | .function =>
    inOrder [.word "lambda", maybe (.rule .parameters), .word ":", .rule .expression]
  | .parameters =>
    oneOf [
      .later (.rule .badParameters),
      inOrder [.rule .slashPlain, .many (.rule .plainParameter), .many (.rule .defaultParameter),
        maybe (.rule .starParameters)],
      inOrder [.rule .slashDefault, .many (.rule .defaultParameter), maybe (.rule .starParameters)],
      inOrder [onceOrMore (.rule .plainParameter), .many (.rule .defaultParameter),
        maybe (.rule .starParameters)],
      inOrder [onceOrMore (.rule .defaultParameter), maybe (.rule .starParameters)],
      .rule .starParameters]
  | .badParameters =>
    oneOf [
      wrong .defaultThenPlain [.many (.rule .plainParameter),
        .either (.rule .slashDefault) (onceOrMore (.rule .defaultParameter)),
        .rule .plainParameter],
      wrong .parenthesizedParameters [.many (.rule .plainParameter), .word "(", separated "," name,
        maybe (.word ","), .word ")"],
      wrong .slashFirst [.word "/", .word ","],
      wrong .slashTwice [.either (.rule .slashPlain) (.rule .slashDefault),
        .many (.rule .anyParameter), .word "/"],
      wrong .slashAfterStar [maybe (.either (.rule .slashPlain) (.rule .slashDefault)),
        .many (.rule .anyParameter), .word "*", .either (.word ",") (.rule .plainParameter),
        .many (.rule .anyParameter), .word "/"],
      wrong .slashBeforeStar [onceOrMore (.rule .anyParameter), .word "/", .word "*"]]
  | .slashPlain => .both (onceOrMore (.rule .plainParameter)) (ended (.word "/"))
  | .slashDefault =>
    inOrder [.many (.rule .plainParameter), onceOrMore (.rule .defaultParameter), ended (.word "/")]
  | .plainParameter => ended name
  | .defaultParameter => ended (.both name (.rule .default))
  | .anyParameter => ended (.both name (maybe (.rule .default)))
  | .starParameters =>
    oneOf [
      .later (.rule .badStarParameters),
      inOrder [.word "*", .rule .plainParameter, .many (.rule .anyParameter),
        maybe (.rule .doubleStarParameter)],
      inOrder [.word "*", .word ",", onceOrMore (.rule .anyParameter),
        maybe (.rule .doubleStarParameter)],
      .rule .doubleStarParameter]
  | .badStarParameters =>
    oneOf [
      wrong .bareStar [.word "*", .either (.word ":") (.both (.word ",") (anyWord [":", "**"]))],
      wrong .starDefault [.word "*", name, .word "="],
      wrong .starTwice [.word "*", .either (.rule .plainParameter) (.word ","),
        .many (.rule .anyParameter), .word "*", .either (.rule .plainParameter) (.word ",")]]
  | .doubleStarParameter =>
    .either (.later (.rule .badDoubleStarParameter)) (.both (.word "**") (.rule .plainParameter))
  | .badDoubleStarParameter =>
    oneOf [
      wrong .doubleStarDefault [.word "**", name, .word "="],
      wrong .afterDoubleStar [.word "**", name, .word ",", name],
      wrong .afterDoubleStar [.word "**", name, .word ",", anyWord ["*", "**", "/"]]]
  | .default => .either (.both (.word "=") (.rule .expression)) (.later (.rule .badDefault))
  | .badDefault => wrong .missingDefault [.word "=", .ahead (anyWord [")", ","])]

/-- Whether what a rule fits at a place is kept for the next time. -/
def isKept : Rule → Bool
  | .expression | .starExpression | .misplacedAssignment | .disjunction | .conjunction | .inversion
  | .bitOr | .bitXor | .bitAnd | .shift | .sum | .product | .factor | .awaited | .primary | .texts
  | .arguments | .target | .targetPath | .targetPrimary => true
  | _ => false

end SourceSurvey.Expression
