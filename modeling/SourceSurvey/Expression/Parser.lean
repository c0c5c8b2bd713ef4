import SourceSurvey.Expression.Grammar
import SourceSurvey.Expression.Scanner
import Std.Data.HashMap

/-!
# Reading expressions

`read` reads a text as an expression.  A text that is none is read a second time to find out what is
wrong with it; if that tells nothing, the complaint is a general one.  Faults of the tokens come
before faults of the grammar.
-/

namespace SourceSurvey.Expression

/-- What comes of trying a part at a place: trees and the place behind them, nothing, or nothing for
the whole rule. -/
inductive Outcome where
  | found (trees : List Tree) (behind : Nat)
  | missed
  | refused

/-- What is known while a text is read: the furthest token that has been looked at, and what rules
have fitted at places. -/
structure Progress where
  furthest : Nat
  kept : Std.HashMap (Rule × Nat) Outcome

/-- A reading under way, which may end in a complaint. -/
abbrev Reading := ExceptT Complaint (StateM Progress)

/-- The token at a place. -/
def tokenAt (s : Scanned) (place : Nat) : Reading (Option Token) := do
  match s.tokens[place]? with
  | some token =>
    modify fun p => { p with furthest := max p.furthest place }
    return some token
  | none =>
    match s.ending with
    | .whole => return none
    | .broken why | .faulty why => throw why

/-- A token that passes a test. -/
def tokenWhere (s : Scanned) (place : Nat) (test : Token → Bool) : Reading Outcome := do
  match ← tokenAt s place with
  | some token => return if test token then .found [.leaf token] (place + 1) else .missed
  | none => return .missed

/-- What a rule has fitted: several trees become one, and a refusal ends with the rule. -/
def ofRule (rule : Rule) : Outcome → Outcome
  | .found [tree] behind => .found [tree] behind
  | .found trees behind => .found [.node rule trees] behind
  | .missed | .refused => .missed

/-- Tries a part at a place.  `later` tells that the text is read for the second time. -/
def attempt (s : Scanned) (definition : Rule → Form) : Nat → Bool → Form → Nat → Reading Outcome
  | 0, _, _, _ => return .missed
  | fuel + 1, later, part, place => do
    let go (part : Form) (place : Nat) : Reading Outcome :=
      attempt s definition fuel later part place
    match part with
    | .nothing => return .found [] place
    | .word text => tokenWhere s place (·.isWord text)
    | .kind kind => tokenWhere s place (·.isKind kind)
    | .softKeyword =>
      tokenWhere s place fun token => token.kind = .name && softKeywords.contains token.spelling
    | .rule r =>
      match (← get).kept[(r, place)]? with
      | some outcome => return outcome
      | none =>
        let second := later && r != .plainExpression
        let outcome := ofRule r (← attempt s definition fuel second (definition r) place)
        if isKept r then modify fun p => { p with kept := p.kept.insert (r, place) outcome }
        return outcome
    | .both first second =>
      match ← go first place with
      | .found trees behind =>
        match ← go second behind with
        | .found more behind => return .found (trees ++ more) behind
        | other => return other
      | other => return other
    | .either first second =>
      match ← go first place with
      | .missed => go second place
      | other => return other
    | .many inner =>
      match ← go inner place with
      | .found trees behind =>
        if behind = place then return .found trees behind
        else
          match ← go (.many inner) behind with
          | .found more behind => return .found (trees ++ more) behind
          | other => return other
      | _ => return .found [] place
    | .ahead inner =>
      match ← go inner place with
      | .found _ _ => return .found [] place
      | _ => return .missed
    | .absent inner =>
      match ← go inner place with
      | .found _ _ => return .missed
      | _ => return .found [] place
    | .later inner => if later then go inner place else return .missed
    | .refuse inner why =>
      match ← go inner place with
      | .found trees _ =>
        match why trees with
        | some complaint => throw complaint
        | none => return .refused
      | other => return other
    | .check inner why =>
      match ← go inner place with
      | .found trees behind =>
        match why trees with
        | some complaint => throw complaint
        | none => return .found trees behind
      | other => return other

/-- A number of steps that is enough for a text: between two tokens a reading goes through each rule
once. -/
def enough (s : Scanned) : Nat := 400 * (s.tokens.size + 2)

/-- Reads tokens from the start. -/
def readOnce (s : Scanned) (definition : Rule → Form) (later : Bool) :
    Except Complaint Outcome × Progress :=
  (attempt s definition (enough s) later (.rule .start) 0).run.run ⟨0, ∅⟩

/-- The complaint about tokens that are no expression, when they have been looked at up to
`furthest`.  A fault of the tokens themselves comes first, and then a bracket that was opened on an
earlier line and never closed. -/
def settle (s : Scanned) (furthest : Nat) (complaint : Complaint) : Complaint :=
  match s.ending with
  | .whole => complaint
  | .faulty why => why
  | .broken _ =>
    match s.bracket, s.tokens[furthest]? with
    | some (bracket, line), some token =>
      if line < token.line then .neverClosed bracket else complaint
    | _, _ => complaint

/-- The complaint to tell when a rule has given one.  It stays as it is if the end of the tokens has
been met by then. -/
def settleGiven (s : Scanned) (furthest : Nat) (complaint : Complaint) : Complaint :=
  if s.ending = .broken complaint || (s.meetsEnd && s.tokens.size ≤ furthest + 1) then complaint
  else settle s furthest complaint

/-- The general complaint about tokens that have been looked at up to `furthest` on the first
reading and up to `further` on the second. -/
def generalComplaint (s : Scanned) (furthest further : Nat) : Complaint :=
  match (s.tokens[furthest]?).map Token.kind with
  | some .indent => .unexpectedIndent
  | some .dedent => .unexpectedUnindent
  | _ => settle s (max furthest further) .syntactic

/-- Reads a text as an expression. -/
def read (textComplaint : List Tree → Option Complaint)
    (text : List Char) : Except Complaint Tree :=
  if text.contains '\x00' then .error .zeroByte
  else
    let s := scan text
    let rules := definition textComplaint
    match readOnce s rules false with
    | (.ok (.found [.node .start (tree :: _)] _), _) => .ok tree
    | (.error complaint, first) => .error (settleGiven s first.furthest complaint)
    | (.ok _, first) =>
      match readOnce s rules true with
      | (.error complaint, second) =>
        .error (settleGiven s (max first.furthest second.furthest) complaint)
      | (.ok _, second) => .error (generalComplaint s first.furthest second.furthest)

end SourceSurvey.Expression
