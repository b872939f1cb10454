import HtmlTemplate.Directive.Shape

/-!
What to blame when a text has no shape. Reading tries the rules of the grammar in order; each rule
that is tried and fails is a miss, listed after the misses of its own parts. The miss to report is
the last of those that happened farthest into the text.
-/

namespace HtmlTemplate.Directive

inductive Rule where
  | tag
  | statementTag
  | statement
  | ifStatement
  | elifStatement
  | elseStatement
  | endIfStatement
  | expressionTag
  | commentTag
  | expression
  | literal
  | boolean
  | string
  | float
  | variable
  | ws
  deriving DecidableEq, Repr

def Rule.name : Rule → String
  | .tag => "tag"
  | .statementTag => "statement_tag"
  | .statement => "statement"
  | .ifStatement => "if_stmt"
  | .elifStatement => "elif_stmt"
  | .elseStatement => "else_stmt"
  | .endIfStatement => "endif_stmt"
  | .expressionTag => "expression_tag"
  | .commentTag => "comment_tag"
  | .expression => "expression"
  | .literal => "literal"
  | .boolean => "boolean"
  | .string => "string"
  | .float => "float"
  | .variable => "variable"
  | .ws => "ws"

/-- A rule that failed, and how much of the text was left where it was tried. -/
structure Miss where
  rule : Rule
  left : Nat
  deriving DecidableEq, Repr

/-- The miss of a rule itself, after those of its parts. -/
def missIf (failed : Bool) (rule : Rule) (s : List Char) : List Miss :=
  if failed then [{ rule, left := s.length }] else []

/-- Spaces that may be left out are not even looked for at the end of the text. -/
def skipMisses (s : List Char) : List Miss :=
  missIf (!s.isEmpty && (readSpace? s).isNone) .ws s

def literalMisses (s : List Char) : List Miss :=
  missIf (readBool? s).isNone .boolean s
    ++ (if (readBool? s).isNone then
      missIf (readString? s).isNone .string s
        ++ (if (readString? s).isNone then missIf (readNumber? s).isNone .float s else [])
    else [])
    ++ missIf (readLiteral? s).isNone .literal s

def operandMisses (s : List Char) : List Miss :=
  literalMisses s
    ++ (if (readLiteral? s).isNone then missIf (readName? s).isNone .variable s else [])
    ++ missIf (readOperand? s).isNone .expression s

def conditionalMisses (rule : Rule) (keyword : String) (s : List Char) : List Miss :=
  (match readFixed? keyword.toList s with
    | none => []
    | some rest =>
      match readSpace? rest with
      | none => missIf true .ws rest
      | some rest => operandMisses rest)
    ++ missIf (readConditional? keyword s).isNone rule s

def statementMisses (s : List Char) : List Miss :=
  conditionalMisses .ifStatement "if" s
    ++ (if (readConditional? "if" s).isSome then []
    else
      conditionalMisses .elifStatement "elif" s
        ++ (if (readConditional? "elif" s).isSome then []
        else
          missIf (readFixed? "else".toList s).isNone .elseStatement s
            ++ (if (readFixed? "else".toList s).isSome then []
            else missIf (readFixed? "endif".toList s).isNone .endIfStatement s)))
    ++ missIf (readStatement? s).isNone .statement s

def statementTagMisses (s : List Char) : List Miss :=
  (match readFixed? ['{', '%'] s with
    | none => []
    | some rest =>
      skipMisses rest ++ statementMisses (skip rest)
        ++ match readStatement? (skip rest) with
          | none => []
          | some (_, rest) => skipMisses rest)
    ++ missIf (readStatementTag? s).isNone .statementTag s

def expressionTagMisses (s : List Char) : List Miss :=
  (match readFixed? ['{', '{'] s with
    | none => []
    | some rest =>
      skipMisses rest ++ operandMisses (skip rest)
        ++ match readOperand? (skip rest) with
          | none => []
          | some (_, rest) => skipMisses rest)
    ++ missIf (readExpressionTag? s).isNone .expressionTag s

def commentTagMisses (s : List Char) : List Miss :=
  (match readFixed? ['{', '#'] s with
    | none => []
    | some rest => skipMisses rest)
    ++ missIf (readCommentTag? s).isNone .commentTag s

/-- The misses of a text without a shape, in the order in which they happen. -/
def misses (s : List Char) : List Miss :=
  statementTagMisses s ++ expressionTagMisses s ++ commentTagMisses s ++ missIf true .tag s

/-- The last of the misses with the least text left. -/
def farthest : Miss → List Miss → Miss
  | best, [] => best
  | best, m :: rest => farthest (if m.left ≤ best.left then m else best) rest

/-- The miss to report for a text without a shape. -/
def blame (s : List Char) : Miss :=
  farthest { rule := .tag, left := s.length } (misses s)

end HtmlTemplate.Directive
