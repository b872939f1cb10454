import HtmlTemplate.Value

/-!
Directives: the tags that a template adds to HTML. An expression is a literal or the name of a
context value.
-/

namespace HtmlTemplate

inductive Expr where
  | literal (value : Value)
  | variable (name : String)
  /-- Something that is not an expression, known by the name of its type. -/
  | foreign (kind : String)

/-- Expressions are told apart by their names, and literals as values are. -/
instance : BEq Expr where
  beq
    | .literal value, .literal other => value.alike other
    | .variable name, .variable other => name == other
    | .foreign kind, .foreign other => kind == other
    | _, _ => false

inductive Tag where
  | ifTag (condition : Expr)
  | elifTag (condition : Expr)
  | elseTag
  | endIfTag
  | expression (body : Expr)
  | comment (text : String)
  deriving BEq

def Expr.write : Expr → String
  | .literal value => "Literal(value=" ++ value.write ++ ")"
  | .variable name => "Variable(name=" ++ Text.quote name ++ ")"
  | .foreign kind => kind

def Tag.write : Tag → String
  | .ifTag condition => "IfTag(condition=" ++ condition.write ++ ")"
  | .elifTag condition => "ElifTag(condition=" ++ condition.write ++ ")"
  | .elseTag => "ElseTag()"
  | .endIfTag => "EndIfTag()"
  | .expression body => "ExpressionTag(body=" ++ body.write ++ ")"
  | .comment text => "CommentTag(text=" ++ Text.quote text ++ ")"

/-- The name of the type of a directive. -/
def Tag.kind : Tag → String
  | .ifTag _ => "IfTag"
  | .elifTag _ => "ElifTag"
  | .elseTag => "ElseTag"
  | .endIfTag => "EndIfTag"
  | .expression _ => "ExpressionTag"
  | .comment _ => "CommentTag"

end HtmlTemplate
