import Barometer.Sql.Token

/-!
# SQL queries

Expressions and queries as trees, and the tokens they are written with.  Operations, junctions and
subqueries have parentheses of their own; comparisons and pattern matches have none.
-/

namespace Barometer.Sql

inductive Connective where
  | and
  | or
deriving DecidableEq, Repr

def Connective.keyword : Connective → Keyword
  | .and => .and
  | .or => .or

mutual

inductive Expr where
  | column (table : Option String) (name : String)
  | literal (value : Literal)
  | operation (sign : String) (args : List Expr)
  | compare (relation : Relation) (left right : Expr)
  | isNull (operand : Expr) (negated : Bool)
  /-- A pattern match without regard to case. -/
  | like (operand pattern : Expr) (negated : Bool)
  | junction (connective : Connective) (children : List Expr)
  | call (function : String) (args : List Expr) (distinct : Bool)
  | cases (arms : List (Expr × Expr)) (otherwise : Option Expr)
  | subquery (query : Query)
  | star
  /-- The condition `1=1`. -/
  | always

/-- An expression of a select list, with the title it is shown under. -/
structure Item where
  expr : Expr
  label : Option String

structure Join where
  table : String
  on : Option Expr

structure Query where
  select : List Item
  source : Option String
  joins : List Join
  filter : Option Expr
  groupBy : List Expr

end

instance : Inhabited Expr := ⟨.always⟩

instance : Inhabited Query :=
  ⟨{ select := [], source := none, joins := [], filter := none, groupBy := [] }⟩

/-- The tokens of a pattern match, from those of its two sides.  Where the database knows no match
without regard to case, the text is lowered; patterns are in lower case already. -/
def likeTokens (dialect : Dialect) (operand pattern : List Token) (negated : Bool) : List Token :=
  (match dialect with
    | .postgres => operand
    | .sqlite => .function "LOWER" :: .leftParen :: operand ++ [.rightParen]) ++
  (if negated then [.space, .keyword .not] else []) ++
  [.space, .keyword (match dialect with | .postgres => .ilike | .sqlite => .like), .space] ++
  pattern

/-- Parts with a separator between them. -/
def separated (separator : List Token) : List (List Token) → List Token
  | [] => []
  | [part] => part
  | part :: rest => part ++ separator ++ separated separator rest

def commaSpace : List Token := [.comma, .space]

mutual

def Expr.tokens (dialect : Dialect) : Expr → List Token
  | .column none name => [.name name]
  | .column (some table) name => [.name table, .dot, .name name]
  | .literal value => [.literal value]
  | .operation sign args =>
    .leftParen :: separated [.space, .operator sign, .space] (Expr.tokensAll dialect args) ++
      [.rightParen]
  | .compare relation left right =>
    left.tokens dialect ++ [.space, .relation relation, .space] ++ right.tokens dialect
  | .isNull operand negated =>
    operand.tokens dialect ++ [.space, .keyword (if negated then .isNotNull else .isNull)]
  | .like operand pattern negated =>
    likeTokens dialect (operand.tokens dialect) (pattern.tokens dialect) negated
  | .junction connective children =>
    .leftParen ::
      separated [.space, .keyword connective.keyword, .space] (Expr.tokensAll dialect children) ++
      [.rightParen]
  | .call function args distinct =>
    .function function :: .leftParen ::
      (if distinct then [.keyword .distinct, .space] else []) ++
      separated commaSpace (Expr.tokensAll dialect args) ++ [.rightParen]
  | .cases arms otherwise =>
    .keyword .case :: Expr.tokensArms dialect arms ++
      Expr.tokensAfter dialect [.space, .keyword .else, .space] otherwise ++
      [.space, .keyword .end]
  | .subquery query => .leftParen :: query.tokens dialect ++ [.rightParen]
  | .star => [.star]
  | .always => [.literal (.int 1), .relation .eq, .literal (.int 1)]

def Expr.tokensAll (dialect : Dialect) : List Expr → List (List Token)
  | [] => []
  | e :: rest => e.tokens dialect :: Expr.tokensAll dialect rest

def Expr.tokensArms (dialect : Dialect) : List (Expr × Expr) → List Token
  | [] => []
  | (condition, value) :: rest =>
    [.space, .keyword .when, .space] ++ condition.tokens dialect ++
      [.space, .keyword .then, .space] ++ value.tokens dialect ++ Expr.tokensArms dialect rest

/-- The tokens of an expression that may be absent, after those that lead to it. -/
def Expr.tokensAfter (dialect : Dialect) (lead : List Token) : Option Expr → List Token
  | none => []
  | some e => lead ++ e.tokens dialect

def Item.tokens (dialect : Dialect) : Item → List Token
  | { expr, label := none } => expr.tokens dialect
  | { expr, label := some title } =>
    expr.tokens dialect ++ [.space, .keyword .as, .space, .label title]

def Item.tokensAll (dialect : Dialect) : List Item → List (List Token)
  | [] => []
  | item :: rest => item.tokens dialect :: Item.tokensAll dialect rest

def Join.tokens (dialect : Dialect) : Join → List Token
  | { table, on } =>
    [.space, .keyword .join, .space, .name table] ++
      Expr.tokensAfter dialect [.space, .keyword .on, .space] on

def Join.tokensAll (dialect : Dialect) : List Join → List Token
  | [] => []
  | join :: rest => join.tokens dialect ++ Join.tokensAll dialect rest

def Query.tokens (dialect : Dialect) : Query → List Token
  | { select, source, joins, filter, groupBy } =>
    .keyword .select ::
      (if select.isEmpty then []
        else .space :: separated commaSpace (Item.tokensAll dialect select)) ++
      (match source with
        | none => []
        | some table => [.space, .keyword .from, .space, .name table]) ++
      Join.tokensAll dialect joins ++
      Expr.tokensAfter dialect [.space, .keyword .where, .space] filter ++
      (if groupBy.isEmpty then []
        else [.space, .keyword .groupBy, .space] ++
          separated commaSpace (Expr.tokensAll dialect groupBy))

end

def Expr.sql (dialect : Dialect) (e : Expr) : String := textOf (e.tokens dialect)

namespace Query

def sql (dialect : Dialect) (q : Query) : String := textOf (q.tokens dialect)

/-- The tokens of a whole statement. -/
def statementTokens (dialect : Dialect) (q : Query) : List Token :=
  q.tokens dialect ++ [.semicolon]

/-- The text of a whole statement. -/
def statement (dialect : Dialect) (q : Query) : String := textOf (q.statementTokens dialect)

end Query

end Barometer.Sql
