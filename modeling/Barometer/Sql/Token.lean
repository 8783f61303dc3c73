import Barometer.Decimal.Layout
import Barometer.Sql.Identifier
import Barometer.Text.Case

/-!
# SQL tokens

The pieces that statements are made of.  A statement is the text of its tokens, one after the other;
spaces are tokens too.
-/

namespace Barometer.Sql

/-- The databases that statements are written for. -/
inductive Dialect where
  | postgres
  | sqlite
deriving DecidableEq, Repr

namespace Dialect

def name : Dialect → String
  | .postgres => "postgres"
  | .sqlite => "sqlite"

/-- The dialect of a name or one of its common abbreviations, in any case of letters. -/
def ofName? (name : String) : Option Dialect :=
  match Text.lower name with
  | "postgres" => some .postgres
  | "postgresql" => some .postgres
  | "pg" => some .postgres
  | "sqlite" => some .sqlite
  | "sqlite3" => some .sqlite
  | _ => none

end Dialect

/-- The literal values of SQL. -/
inductive Literal where
  | int (value : Int)
  | real (value : Float)
  | text (value : String)
  | bool (value : Bool)
  | null

inductive Relation where
  | eq
  | ne
  | lt
  | gt
  | lte
  | gte
deriving DecidableEq, Repr

def Relation.sign : Relation → String
  | .eq => "="
  | .ne => "<>"
  | .lt => "<"
  | .gt => ">"
  | .lte => "<="
  | .gte => ">="

inductive Keyword where
  | select
  | from
  | where
  | and
  | or
  | not
  | as
  | on
  | join
  | groupBy
  | case
  | when
  | then
  | else
  | end
  | like
  | ilike
  | isNull
  | isNotNull
  | distinct
deriving DecidableEq, Repr

def Keyword.text : Keyword → String
  | .select => "SELECT"
  | .from => "FROM"
  | .where => "WHERE"
  | .and => "AND"
  | .or => "OR"
  | .not => "NOT"
  | .as => "AS"
  | .on => "ON"
  | .join => "JOIN"
  | .groupBy => "GROUP BY"
  | .case => "CASE"
  | .when => "WHEN"
  | .then => "THEN"
  | .else => "ELSE"
  | .end => "END"
  | .like => "LIKE"
  | .ilike => "ILIKE"
  | .isNull => "IS NULL"
  | .isNotNull => "IS NOT NULL"
  | .distinct => "DISTINCT"

inductive Token where
  | keyword (word : Keyword)
  | comma
  | dot
  | star
  | leftParen
  | rightParen
  | semicolon
  | space
  | relation (relation : Relation)
  /-- An arithmetic operator. -/
  | operator (sign : String)
  /-- A table or a column. -/
  | name (text : String)
  /-- A title, always between quotes. -/
  | label (title : String)
  | literal (value : Literal)
  | function (text : String)

/-- The text of a literal; what is not a finite number is written as a missing value. -/
def Literal.sql : Literal → String
  | .int n => toString n
  | .real x => (Decimal.format? .sql x).getD "NULL"
  | .text s => quotedText s
  | .bool b => if b then "TRUE" else "FALSE"
  | .null => "NULL"

namespace Token

/-- The keyword of matches without regard to case, which only one of the dialects has. -/
def isMatching : Token → Bool
  | .keyword .ilike => true
  | _ => false

def sql : Token → String
  | .keyword word => word.text
  | .comma => ","
  | .dot => "."
  | .star => "*"
  | .leftParen => "("
  | .rightParen => ")"
  | .semicolon => ";"
  | .space => " "
  | .relation r => r.sign
  | .operator sign => sign
  | .name text => nameText text
  | .label title => quotedName title
  | .literal value => value.sql
  | .function text => Text.upper text

end Token

/-- The text of a list of tokens. -/
def textOf (tokens : List Token) : String :=
  String.join (tokens.map Token.sql)

end Barometer.Sql
