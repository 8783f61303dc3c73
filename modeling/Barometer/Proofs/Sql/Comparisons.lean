import Barometer.Sql.Query

/-!
# The comparisons in an expression

Every comparison of an expression or a query, at any depth: in the arms of case distinctions, in
arguments of operations and calls, in junctions, in subqueries and in the predicates of joins.
-/

namespace Barometer.Sql

structure Compared where
  relation : Relation
  left : Expr
  right : Expr

mutual

def Expr.comparisons : Expr → List Compared
  | .column _ _ => []
  | .literal _ => []
  | .operation _ args => Expr.comparisonsAll args
  | .compare relation left right =>
    { relation, left, right } :: (left.comparisons ++ right.comparisons)
  | .isNull operand _ => operand.comparisons
  | .like operand pattern _ => operand.comparisons ++ pattern.comparisons
  | .junction _ children => Expr.comparisonsAll children
  | .call _ args _ => Expr.comparisonsAll args
  | .cases arms otherwise => Expr.comparisonsArms arms ++ Expr.comparisonsOption otherwise
  | .subquery query => query.comparisons
  | .star => []
  | .always => []

def Expr.comparisonsAll : List Expr → List Compared
  | [] => []
  | e :: rest => e.comparisons ++ Expr.comparisonsAll rest

def Expr.comparisonsArms : List (Expr × Expr) → List Compared
  | [] => []
  | (condition, value) :: rest =>
    condition.comparisons ++ value.comparisons ++ Expr.comparisonsArms rest

def Expr.comparisonsOption : Option Expr → List Compared
  | none => []
  | some e => e.comparisons

def Item.comparisonsAll : List Item → List Compared
  | [] => []
  | { expr, label := _ } :: rest => expr.comparisons ++ Item.comparisonsAll rest

def Join.comparisonsAll : List Join → List Compared
  | [] => []
  | { table := _, on } :: rest => Expr.comparisonsOption on ++ Join.comparisonsAll rest

def Query.comparisons : Query → List Compared
  | { select, source := _, joins, filter, groupBy } =>
    Item.comparisonsAll select ++ Join.comparisonsAll joins ++ Expr.comparisonsOption filter ++
      Expr.comparisonsAll groupBy

end

/-- Whether an equality, or an inequality, compares with a text that has a wildcard in it. -/
def Compared.IsBlind (c : Compared) : Prop :=
  (c.relation = .eq ∨ c.relation = .ne) ∧
    ∃ s, (c.left = .literal (.text s) ∨ c.right = .literal (.text s)) ∧ '%' ∈ s.toList

end Barometer.Sql
