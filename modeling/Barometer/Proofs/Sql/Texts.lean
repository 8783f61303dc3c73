import Barometer.Sql.Query

/-!
# The texts in a query

Every text that an expression or a query compares, joins, collects or shows as a value, at any
depth. The results of case distinctions that are literals are labels, and do not count.
-/

namespace Barometer.Sql

mutual

def Expr.texts : Expr → List String
  | .column _ _ => []
  | .literal (.text s) => [s]
  | .literal _ => []
  | .operation _ args => Expr.textsAll args
  | .compare _ left right => left.texts ++ right.texts
  | .isNull operand _ => operand.texts
  | .like operand pattern _ => operand.texts ++ pattern.texts
  | .junction _ children => Expr.textsAll children
  | .call _ args _ => Expr.textsAll args
  | .cases arms otherwise => Expr.textsArms arms ++ Expr.textsOption otherwise
  | .subquery query => query.texts
  | .star => []
  | .always => []

def Expr.textsAll : List Expr → List String
  | [] => []
  | e :: rest => e.texts ++ Expr.textsAll rest

/-- The texts of conditions, and of results that are no literals. -/
def Expr.textsArms : List (Expr × Expr) → List String
  | [] => []
  | (condition, .literal _) :: rest => condition.texts ++ Expr.textsArms rest
  | (condition, result) :: rest => condition.texts ++ result.texts ++ Expr.textsArms rest

def Expr.textsOption : Option Expr → List String
  | none => []
  | some e => e.texts

def Item.textsAll : List Item → List String
  | [] => []
  | { expr, label := _ } :: rest => expr.texts ++ Item.textsAll rest

def Join.textsAll : List Join → List String
  | [] => []
  | { table := _, on } :: rest => Expr.textsOption on ++ Join.textsAll rest

def Query.texts : Query → List String
  | { select, source := _, joins, filter, groupBy } =>
    Item.textsAll select ++ Join.textsAll joins ++ Expr.textsOption filter ++
      Expr.textsAll groupBy

end

theorem Expr.textsAll_eq_flatMap (es : List Expr) : Expr.textsAll es = es.flatMap Expr.texts := by
  induction es with
  | nil => rfl
  | cons e rest ih => rw [Expr.textsAll, ih, List.flatMap_cons]

theorem Item.textsAll_eq_flatMap (items : List Item) :
    Item.textsAll items = (items.map Item.expr).flatMap Expr.texts := by
  induction items with
  | nil => rfl
  | cons item rest ih =>
    rcases item with ⟨expr, label⟩
    rw [Item.textsAll, ih, List.map_cons, List.flatMap_cons]

end Barometer.Sql
