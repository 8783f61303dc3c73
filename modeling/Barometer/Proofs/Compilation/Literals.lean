import Barometer.Proofs.Compilation.Conditional
import Barometer.Proofs.Compilation.Statements
import Barometer.Proofs.Sql.Texts
import Barometer.Proofs.Text.Blanks

/-!
# The literals of a query

A text in a query, unless it is the label of a case, is the canonical text of a scalar of the
indicator, whichever way it got there: as the operand of an operation, of a comparison or of a
match. So it holds no quotes, nothing invisible and no blanks but single spaces between words.
-/

namespace Barometer

open Sql (Expr)

/-- Whether a text is the canonical text of one of some scalars. -/
def Scalar.Form (scalars : List Scalar) (t : String) : Prop :=
  ∃ value ∈ scalars, value.canonicalText? = some t

namespace Scalar.Form

variable {scalars others : List Scalar} {t : String}

theorem mono (h : Form scalars t) (hsubset : scalars ⊆ others) : Form others t := by
  obtain ⟨value, hvalue, hform⟩ := h
  exact ⟨value, hsubset hvalue, hform⟩

theorem append_left (h : Form scalars t) : Form (scalars ++ others) t :=
  h.mono (List.subset_append_left _ _)

theorem append_right (h : Form others t) : Form (scalars ++ others) t :=
  h.mono (List.subset_append_right _ _)

theorem flatMap {α : Type} {xs : List α} {f : α → List Scalar} {x : α} (hx : x ∈ xs)
    (h : Form (f x) t) : Form (xs.flatMap f) t :=
  h.mono fun _ hvalue ↦ List.mem_flatMap.mpr ⟨x, hx, hvalue⟩

end Scalar.Form

namespace Expression

variable {α : Type}

mutual

/-- The literals of an expression outside of its aggregates, from left to right. -/
def literals : Expression α → List Scalar
  | .literal value => [value]
  | .column _ => []
  | .operation _ args => literalsOf args
  | .aggregate _ => []

def literalsOf : List (Expression α) → List Scalar
  | [] => []
  | arg :: rest => arg.literals ++ literalsOf rest

end

end Expression

namespace Condition

mutual

/-- The scalars of a condition, at any depth. -/
def scalars : Condition → List Scalar
  | .empty => []
  | .junction _ children => scalarsAll children
  | .compare _ left right => Expression.literals left ++ Expression.literals right

def scalarsAll : List Condition → List Scalar
  | [] => []
  | child :: rest => child.scalars ++ scalarsAll rest

end

end Condition

/-- The scalars of the two conditions of an aggregate. -/
def Aggregation.scalars (a : Aggregation) : List Scalar :=
  (a.subject.toList.flatMap fun subject ↦ subject.conditions.scalars) ++ a.condition.scalars

/-- The scalars of a column. -/
def ColumnBody.scalars : ColumnBody → List Scalar
  | .groupBy value => Expression.literals value
  | .cases arms => arms.flatMap fun arm ↦ arm.condition.scalars
  | .aggregation measure =>
    Expression.literals measure ++ measure.aggregates.flatMap Aggregation.scalars

/-- The scalars of an indicator: of the conditions of its subject, and of its columns. -/
def Indicator.scalars (indicator : Indicator) : List Scalar :=
  indicator.subject.conditions.scalars ++
    indicator.columns.flatMap fun column ↦ column.body.scalars

variable {t : String}

/-- The text of a literal is canonical. -/
theorem Scalar.canonicalText?_of_mem_texts {value : Scalar} (h : t ∈ value.toSql.texts) :
    value.canonicalText? = some t := by
  cases value with
  | text s =>
    rw [toSql] at h
    rw [canonicalText?]
    cases hform : Text.Canonical.text? s with
    | none =>
      rw [hform] at h
      cases h
    | some form =>
      rw [hform] at h
      rw [List.mem_singleton.mp h]
  | real x =>
    rw [toSql] at h
    split at h <;> cases h
  | _ => cases h

namespace Expression

variable {α β ε : Type}

mutual

/-- The texts of an expression outside of its aggregates are those of its literals. -/
theorem mem_texts_toSql {leaf : α → Expr} (e : Expression α) (h : t ∈ (toSql leaf e).texts) :
    Scalar.Form e.literals t ∨ ∃ a ∈ e.aggregates, t ∈ (leaf a).texts := by
  cases e with
  | literal value =>
    exact .inl ⟨value, List.mem_singleton_self value, Scalar.canonicalText?_of_mem_texts h⟩
  | column name => cases h
  | operation op args => exact mem_textsAll_toSqlAll args h
  | aggregate a => exact .inr ⟨a, List.mem_singleton_self a, h⟩

/-- A text stands in one of the literals or within an aggregate. -/
theorem mem_textsAll_toSqlAll {leaf : α → Expr} (args : List (Expression α))
    (h : t ∈ Expr.textsAll (toSqlAll leaf args)) :
    Scalar.Form (literalsOf args) t ∨ ∃ a ∈ aggregatesOf args, t ∈ (leaf a).texts := by
  cases args with
  | nil => cases h
  | cons arg rest =>
    rw [toSqlAll, Expr.textsAll, List.mem_append] at h
    rw [literalsOf, aggregatesOf]
    rcases h with h | h
    · rcases mem_texts_toSql arg h with hform | ⟨a, ha, ht⟩
      · exact .inl hform.append_left
      · exact .inr ⟨a, List.mem_append_left _ ha, ht⟩
    · rcases mem_textsAll_toSqlAll rest h with hform | ⟨a, ha, ht⟩
      · exact .inl hform.append_right
      · exact .inr ⟨a, List.mem_append_right _ ha, ht⟩

end

mutual

/-- A traversal keeps the literals outside of aggregates. -/
theorem literals_traverse {f : α → Except ε β} {e : Expression α} {e' : Expression β}
    (h : traverse f e = .ok e') : e'.literals = e.literals := by
  cases e with
  | literal value =>
    cases h
    rfl
  | column name =>
    cases h
    rfl
  | operation op args =>
    obtain ⟨args', hargs, rfl⟩ := Outcome.map_eq_ok.mp h
    exact literalsOf_traverseAll hargs
  | aggregate a =>
    obtain ⟨b, -, rfl⟩ := Outcome.map_eq_ok.mp h
    rfl

theorem literalsOf_traverseAll {f : α → Except ε β} {args : List (Expression α)}
    {args' : List (Expression β)} (h : traverseAll f args = .ok args') :
    literalsOf args' = literalsOf args := by
  cases args with
  | nil =>
    cases h
    rfl
  | cons arg rest =>
    obtain ⟨e, he, h⟩ := Outcome.bind_eq_ok.mp h
    obtain ⟨es, hes, h⟩ := Outcome.bind_eq_ok.mp h
    cases h
    rw [literalsOf, literals_traverse he, literalsOf_traverseAll hes, literalsOf]

end

end Expression

namespace Operand

theorem mem_texts_toSql (e : Operand) (h : t ∈ e.toSql.texts) : Scalar.Form e.literals t := by
  rcases Expression.mem_texts_toSql e h with hform | ⟨a, -, -⟩
  · exact hform
  · exact a.elim

/-- A pattern is the canonical text of a literal, whatever its type. -/
theorem mem_texts_toPattern (e : Operand) (h : t ∈ e.toPattern.texts) :
    Scalar.Form e.literals t := by
  cases e with
  | literal value =>
    rw [toPattern] at h
    cases hform : value.canonicalText? with
    | none =>
      rw [hform] at h
      exact mem_texts_toSql (.literal value) h
    | some form =>
      rw [hform] at h
      rw [List.mem_singleton.mp h]
      exact ⟨value, List.mem_singleton_self value, hform⟩
  | column name => cases h
  | operation op args => exact mem_texts_toSql (.operation op args) h
  | aggregate a => exact a.elim

end Operand

/-- A pattern that is made of a number or a truth value is the canonical text of it. -/
theorem Comparison.mem_texts_toSql (op : Comparison) (left right : Operand)
    (h : t ∈ (op.toSql left right).texts) : Scalar.Form (left.literals ++ right.literals) t := by
  have hlike {e pattern : Operand} {negated : Bool}
      (h : t ∈ (Expr.like e.toSql pattern.toPattern negated).texts) :
      Scalar.Form e.literals t ∨ Scalar.Form pattern.literals t := by
    rw [Expr.texts, List.mem_append] at h
    exact h.imp e.mem_texts_toSql pattern.mem_texts_toPattern
  have hsides (h : Scalar.Form left.literals t ∨ Scalar.Form right.literals t) :
      Scalar.Form (left.literals ++ right.literals) t :=
    h.elim Scalar.Form.append_left Scalar.Form.append_right
  unfold toSql at h
  split at h
  · exact (left.mem_texts_toSql h).append_left
  · split at h
    · exact hsides (hlike h)
    · exact hsides (hlike h)
    · split at h
      · exact hsides (hlike h)
      · split at h
        · exact hsides (hlike h).symm
        · rw [Expr.texts, List.mem_append] at h
          exact hsides (h.imp left.mem_texts_toSql right.mem_texts_toSql)

namespace Condition

mutual

/-- Every text in a condition comes from one of its scalars. -/
theorem mem_texts_toSql (c : Condition) (h : t ∈ c.toSql.texts) : Scalar.Form c.scalars t := by
  match c with
  | .empty => cases h
  | .junction kind [] => cases kind <;> cases h
  | .junction kind (child :: rest) =>
    have hjoined (h : t ∈ Expr.textsAll (toSqlAll (child :: rest))) :
        Scalar.Form (scalars (.junction kind (child :: rest))) t :=
      mem_textsAll_toSqlAll (child :: rest) h
    rcases rest with _ | ⟨next, others⟩
    · cases kind with
      | list =>
        rw [toSql] at h
        exact (mem_texts_toSql child h).append_left
      | and => exact hjoined h
      | or => exact hjoined h
    · cases kind <;> exact hjoined h
  | .compare op left right => exact op.mem_texts_toSql left right h

theorem mem_textsAll_toSqlAll (cs : List Condition) (h : t ∈ Expr.textsAll (toSqlAll cs)) :
    Scalar.Form (scalarsAll cs) t := by
  match cs with
  | [] => cases h
  | child :: rest =>
    rw [toSqlAll, Expr.textsAll, List.mem_append] at h
    rcases h with h | h
    · exact (mem_texts_toSql child h).append_left
    · exact (mem_textsAll_toSqlAll rest h).append_right

end

theorem mem_textsOption_filter (c : Condition) (h : t ∈ Expr.textsOption c.filter) :
    Scalar.Form c.scalars t := by
  unfold filter at h
  split at h
  · cases h
  · exact c.mem_texts_toSql h

theorem scalarsAll_eq_flatMap (cs : List Condition) : scalarsAll cs = cs.flatMap scalars := by
  induction cs with
  | nil => rfl
  | cons c rest ih => rw [scalarsAll, ih, List.flatMap_cons]

/-- A conjunction has the scalars of its parts, and of no others. -/
theorem scalars_conjunction_subset (cs : List Condition) :
    (conjunction cs).scalars ⊆ cs.flatMap scalars := by
  have hkept : (cs.filter fun c ↦ !c.isEmpty).flatMap scalars ⊆ cs.flatMap scalars := by
    intro value hvalue
    obtain ⟨c, hc, hmem⟩ := List.mem_flatMap.mp hvalue
    exact List.mem_flatMap.mpr ⟨c, (List.mem_filter.mp hc).1, hmem⟩
  unfold conjunction
  split
  · exact fun value hvalue ↦ nomatch hvalue
  · rename_i c hkeep
    rw [hkeep, List.flatMap_singleton] at hkept
    exact hkept
  · rw [scalars, scalarsAll_eq_flatMap]
    exact hkept

end Condition

/-- Tables are joined on columns, without any texts. -/
theorem Options.textsAll_joinsAfter (options : Options) (joined rest : List String) :
    Sql.Join.textsAll (options.joinsAfter joined rest) = [] := by
  induction rest generalizing joined with
  | nil => rfl
  | cons table rest ih =>
    have hpredicate : (options.joinPredicate joined table).texts = [] := by
      rw [joinPredicate_eq]
      cases options.link joined table <;> rfl
    rw [joinsAfter, Sql.Join.textsAll, Expr.textsOption, hpredicate, ih, List.append_nil]

theorem Options.textsAll_of_sources {options : Options} {tables : List String} {first : String}
    {joins : List Sql.Join} (h : options.sources tables = .ok (first, joins)) :
    Sql.Join.textsAll joins = [] := by
  cases tables with
  | nil => cases h
  | cons first rest =>
    cases h
    exact options.textsAll_joinsAfter [first] rest

theorem Statistic.texts_call {statistic : Statistic} {arg : Option Expr} {call : Expr}
    (h : statistic.call arg = .ok call) : call.texts = Expr.textsOption arg := by
  cases arg with
  | none =>
    cases statistic <;> cases h
    rfl
  | some arg => cases statistic <;> cases h <;> exact List.append_nil _

namespace Aggregation

variable {options : Options} {a : Aggregation} {e : Expr}

/-- An aggregate collects ones or a column, which are no texts. -/
theorem collected_eq_ok {value : Expr} (h : a.collected = .ok value) :
    value = .literal (.int 1) ∨ ∃ column, value = columnExpr column := by
  unfold collected at h
  split at h
  · cases h
    exact .inl rfl
  · split at h
    · cases h
      exact .inr ⟨_, rfl⟩
    · cases h

theorem texts_columnExpr (column : Option String) :
    Expr.textsOption (column.map columnExpr) = [] := by
  cases column <;> rfl

/-- The condition of an aggregate and those of its subject bring texts of their own. -/
theorem mem_texts_toSql (h : a.toSql options = .ok e) (ht : t ∈ e.texts) :
    Scalar.Form a.scalars t := by
  cases hsubject : a.subject with
  | some subject =>
    obtain ⟨first, joins, call, hsources, hcall, rfl⟩ := toSql_subject hsubject h
    simp only [Expr.texts, subjectQuery, Sql.Query.texts, Sql.Item.textsAll,
      Statistic.texts_call hcall, texts_columnExpr, Options.textsAll_of_sources hsources,
      Expr.textsAll, List.append_nil, List.nil_append] at ht
    have hscalars : [subject.conditions, a.condition].flatMap Condition.scalars = a.scalars := by
      simp [scalars, hsubject]
    rw [← hscalars]
    exact (Condition.mem_textsOption_filter _ ht).mono (Condition.scalars_conjunction_subset _)
  | none =>
    rw [toSql, hsubject] at h
    cases hcondition : a.condition.isEmpty with
    | true =>
      rw [if_pos hcondition] at h
      rw [Statistic.texts_call h, texts_columnExpr] at ht
      cases ht
    | false =>
      simp only [hcondition, Bool.false_eq_true, if_false] at h
      obtain ⟨value, hvalue, h⟩ := Outcome.bind_eq_ok.mp h
      have hcase : t ∈ a.condition.toSql.texts := by
        rw [Statistic.texts_call h] at ht
        rcases collected_eq_ok hvalue with rfl | ⟨column, rfl⟩ <;>
          simpa [Expr.textsOption, Expr.texts, Expr.textsArms, columnExpr] using ht
      exact (a.condition.mem_texts_toSql hcase).append_right

end Aggregation

/-- Labels do not count. -/
theorem CaseArm.textsArms_toSql (arms : List CaseArm) :
    Expr.textsArms (arms.map CaseArm.toSql) =
      arms.flatMap fun arm ↦ arm.condition.toSql.texts := by
  induction arms with
  | nil => rfl
  | cons arm rest ih => rw [List.map_cons, CaseArm.toSql, textExpr, Expr.textsArms, ih,
      List.flatMap_cons]

/-- Labels are the only texts that stay as they are. -/
theorem ColumnBody.mem_texts_toSql {options : Options} {body : ColumnBody} {e : Expr}
    (h : body.toSql options = .ok e) (ht : t ∈ e.texts) : Scalar.Form body.scalars t := by
  cases body with
  | groupBy value =>
    cases h
    exact Operand.mem_texts_toSql value ht
  | cases arms =>
    cases h
    rw [Expr.texts, CaseArm.textsArms_toSql, Expr.textsOption, List.append_nil,
      List.mem_flatMap] at ht
    obtain ⟨arm, harm, ht⟩ := ht
    exact .flatMap harm (arm.condition.mem_texts_toSql ht)
  | aggregation measure =>
    obtain ⟨traversed, htraversed, rfl⟩ := Outcome.map_eq_ok.mp h
    rcases Expression.mem_texts_toSql traversed ht with hform | ⟨b, hb, ht⟩
    · rw [Expression.literals_traverse htraversed] at hform
      exact hform.append_left
    · obtain ⟨a, ha, hab⟩ := Expression.exists_of_mem_traverse htraversed hb
      exact (Scalar.Form.flatMap ha (Aggregation.mem_texts_toSql hab ht)).append_right

namespace Indicator

/-- The texts of a query are those of its conditions and of its columns. -/
theorem mem_texts_toQuery {options : Options} {indicator : Indicator} {query : Sql.Query}
    (h : indicator.toQuery options = .ok query) (ht : t ∈ query.texts) :
    Scalar.Form indicator.scalars t := by
  obtain ⟨first, exprs, hsources, hexprs, -, hselect, hfilter, hgroupBy⟩ := fields_of_toQuery h
  have hcolumn {e : Expr} (he : e ∈ exprs) (ht : t ∈ e.texts) :
      Scalar.Form indicator.scalars t := by
    obtain ⟨column, hcolumn, hbody⟩ := Outcome.exists_of_mem_mapM hexprs he
    exact (Scalar.Form.flatMap hcolumn (ColumnBody.mem_texts_toSql hbody ht)).append_right
  have hselected : Sql.Item.textsAll query.select = exprs.flatMap Expr.texts := by
    rw [hselect, Sql.Item.textsAll_eq_flatMap,
      map_expr_zipWith indicator.columns (Outcome.length_of_mapM hexprs)]
  rcases query with ⟨select, source, joins, filter, groupBy⟩
  subst hfilter hgroupBy
  rw [Sql.Query.texts, hselected, Options.textsAll_of_sources hsources,
    Expr.textsAll_eq_flatMap, List.append_nil, List.mem_append, List.mem_append, List.mem_flatMap,
    List.mem_flatMap] at ht
  rcases ht with (⟨e, he, ht⟩ | ht) | ⟨e, he, ht⟩
  · exact hcolumn he ht
  · exact (Condition.mem_textsOption_filter _ ht).append_left
  · exact hcolumn (mem_of_mem_groupExprs he) ht

/-- The texts of a query are canonical texts of what the scalars of its indicator are written as.
A canonical text is not empty, is in lower case, and has neither quotes nor controls nor invisible
characters in it, and no blanks but single spaces between two other characters. What has no
canonical text consists of blanks, quotes and invisible characters in compatibility form. -/
theorem texts_toQuery_canonical {options : Options} {indicator : Indicator} {query : Sql.Query}
    (h : indicator.toQuery options = .ok query) :
    (∀ t ∈ query.texts, ∃ value ∈ indicator.scalars, ∃ s,
      value.writtenText? = some s ∧ Text.Canonical.text? s = some t) ∧
    (∀ s t, Text.Canonical.text? s = some t → Text.Canonical.IsPlainText t) ∧
    ∀ s, Text.Canonical.text? s = none ↔ ∀ c ∈ Text.Compatibility.normalForm s.toList,
      Text.isBlank c = true ∨ Text.isQuote c = true ∨
        Text.Canonical.isInvisible c = true := by
  refine ⟨fun t ht ↦ ?_, fun s t ↦ Text.Canonical.isPlainText_of_text?_eq_some,
    Text.Canonical.text?_eq_none_iff⟩
  obtain ⟨value, hvalue, hform⟩ := mem_texts_toQuery h ht
  rw [Scalar.canonicalText?_eq_bind] at hform
  obtain ⟨s, hs, hform⟩ := Option.bind_eq_some_iff.mp hform
  exact ⟨value, hvalue, s, hs, hform⟩

end Indicator

namespace Regions

def indicator : Indicator where
  subject :=
    { tables := ["etudiants"]
      conditions := .compare .eq (.column "pays") (.literal (.text "\"FRANCE\"\r\n  d'Outre-Mer")) }
  columns :=
    [{ title := "Groupe"
       body := .cases
        [{ condition := .compare .like (.column "note") (.literal (.int 15))
           label := "L'ÉLITE" }] }]

/-- Names between quotes, a number as a pattern, and a label with a quote of its own. -/
theorem texts_toQuery_canonical_regions :
    ∃ query, indicator.toQuery .default = .ok query ∧
      query.texts = ["15", "france d outre-mer", "15"] ∧
      ∀ t ∈ query.texts, (∃ value ∈ indicator.scalars, ∃ s,
        value.writtenText? = some s ∧ Text.Canonical.text? s = some t) ∧
          Text.Canonical.IsPlainText t := by
  have hquery : indicator.toQuery .default = .ok _ := rfl
  obtain ⟨hforms, hplain, -⟩ := Indicator.texts_toQuery_canonical hquery
  refine ⟨_, hquery, by decide, fun t ht ↦ ?_⟩
  obtain ⟨value, hvalue, s, hs, hform⟩ := hforms t ht
  exact ⟨⟨value, hvalue, s, hs, hform⟩, hplain s t hform⟩

end Regions

end Barometer
