import Barometer.Store.Evaluation

/-!
# Contexts that agree

The value of an expression depends on its context through names alone: what a path stands for, and
the affinity that it has. What a row holds beyond the fields of its query cannot be named. Nor can a
row of an enclosing query with the same fields, since a name is looked up in the nearest query
first.
-/

namespace Barometer

namespace Store

theorem Header.lt_length_of_mem_places {test : Field → Bool} {header : Header} {i : Nat}
    (h : i ∈ header.places test) : i < header.length := by
  obtain ⟨⟨field, index⟩, hentry, rfl⟩ := List.mem_map.mp h
  exact List.snd_lt_of_mem_zipIdx (List.mem_filter.mp hentry).1

/-- What is found is a field. -/
theorem Header.lt_length_of_find {header : Header} {path : List Part} {i : Nat}
    (h : header.find path = .at i) : i < header.length := by
  unfold find at h
  split at h
  · rename_i hplaces
    cases h
    exact lt_length_of_mem_places (hplaces ▸ List.mem_cons_self)
  · cases h
  · split at h
    · rename_i hplaces
      cases h
      exact lt_length_of_mem_places (hplaces ▸ List.mem_cons_self)
    · cases h
    · split at h
      · rename_i hplaces
        cases h
        exact lt_length_of_mem_places (hplaces ▸ List.mem_cons_self)
      · cases h

namespace Context

/-- Two contexts in which every path means the same. -/
structure Agree (ctx ctx' : Context) : Prop where
  lookup : ∀ path, ctx.lookup path = ctx'.lookup path
  affinity : ∀ path, Affinity.ofPath ctx.headers path = Affinity.ofPath ctx'.headers path

namespace Agree

variable {ctx ctx' ctx'' : Context}

theorem trans (h : Agree ctx ctx') (h' : Agree ctx' ctx'') : Agree ctx ctx'' where
  lookup path := (h.lookup path).trans (h'.lookup path)
  affinity path := (h.affinity path).trans (h'.affinity path)

/-- Contexts that look paths up alike read all names alike. -/
theorem read (h : Agree ctx ctx') (reading : Reading) : ctx.read reading = ctx'.read reading := by
  cases reading with
  | path parts => exact h.lookup parts
  | _ => rfl

theorem affinity_reading (h : Agree ctx ctx') (reading : Reading) :
    Affinity.ofReading ctx.headers reading = Affinity.ofReading ctx'.headers reading := by
  cases reading with
  | path parts => exact h.affinity parts
  | _ => rfl

end Agree

/-- Two contexts in which the names of a list mean the same. -/
structure AgreeOn (readings : List Reading) (ctx ctx' : Context) : Prop where
  read : ∀ reading ∈ readings, ctx.read reading = ctx'.read reading
  affinity : ∀ reading ∈ readings,
    Affinity.ofReading ctx.headers reading = Affinity.ofReading ctx'.headers reading

theorem Agree.on {ctx ctx' : Context} (h : Agree ctx ctx') (readings : List Reading) :
    AgreeOn readings ctx ctx' where
  read reading _ := h.read reading
  affinity reading _ := h.affinity_reading reading

namespace AgreeOn

variable {l r : List Reading} {ctx ctx' : Context}

theorem left (h : AgreeOn (l ++ r) ctx ctx') : AgreeOn l ctx ctx' where
  read reading hreading := h.read reading (List.mem_append_left r hreading)
  affinity reading hreading := h.affinity reading (List.mem_append_left r hreading)

theorem right (h : AgreeOn (l ++ r) ctx ctx') : AgreeOn r ctx ctx' where
  read reading hreading := h.read reading (List.mem_append_right l hreading)
  affinity reading hreading := h.affinity reading (List.mem_append_right l hreading)

end AgreeOn

/-- A row counts as far as its query has fields. -/
theorem agree_of_getD {header : Header} {group group' : List Row} {row row' : Row}
    (hrow : ∀ i < header.length, row.getD i .null = row'.getD i .null) :
    Agree [{ header, group, row }] [{ header, group := group', row := row' }] where
  lookup path := by
    simp only [lookup]
    split
    · rename_i i hfind
      exact hrow i (Header.lt_length_of_find hfind)
    · rfl
    · rfl
  affinity path := rfl

/-- What stands behind the fields of a row is not looked at. -/
theorem agree_of_take {header : Header} (group group' : List Row) (row : Row) :
    Agree [{ header, group, row := row.take header.length }]
      [{ header, group := group', row }] := by
  refine agree_of_getD fun i hi ↦ ?_
  rw [List.getD_eq_getElem?_getD, List.getD_eq_getElem?_getD, List.getElem?_take_of_lt hi]

/-- An enclosing query with the fields of the inner one is out of reach. -/
theorem agree_of_header_eq {level outer : Level} (h : outer.header = level.header) :
    Agree [level, outer] [level] where
  lookup path := by
    simp only [lookup, h]
    cases level.header.find path <;> rfl
  affinity path := by
    have hsame (f : Header → Option Field) :
        [level.header, level.header].findSome? f = [level.header].findSome? f := by
      rw [List.findSome?_cons, List.findSome?_cons]
      cases f level.header <;> rfl
    simp only [headers, Affinity.ofPath, List.map_cons, List.map_nil, h, hsame]

end Context

end Store

namespace Sql

open Store (Context)

/-- An affinity depends on the names in an expression, like its value. -/
theorem Expr.affinity_congr_on {ctx ctx' : Context} (e : Expr)
    (h : Context.AgreeOn e.readings ctx ctx') :
    e.affinity ctx.headers = e.affinity ctx'.headers := by
  match e with
  | .column table name => exact h.affinity _ List.mem_cons_self
  | .literal v =>
    rw [readings] at h
    rw [affinity, affinity]
    cases hreading : v.reading? with
    | none => rfl
    | some reading => exact h.affinity reading (by simp [hreading])
  | .operation _ [e] =>
    rw [readings, readingsAll] at h
    exact affinity_congr_on e h.left
  | .operation _ [] => rfl
  | .operation _ (_ :: _ :: _) => rfl
  | .compare _ _ _ => rfl
  | .isNull _ _ => rfl
  | .like _ _ _ => rfl
  | .junction _ _ => rfl
  | .call _ _ _ => rfl
  | .cases _ _ => rfl
  | .subquery _ => rfl
  | .star => rfl
  | .always => rfl

mutual

/-- The value of an expression depends on what its names mean. -/
theorem Expr.value_congr_on {ctx ctx' : Context} (e : Expr)
    (h : Context.AgreeOn e.readings ctx ctx') : e.value ctx = e.value ctx' := by
  cases e with
  | column table name => exact h.read _ List.mem_cons_self
  | literal v =>
    rw [readings] at h
    rw [Expr.value, Expr.value, Literal.read, Literal.read]
    cases hreading : v.reading? with
    | none => rfl
    | some reading => exact h.read reading (by simp [hreading])
  | operation sign args =>
    rw [readings] at h
    rw [Expr.value, Expr.value, Expr.values_congr_on args h]
  | compare relation left right =>
    rw [readings] at h
    simp only [Expr.value, Expr.jointAffinity, Expr.affinity_congr_on left h.left,
      Expr.affinity_congr_on right h.right, Expr.value_congr_on left h.left,
      Expr.value_congr_on right h.right]
  | isNull operand negated =>
    rw [readings] at h
    rw [Expr.value, Expr.value, Expr.value_congr_on operand h]
  | like operand pattern negated =>
    rw [readings] at h
    rw [Expr.value, Expr.value, Expr.value_congr_on operand h.left,
      Expr.value_congr_on pattern h.right]
  | junction connective children =>
    rw [readings] at h
    rw [Expr.value, Expr.value, Expr.values_congr_on children h]
  | call function args distinct => rfl
  | cases arms otherwise =>
    rw [readings] at h
    rw [Expr.value, Expr.value, Expr.optionalValue_congr_on otherwise h.right,
      Expr.caseValue_congr_on _ arms h.left]
  | subquery query => rfl
  | star => rfl
  | always => rfl

theorem Expr.values_congr_on {ctx ctx' : Context} (es : List Expr)
    (h : Context.AgreeOn (Expr.readingsAll es) ctx ctx') :
    Expr.values ctx es = Expr.values ctx' es := by
  cases es with
  | nil => rfl
  | cons e rest =>
    rw [readingsAll] at h
    rw [Expr.values, Expr.values, Expr.value_congr_on e h.left, Expr.values_congr_on rest h.right]

theorem Expr.caseValue_congr_on {ctx ctx' : Context} (otherwise : Store.Value)
    (arms : List (Expr × Expr)) (h : Context.AgreeOn (Expr.readingsArms arms) ctx ctx') :
    Expr.caseValue ctx otherwise arms = Expr.caseValue ctx' otherwise arms := by
  match arms with
  | [] => rfl
  | (condition, result) :: rest =>
    rw [readingsArms] at h
    rw [Expr.caseValue, Expr.caseValue, Expr.value_congr_on condition h.left.left,
      Expr.value_congr_on result h.left.right, Expr.caseValue_congr_on otherwise rest h.right]

theorem Expr.optionalValue_congr_on {ctx ctx' : Context} (e : Option Expr)
    (h : Context.AgreeOn (Expr.readingsOptional e) ctx ctx') :
    Expr.optionalValue ctx e = Expr.optionalValue ctx' e := by
  cases e with
  | none => rfl
  | some e => exact Expr.value_congr_on e h

end

/-- An expression has the same value in contexts that agree. -/
theorem Expr.value_congr {ctx ctx' : Context} (h : ctx.Agree ctx') (e : Expr) :
    e.value ctx = e.value ctx' :=
  e.value_congr_on (h.on e.readings)

end Sql

end Barometer
