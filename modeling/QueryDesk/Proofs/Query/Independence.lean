import QueryDesk.Proofs.Query.Part

/-! # Edits that do not depend on each other

An edit of a part looks at the tables and at that part and nowhere else: `Step.of_same_part` makes the same
step in any query that has the same tables and the same part, and `edit_of_same_part` says so of declined edits
too. So edits of different parts may be made in either order, whether they are accepted or not, and so may
settings of different output columns, each of which is a function of the one selection it sets
(`edit_of_replace_column`). `edit_comm_of_independent` puts both together.
-/

set_option autoImplicit false

namespace QueryDesk

/-- **Edits that do not depend on each other**: they change different parts, neither of them the tables, or
they set different output columns. -/
inductive Edit.Independent (a b : Edit) : Prop
  | parts {p p' : Part} {change change' : Change} (first : a.change? = some (p, change))
      (second : b.change? = some (p', change')) (different : p ≠ p') (keeps : p ≠ .tables)
      (keeps' : p' ≠ .tables)
  | columns {index index' : Nat} (first : a.change? = some (.columns, .replace index))
      (second : b.change? = some (.columns, .replace index')) (different : index ≠ index')

namespace Query

variable {schema : Schema} {q q' r : Query} {e : Edit} {p : Part} {change : Change}

/-! ## What an edit looks at -/

/-- **A step looks at the tables and at its part alone**: it is made in the same way wherever these are the
same. -/
theorem Step.of_same_part (h : Step schema q e r) (he : e.change? = some (p, change))
    (tables : q'.content .tables = q.content .tables) (same : q'.content p = q.content p) :
    Step schema q' e (q'.put (r.content p)) := by
  obtain ⟨_, _, _, _, _, _, _, _⟩ := q
  obtain ⟨_, _, _, _, _, _, _, _⟩ := q'
  cases tables
  -- the checks are then the same ones, word for word
  cases h with
  | removeTable => cases he
  | addTable known new => cases he; exact .addTable known new
  | addJoin source target new => cases he; cases same; exact .addJoin source target new
  | removeJoin there => cases he; cases same; exact .removeJoin there
  | addColumn known => cases he; cases same; exact .addColumn known
  | setColumn there => cases he; cases same; exact .setColumn there
  | removeColumn there => cases he; cases same; exact .removeColumn there
  | moveColumn moved => cases he; cases same; exact .moveColumn moved
  | setAggregation there legal => cases he; cases same; exact .setAggregation there legal
  | setInterval there legal => cases he; cases same; exact .setInterval there legal
  | setLabel there => cases he; cases same; exact .setLabel there
  | addFilter known => cases he; cases same; exact .addFilter known
  | updateFilter there known => cases he; cases same; exact .updateFilter there known
  | removeFilter there => cases he; cases same; exact .removeFilter there
  | addSort known new => cases he; cases same; exact .addSort known new
  | updateSort there known new => cases he; cases same; exact .updateSort there known new
  | removeSort there => cases he; cases same; exact .removeSort there
  | addGrouping known new => cases he; cases same; exact .addGrouping known new
  | removeGrouping there => cases he; cases same; exact .removeGrouping there
  | setLimit => cases he; exact .setLimit
  | setOffset => cases he; exact .setOffset

/-- What an edit makes of a part, declined or not, it makes of it in every query with the same tables. -/
theorem edit_of_same_part (he : e.change? = some (p, change))
    (tables : q'.content .tables = q.content .tables) (same : q'.content p = q.content p) :
    q'.edit schema e = q'.put ((q.edit schema e).content p) := by
  cases hr : q.edit? schema e with
  | some r =>
      have step := (edit?_eq_some_iff.mp hr).of_same_part he tables same
      rw [edit_of_eq_some hr, edit_of_eq_some (edit?_eq_some_iff.mpr step)]
  | none =>
      have hr' : q'.edit? schema e = none := by
        rw [Option.eq_none_iff_forall_ne_some]
        intro r' hr'
        -- were the edit accepted here, it would be accepted there
        have step := (edit?_eq_some_iff.mp hr').of_same_part he tables.symm same.symm
        rw [edit?_eq_some_iff.mpr step] at hr
        cases hr
      rw [edit_of_eq_none hr, edit_of_eq_none hr', ← same, put_content]

/-! ## Edits of different parts -/

theorem edit_comm_of_parts {a b : Edit} {p p' : Part} {change change' : Change}
    (ha : a.change? = some (p, change)) (hb : b.change? = some (p', change')) (different : p ≠ p')
    (keeps : p ≠ .tables) (keeps' : p' ≠ .tables) :
    (q.edit schema a).edit schema b = (q.edit schema b).edit schema a := by
  set c := (q.edit schema a).content p
  set c' := (q.edit schema b).content p'
  have hc : c.part = p := part_content _ _
  have hc' : c'.part = p' := part_content _ _
  have hqa : q.edit schema a = q.put c := edit_of_same_part ha rfl rfl
  have hqb : q.edit schema b = q.put c' := edit_of_same_part hb rfl rfl
  calc (q.edit schema a).edit schema b
      = (q.put c).edit schema b := by rw [hqa]
    _ = (q.put c).put c' :=
        edit_of_same_part hb (content_put_of_ne (hc ▸ keeps.symm))
          (content_put_of_ne (hc ▸ different.symm))
    _ = (q.put c').put c := put_comm (by rwa [hc, hc'])
    _ = (q.put c').edit schema a :=
        (edit_of_same_part ha (content_put_of_ne (hc' ▸ keeps'.symm))
          (content_put_of_ne (hc' ▸ different))).symm
    _ = (q.edit schema b).edit schema a := by rw [hqb]

/-! ## Settings of output columns -/

theorem getD_changeColumn? (q : Query) (index : Nat) (f : Selection → Option Selection) :
    (q.changeColumn? index f).getD q =
      { q with columns := q.columns.modify index fun s => (f s).getD s } := by
  rw [List.modify_eq_set_getElem?]
  cases hs : q.columns[index]? with
  | none => simp [changeColumn?, hs]
  | some s =>
      obtain ⟨hindex, rfl⟩ := List.getElem?_eq_some_iff.mp hs
      cases hf : f q.columns[index] with
      | none => simp [changeColumn?, hs, hf]
      | some s' => simp [changeColumn?, hs, hf]

/-- What a setting of an output column looks at beside the selection is the tables: a query with nothing in it
but these does for it. -/
theorem edit?_of_replace_column (schema : Schema) {index : Nat}
    (he : e.change? = some (.columns, .replace index)) :
    ∃ f : List QueryTable → Selection → Option Selection, ∀ q : Query,
      q.edit? schema e = q.changeColumn? index (f q.tables) := by
  cases e with
  | setColumn _ column =>
      cases he
      exact ⟨fun tables s => some (({ empty with tables } : Query).reselect schema s column),
        fun _ => rfl⟩
  | setAggregation _ aggregation =>
      cases he
      exact ⟨fun tables s =>
        if (({ empty with tables } : Query).categoryOf schema s).allows aggregation then
          some { s with aggregation } else none, fun _ => rfl⟩
  | setInterval _ interval =>
      cases he
      exact ⟨fun tables s =>
        if interval.isSome && !(({ empty with tables } : Query).categoryOf schema s).isTruncatable
        then none else some { s with interval }, fun _ => rfl⟩
  | setLabel _ label =>
      cases he
      exact ⟨fun _ s => some { s with label := usableLabel label }, fun _ => rfl⟩
  | _ => cases he

/-- **A setting of an output column** makes of the selection at its index a function of it and of the
tables. -/
theorem edit_of_replace_column (schema : Schema) {index : Nat}
    (he : e.change? = some (.columns, .replace index)) :
    ∃ f : List QueryTable → Selection → Selection, ∀ q : Query,
      q.edit schema e = { q with columns := q.columns.modify index (f q.tables) } := by
  obtain ⟨f, hf⟩ := edit?_of_replace_column schema he
  refine ⟨fun tables s => (f tables s).getD s, fun q => ?_⟩
  rw [edit, hf q, getD_changeColumn?]

theorem edit_comm_of_columns {a b : Edit} {index index' : Nat}
    (ha : a.change? = some (.columns, .replace index))
    (hb : b.change? = some (.columns, .replace index')) (different : index ≠ index') :
    (q.edit schema a).edit schema b = (q.edit schema b).edit schema a := by
  obtain ⟨f, hf⟩ := edit_of_replace_column schema ha
  obtain ⟨g, hg⟩ := edit_of_replace_column schema hb
  rw [hf q, hg q, hf, hg]
  show ({ q with columns := (q.columns.modify index (f q.tables)).modify index' (g q.tables) } : Query) =
    { q with columns := (q.columns.modify index' (g q.tables)).modify index (f q.tables) }
  rw [List.modify_modify_ne _ _ _ different]

/-! ## Both -/

/-- **Independent edits commute**, whatever the query is and whether they are accepted or declined. -/
theorem edit_comm_of_independent (schema : Schema) (q : Query) {a b : Edit} (h : a.Independent b) :
    (q.edit schema a).edit schema b = (q.edit schema b).edit schema a := by
  cases h with
  | parts first second different keeps keeps' =>
      exact edit_comm_of_parts first second different keeps keeps'
  | columns first second different => exact edit_comm_of_columns first second different

/-- Settings of two output columns, and an entry of the order beside the removal of an output column that is not
there. -/
theorem edit_comm_shop :
    (Edit.setColumn 0 "amount").Independent (.setLabel 1 (some "month")) ∧
      (shopQuery.edit shopSchema (.setColumn 0 "amount")).edit shopSchema (.setLabel 1 (some "month")) =
        (shopQuery.edit shopSchema (.setLabel 1 (some "month"))).edit shopSchema (.setColumn 0 "amount") ∧
      (Edit.removeColumn 2).Independent (.addSort ⟨"t1", "amount", .asc⟩) ∧
      shopQuery.edit? shopSchema (.removeColumn 2) = none ∧
      (shopQuery.edit shopSchema (.removeColumn 2)).edit shopSchema (.addSort ⟨"t1", "amount", .asc⟩) =
        (shopQuery.edit shopSchema (.addSort ⟨"t1", "amount", .asc⟩)).edit shopSchema (.removeColumn 2) := by
  have settings : (Edit.setColumn 0 "amount").Independent (.setLabel 1 (some "month")) :=
    .columns rfl rfl (by decide)
  have parts : (Edit.removeColumn 2).Independent (.addSort ⟨"t1", "amount", .asc⟩) :=
    .parts rfl rfl (by decide) (by decide) (by decide)
  exact ⟨settings, edit_comm_of_independent shopSchema shopQuery settings, parts, by decide,
    edit_comm_of_independent shopSchema shopQuery parts⟩

end Query

end QueryDesk
