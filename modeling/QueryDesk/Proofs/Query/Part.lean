import QueryDesk.Proofs.Query.WellFormed

/-! # The parts of a query

A query has eight parts. `Query.content` reads one of them and `Query.put` writes it, and writing leaves the
other parts alone (`content_put_of_ne`), so that two parts may be written in either order (`put_comm`). Every edit
but the removal of a table belongs to one part, and changes it in one place at most: `Edit.change?` names the part
and the place, `ListChange` says what may happen to a list there, and `edit_changes_one_part` that nothing else
happens.
-/

set_option autoImplicit false

namespace QueryDesk

/-! ## Parts and what is in them -/

/-- **A part of a query.** -/
inductive Part where
  | tables
  | joins
  | columns
  | filters
  | groupings
  | sorts
  | limit
  | offset
deriving DecidableEq

/-- **What a query has in a part.** -/
inductive Content where
  | tables (items : List QueryTable)
  | joins (items : List Join)
  | columns (items : List Selection)
  | filters (items : List Filter)
  | groupings (items : List Grouping)
  | sorts (items : List SortKey)
  | limit (value : Option UInt32)
  | offset (value : Option UInt32)
deriving DecidableEq

namespace Content

/-- The part that the content is for. -/
def part : Content → Part
  | .tables _ => .tables
  | .joins _ => .joins
  | .columns _ => .columns
  | .filters _ => .filters
  | .groupings _ => .groupings
  | .sorts _ => .sorts
  | .limit _ => .limit
  | .offset _ => .offset

/-- The number of entries of a list; a limit and an offset have none. -/
def size : Content → Nat
  | .tables items => items.length
  | .joins items => items.length
  | .columns items => items.length
  | .filters items => items.length
  | .groupings items => items.length
  | .sorts items => items.length
  | .limit _ | .offset _ => 0

end Content

namespace Query

/-- What the query has in a part. -/
def content (q : Query) : Part → Content
  | .tables => .tables q.tables
  | .joins => .joins q.joins
  | .columns => .columns q.columns
  | .filters => .filters q.filters
  | .groupings => .groupings q.groupings
  | .sorts => .sorts q.sorts
  | .limit => .limit q.limit
  | .offset => .offset q.offset

/-- The query with other content of a part. -/
def put (q : Query) : Content → Query
  | .tables tables => { q with tables }
  | .joins joins => { q with joins }
  | .columns columns => { q with columns }
  | .filters filters => { q with filters }
  | .groupings groupings => { q with groupings }
  | .sorts sorts => { q with sorts }
  | .limit limit => { q with limit }
  | .offset offset => { q with offset }

theorem part_content (q : Query) (p : Part) : (q.content p).part = p := by
  cases p <;> rfl

/-- Writing what is there changes nothing. -/
theorem put_content (q : Query) (p : Part) : q.put (q.content p) = q := by
  cases p <;> rfl

/-- A part is left alone where another one is written. -/
theorem content_put_of_ne {q : Query} {c : Content} {p : Part} (h : p ≠ c.part) :
    (q.put c).content p = q.content p := by
  cases c <;> cases p <;> first | rfl | exact absurd rfl h

/-- Two parts may be written in either order. -/
theorem put_comm {q : Query} {c d : Content} (h : c.part ≠ d.part) :
    (q.put c).put d = (q.put d).put c := by
  cases c <;> cases d <;> first | rfl | exact absurd rfl h

end Query

/-! ## Changes of lists -/

/-- **How a part is changed**: an entry is added at the end, taken out, replaced or moved, or else the part is
a single value, which is set. -/
inductive Change where
  | append
  | remove (index : Nat)
  | replace (index : Nat)
  | move (source target : Nat)
  | set
deriving DecidableEq

/-- The places of a list that a change counts on. -/
def Change.indices : Change → List Nat
  | .append | .set => []
  | .remove index | .replace index => [index]
  | .move source target => [source, target]

/-- **One small change of a list**: all entries but one keep their values and their order. -/
inductive ListChange {α : Type} : Change → List α → List α → Prop
  | append (items : List α) (new : α) : ListChange .append items (items ++ [new])
  | remove {index : Nat} {front back : List α} {old : α} (place : front.length = index) :
      ListChange (.remove index) (front ++ old :: back) (front ++ back)
  | replace {index : Nat} {front back : List α} {old new : α} (place : front.length = index) :
      ListChange (.replace index) (front ++ old :: back) (front ++ new :: back)
  | move {source target : Nat} {front back front' back' : List α} {item : α}
      (place : front.length = source) (place' : front'.length = target)
      (others : front' ++ back' = front ++ back) :
      ListChange (.move source target) (front ++ item :: back) (front' ++ item :: back')

section Lists

variable {α : Type} {items changed : List α}

theorem eq_take_append_cons_drop {index : Nat} (h : index < items.length) :
    items = items.take index ++ items[index] :: items.drop (index + 1) := by
  rw [List.getElem_cons_drop h, List.take_append_drop]

theorem listChange_eraseIdx {index : Nat} (h : index < items.length) :
    ListChange (.remove index) items (items.eraseIdx index) := by
  rw [List.eraseIdx_eq_take_drop_succ]
  nth_rewrite 1 [eq_take_append_cons_drop h]
  exact .remove (List.length_take_of_le (Nat.le_of_lt h))

theorem listChange_set {index : Nat} {new : α} (h : index < items.length) :
    ListChange (.replace index) items (items.set index new) := by
  rw [List.set_eq_take_append_cons_drop, if_pos h]
  nth_rewrite 1 [eq_take_append_cons_drop h]
  exact .replace (List.length_take_of_le (Nat.le_of_lt h))

theorem listChange_set_of_getElem? {index : Nat} {old new : α} (h : items[index]? = some old) :
    ListChange (.replace index) items (items.set index new) :=
  listChange_set (List.getElem?_eq_some_iff.mp h).1

theorem listChange_moveItem? {source target : Nat}
    (h : moveItem? items source target = some changed) :
    ListChange (.move source target) items changed := by
  obtain ⟨htarget, item, hitem, rfl⟩ := moveItem?_eq_some_iff.mp h
  obtain ⟨hsource, rfl⟩ := List.getElem?_eq_some_iff.mp hitem
  obtain ⟨front', back', others, place', hinsert⟩ :=
    List.exists_of_modifyTailIdx (List.cons items[source]) (le_length_eraseIdx hsource htarget)
  rw [List.insertIdx, hinsert]
  nth_rewrite 1 [eq_take_append_cons_drop hsource]
  rw [List.eraseIdx_eq_take_drop_succ] at others
  exact .move (List.length_take_of_le (Nat.le_of_lt hsource)) place' others.symm

/-- The places that a change counts on are there. -/
theorem ListChange.lt_length {change : Change} (h : ListChange change items changed) :
    ∀ index ∈ change.indices, index < items.length := by
  cases h with
  | append => exact List.forall_mem_nil _
  | remove place | replace place =>
      subst place
      simp [Change.indices]
  | @move _ _ front back front' back' _ place place' others =>
      have hlength : front'.length + back'.length = front.length + back.length := by
        rw [← List.length_append, others, List.length_append]
      subst place place'
      simp only [Change.indices, List.mem_cons, List.not_mem_nil, or_false, List.length_append,
        List.length_cons]
      rintro index (rfl | rfl) <;> omega

end Lists

/-- **One small change of what is in a part.** -/
inductive Content.Changes : Change → Content → Content → Prop
  | tables {change : Change} {items changed : List QueryTable} (h : ListChange change items changed) :
      Changes change (.tables items) (.tables changed)
  | joins {change : Change} {items changed : List Join} (h : ListChange change items changed) :
      Changes change (.joins items) (.joins changed)
  | columns {change : Change} {items changed : List Selection} (h : ListChange change items changed) :
      Changes change (.columns items) (.columns changed)
  | filters {change : Change} {items changed : List Filter} (h : ListChange change items changed) :
      Changes change (.filters items) (.filters changed)
  | groupings {change : Change} {items changed : List Grouping}
      (h : ListChange change items changed) : Changes change (.groupings items) (.groupings changed)
  | sorts {change : Change} {items changed : List SortKey} (h : ListChange change items changed) :
      Changes change (.sorts items) (.sorts changed)
  | limit (old new : Option UInt32) : Changes .set (.limit old) (.limit new)
  | offset (old new : Option UInt32) : Changes .set (.offset old) (.offset new)

theorem Content.Changes.lt_size {change : Change} {before after : Content}
    (h : before.Changes change after) : ∀ index ∈ change.indices, index < before.size := by
  cases h with
  | tables h | joins h | columns h | filters h | groupings h | sorts h => exact h.lt_length
  | limit | offset => exact List.forall_mem_nil _

/-! ## Edits -/

/-- **The part that an edit changes, and how**; taking out a table changes six parts at once, and has none. -/
def Edit.change? : Edit → Option (Part × Change)
  | .addTable _ => some (.tables, .append)
  | .removeTable _ => none
  | .addJoin _ => some (.joins, .append)
  | .removeJoin index => some (.joins, .remove index)
  | .addColumn _ _ => some (.columns, .append)
  | .setColumn index _ => some (.columns, .replace index)
  | .removeColumn index => some (.columns, .remove index)
  | .moveColumn source target => some (.columns, .move source target)
  | .setAggregation index _ => some (.columns, .replace index)
  | .setInterval index _ => some (.columns, .replace index)
  | .setLabel index _ => some (.columns, .replace index)
  | .addFilter _ => some (.filters, .append)
  | .updateFilter index _ => some (.filters, .replace index)
  | .removeFilter index => some (.filters, .remove index)
  | .addSort _ => some (.sorts, .append)
  | .updateSort index _ => some (.sorts, .replace index)
  | .removeSort index => some (.sorts, .remove index)
  | .addGrouping _ => some (.groupings, .append)
  | .removeGrouping index => some (.groupings, .remove index)
  | .setLimit _ => some (.limit, .set)
  | .setOffset _ => some (.offset, .set)

theorem Edit.exists_change? {e : Edit} (h : ∀ tableId, e ≠ .removeTable tableId) :
    ∃ p change, e.change? = some (p, change) := by
  cases e with
  | removeTable tableId => exact absurd rfl (h tableId)
  | _ => exact ⟨_, _, rfl⟩

namespace Query

variable {schema : Schema} {q r : Query} {e : Edit} {p : Part} {change : Change}

/-- **A step changes its part by one small change, and nothing else.** -/
theorem Step.changes (h : Step schema q e r) (he : e.change? = some (p, change)) :
    (q.content p).Changes change (r.content p) ∧ r = q.put (r.content p) := by
  cases h with
  | removeTable => cases he
  | addTable => cases he; exact ⟨.tables (.append _ _), rfl⟩
  | addJoin => cases he; exact ⟨.joins (.append _ _), rfl⟩
  | addColumn => cases he; exact ⟨.columns (.append _ _), rfl⟩
  | addFilter => cases he; exact ⟨.filters (.append _ _), rfl⟩
  | addSort => cases he; exact ⟨.sorts (.append _ _), rfl⟩
  | addGrouping => cases he; exact ⟨.groupings (.append _ _), rfl⟩
  | removeJoin there => cases he; exact ⟨.joins (listChange_eraseIdx there), rfl⟩
  | removeColumn there => cases he; exact ⟨.columns (listChange_eraseIdx there), rfl⟩
  | removeFilter there => cases he; exact ⟨.filters (listChange_eraseIdx there), rfl⟩
  | removeSort there => cases he; exact ⟨.sorts (listChange_eraseIdx there), rfl⟩
  | removeGrouping there => cases he; exact ⟨.groupings (listChange_eraseIdx there), rfl⟩
  | setColumn there | setAggregation there | setInterval there | setLabel there =>
      cases he
      exact ⟨.columns (listChange_set_of_getElem? there), rfl⟩
  | updateFilter there => cases he; exact ⟨.filters (listChange_set there), rfl⟩
  | updateSort there => cases he; exact ⟨.sorts (listChange_set there), rfl⟩
  | moveColumn moved => cases he; exact ⟨.columns (listChange_moveItem? moved), rfl⟩
  | setLimit => cases he; exact ⟨.limit _ _, rfl⟩
  | setOffset => cases he; exact ⟨.offset _ _, rfl⟩

/-- **Each edit is one small change or nothing.** An edit other than the removal of a table either is declined
and leaves the query as it is, or changes one part by one small change and leaves the seven others; it is
declined where a place it counts on is not there. -/
theorem edit_changes_one_part (schema : Schema) (q : Query) {e : Edit}
    (h : ∀ tableId, e ≠ .removeTable tableId) :
    ∃ p change, e.change? = some (p, change) ∧
      ((q.edit? schema e = none ∧ q.edit schema e = q) ∨
        ((q.edit? schema e).isSome ∧
          (q.content p).Changes change ((q.edit schema e).content p) ∧
          ∀ p', p' ≠ p → (q.edit schema e).content p' = q.content p')) ∧
      ∀ index ∈ change.indices, (q.content p).size ≤ index →
        q.edit? schema e = none ∧ q.edit schema e = q := by
  obtain ⟨p, change, he⟩ := Edit.exists_change? h
  refine ⟨p, change, he, ?_⟩
  cases hr : q.edit? schema e with
  | none =>
      have hsame : q.edit schema e = q := edit_of_eq_none hr
      exact ⟨Or.inl ⟨rfl, hsame⟩, fun _ _ _ => ⟨rfl, hsame⟩⟩
  | some r =>
      obtain ⟨hchanges, hput⟩ := (edit?_eq_some_iff.mp hr).changes he
      rw [edit_of_eq_some hr]
      constructor
      · refine Or.inr ⟨rfl, hchanges, fun p' hne => ?_⟩
        rw [hput]
        exact content_put_of_ne (by rwa [part_content])
      · intro index hindex hle
        exact absurd (hchanges.lt_size index hindex) (Nat.not_lt.mpr hle)

/-- The query that the session in the shop ends with. -/
def shopQuery : Query := empty.editAll shopSchema shopEdits

/-- Of two output columns the second is moved to the front, and a third place there is not. -/
theorem edit_changes_shop :
    (∀ tableId, Edit.moveColumn 1 0 ≠ .removeTable tableId) ∧
      (shopQuery.content .columns).Changes (.move 1 0)
        ((shopQuery.edit shopSchema (.moveColumn 1 0)).content .columns) ∧
      (∀ p, p ≠ .columns →
        (shopQuery.edit shopSchema (.moveColumn 1 0)).content p = shopQuery.content p) ∧
      (∀ tableId, Edit.moveColumn 0 2 ≠ .removeTable tableId) ∧
      shopQuery.edit? shopSchema (.moveColumn 0 2) = none := by
  have hmove : ∀ source target tableId, Edit.moveColumn source target ≠ .removeTable tableId :=
    fun _ _ _ => Edit.noConfusion
  obtain ⟨_, _, h, hmoved, -⟩ := edit_changes_one_part shopSchema shopQuery (hmove 1 0)
  cases h
  obtain ⟨_, _, h, -, hpast⟩ := edit_changes_one_part shopSchema shopQuery (hmove 0 2)
  cases h
  have haccepted : shopQuery.edit? shopSchema (.moveColumn 1 0) ≠ none := by decide
  obtain ⟨-, hchanges, hothers⟩ := hmoved.resolve_left fun hnone => haccepted hnone.1
  exact ⟨hmove 1 0, hchanges, hothers, hmove 0 2, (hpast 2 (by decide) (by decide)).1⟩

end Query

end QueryDesk
