import QueryDesk.Proofs.Query.WellFormed
import Mathlib.Data.List.Nodup

/-! # The numbers of the tables

Ids come with a query that was read from a file, so they can be any texts. A number is read from those that are a `t`
and a numeral, with a plus sign or leading zeros if need be (`TableId.number?_eq_some_iff`); the id of a new table is
written without either. `GoesOn` says of tables that are added in a row that their numbers go on from the highest
one, and so they are told apart from each other and from all that were there (`generated_ids_fresh`).
-/

set_option autoImplicit false

namespace QueryDesk

namespace TableId

/-! ## Ids with a number -/

/-- **An id with a number**: a `t` and a numeral, with or without a plus sign between them. -/
def Numbered (id : String) (n : Nat) : Prop := ∃ cs, id.toList = 't' :: cs ∧ Text.IsUnsigned UInt32.size cs n

theorem number?_eq_some_iff {id : String} {n : Nat} : number? id = some n ↔ Numbered id n := by
  unfold number?
  split
  next digits heq =>
      rw [Text.readUnsigned?_eq_some_iff, Numbered, heq]
      constructor
      · exact fun h => ⟨digits, rfl, h⟩
      · rintro ⟨cs, hcs, h⟩
        exact (List.cons.inj hcs).2 ▸ h
  next hother =>
      constructor
      · intro h
        simp at h
      · rintro ⟨cs, hcs, -⟩
        exact absurd hcs (hother cs)

/-- **An id as it is written**: a `t` and the digits of the number, without a plus sign or a leading zero. -/
def Written (id : String) (n : Nat) : Prop :=
  ∃ digits, id.toList = 't' :: digits ∧ Text.IsNumeral digits n ∧ (digits.head? = some '0' → digits.length = 1)

theorem written_ofNumber (n : Nat) : Written (ofNumber n) n :=
  ⟨Text.natText n, String.toList_ofList, Text.isNumeral_natText n, Text.natText_length_of_head?_zero⟩

theorem ofNumber_injective {n m : Nat} (h : ofNumber n = ofNumber m) : n = m := by
  have hlists := congrArg String.toList h
  rw [ofNumber, ofNumber, String.toList_ofList, String.toList_ofList] at hlists
  rw [← Text.digitsValue_natText n, (List.cons.inj hlists).2, Text.digitsValue_natText]

/-! ## The highest number -/

/-- **The highest number among ids**; where none has a number it is zero. -/
structure Highest (ids : List String) (n : Nat) : Prop where
  le : ∀ id ∈ ids, ∀ m, Numbered id m → m ≤ n
  reached : n = 0 ∨ ∃ id ∈ ids, Numbered id n

theorem highest_highest (ids : List String) : Highest ids (highest ids) where
  le _ hid _ hm := number_le_highest hid (number?_eq_some_iff.mpr hm)
  reached := (highest_eq ids).imp_right fun ⟨id, hid, hn⟩ => ⟨id, hid, number?_eq_some_iff.mp hn⟩

/-- The id behind the highest one is the highest then. -/
theorem highest_append_ofNumber {ids : List String} (h : highest ids < lastNumber) :
    highest (ids ++ [ofNumber (highest ids + 1)]) = highest ids + 1 := by
  have hnumber : [ofNumber (highest ids + 1)].filterMap number? = [highest ids + 1] := by
    rw [List.filterMap_cons_some (number?_ofNumber h), List.filterMap_nil]
  calc highest (ids ++ [ofNumber (highest ids + 1)])
      = max (highest ids) (highest ids + 1) := by
        rw [highest, List.filterMap_append, hnumber, List.foldl_append, List.foldl_cons, List.foldl_nil, ← highest]
    _ = highest ids + 1 := Nat.max_eq_right (Nat.le_succ _)

end TableId

namespace Query

variable {schema : Schema} {q r s : Query}

theorem NumbersLeft.highest_lt (h : q.NumbersLeft) : TableId.highest q.ids < TableId.lastNumber :=
  TableId.highest_lt_lastNumber (List.forall_mem_map.mpr h)

/-! ## Tables in a row -/

/-- The query with tables of some names added in a row. -/
def addTables (schema : Schema) (q : Query) (names : List String) : Query :=
  q.editAll schema (names.map Edit.addTable)

/-- **Tables that were added with the numbers behind the highest one**, as far as there are numbers. -/
structure GoesOn (q r : Query) (added : List QueryTable) : Prop where
  tables : r.tables = q.tables ++ added
  ids : added.map QueryTable.id =
    (List.range' (TableId.highest q.ids + 1) added.length).map TableId.ofNumber
  le_last : TableId.highest q.ids + added.length ≤ TableId.lastNumber

theorem GoesOn.refl (q : Query) : GoesOn q q [] where
  tables := (List.append_nil _).symm
  ids := rfl
  le_last := TableId.highest_le_lastNumber _

/-- One more table in front of others. -/
theorem GoesOn.cons (free : q.NumbersLeft) {t : QueryTable} {added : List QueryTable}
    (first : r.tables = q.tables ++ [t]) (hid : t.id = q.nextTableId) (h : GoesOn r s added) :
    GoesOn q s (t :: added) := by
  have hids : r.ids = q.ids ++ [TableId.ofNumber (TableId.highest q.ids + 1)] := by
    rw [Query.ids, first, List.map_append, List.map_singleton, hid]
    rfl
  have hhighest : TableId.highest r.ids = TableId.highest q.ids + 1 := by
    rw [hids, TableId.highest_append_ofNumber free.highest_lt]
  have hlast := h.le_last
  rw [hhighest] at hlast
  constructor
  · rw [h.tables, first, List.append_assoc, List.singleton_append]
  · rw [List.map_cons, h.ids, hhighest, List.length_cons, List.range'_succ, List.map_cons, hid]
    rfl
  · rw [List.length_cons]
    omega

/-- **Each of the tables was added in time**: to a query in which no id had the last number. -/
def AddedInTime (q : Query) (added : List QueryTable) : Prop :=
  ∀ i < added.length, ∀ t ∈ q.tables ++ added.take i, TableId.number? t.id ≠ some TableId.lastNumber

instance (q : Query) (added : List QueryTable) : Decidable (q.AddedInTime added) :=
  inferInstanceAs (Decidable (∀ i < added.length, ∀ t ∈ q.tables ++ added.take i, _))

theorem AddedInTime.numbersLeft {t : QueryTable} {added : List QueryTable} (h : q.AddedInTime (t :: added)) :
    q.NumbersLeft := by
  have hfirst := h 0 (Nat.succ_pos _)
  rwa [List.take_zero, List.append_nil] at hfirst

theorem AddedInTime.tail {t : QueryTable} {added : List QueryTable} (h : q.AddedInTime (t :: added))
    (first : r.tables = q.tables ++ [t]) : r.AddedInTime added := by
  intro i hi
  have hnext := h (i + 1) (Nat.succ_lt_succ hi)
  rwa [List.take_succ_cons, ← List.singleton_append, ← List.append_assoc, ← first] at hnext

/-- **A run of additions goes on with the numbers**, where each table is added in time. -/
theorem exists_goesOn (schema : Schema) (q : Query) (names : List String) :
    ∃ added, (q.addTables schema names).tables = q.tables ++ added ∧
      (q.AddedInTime added → GoesOn q (q.addTables schema names) added) := by
  induction names generalizing q with
  | nil => exact ⟨[], (List.append_nil _).symm, fun _ => .refl q⟩
  | cons name names ih =>
      show ∃ added, ((q.edit schema (.addTable name)).addTables schema names).tables = q.tables ++ added ∧
        (q.AddedInTime added → GoesOn q ((q.edit schema (.addTable name)).addTables schema names) added)
      cases h : q.edit? schema (.addTable name) with
      | none =>
          rw [edit_of_eq_none h]
          exact ih q
      | some r =>
          rw [edit_of_eq_some h]
          obtain ⟨added, htables, hrest⟩ := ih r
          cases edit?_eq_some_iff.mp h with
          | addTable _ _ =>
              refine ⟨.plain q.nextTableId name :: added, ?_, fun htime => ?_⟩
              · rw [htables, List.append_assoc, List.singleton_append]
              · exact .cons htime.numbersLeft rfl rfl (hrest (htime.tail rfl))

/-- The numbers of tables that were added are behind the highest one, and each is one more than the one before. -/
theorem GoesOn.written {added : List QueryTable} (h : GoesOn q r added) {i : Nat} {t : QueryTable}
    (ht : added[i]? = some t) : TableId.Written t.id (TableId.highest q.ids + 1 + i) := by
  obtain ⟨hi, -⟩ := List.getElem?_eq_some_iff.mp ht
  have hid : (added.map QueryTable.id)[i]? = some t.id := by rw [List.getElem?_map, ht, Option.map_some]
  rw [h.ids, List.getElem?_map, List.getElem?_range' hi, Option.map_some, Option.some.injEq, Nat.one_mul] at hid
  exact hid ▸ TableId.written_ofNumber _

theorem GoesOn.nodup {added : List QueryTable} (h : GoesOn q r added) : (added.map QueryTable.id).Nodup := by
  rw [h.ids]
  exact List.Nodup.map (fun _ _ => TableId.ofNumber_injective) List.nodup_range'

theorem GoesOn.not_mem {added : List QueryTable} (h : GoesOn q r added) : ∀ t ∈ added, t.id ∉ q.ids := by
  intro t ht hmem
  have hid : t.id ∈ added.map QueryTable.id := List.mem_map_of_mem ht
  rw [h.ids] at hid
  obtain ⟨n, hn, heq⟩ := List.mem_map.mp hid
  have hbounds := List.mem_range'_1.mp hn
  have hlast := h.le_last
  -- the number of the new table would be no more than the highest one
  have hnumber : TableId.number? t.id = some n := heq ▸ TableId.number?_ofNumber (by omega)
  have hle := TableId.number_le_highest hmem hnumber
  omega

/-- **Generated ids are fresh.** As long as no id has the last number, the next id is that of no table of the query,
whatever texts the others are, and it is written with the number behind the highest one. Tables that are added in a
row, each in time, get the numbers that follow, each one more than the one before, so no two of them have the same id
and none has the id of a table that was there. -/
theorem generated_ids_fresh (schema : Schema) :
    (∀ q : Query, q.NumbersLeft →
      q.nextTableId ∉ q.ids ∧ ∃ n, TableId.Highest q.ids n ∧ TableId.Written q.nextTableId (n + 1)) ∧
    ∀ (q : Query) (names : List String), ∃ added,
      (q.addTables schema names).tables = q.tables ++ added ∧
      (q.AddedInTime added →
        (added.map QueryTable.id).Nodup ∧ (∀ t ∈ added, t.id ∉ q.ids) ∧
        ∃ n, TableId.Highest q.ids n ∧ ∀ i t, added[i]? = some t → TableId.Written t.id (n + 1 + i)) := by
  constructor
  · intro q free
    exact ⟨nextTableId_not_mem_ids free, _, TableId.highest_highest q.ids, TableId.written_ofNumber _⟩
  · intro q names
    obtain ⟨added, htables, hgoes⟩ := exists_goesOn schema q names
    refine ⟨added, htables, fun htime => ?_⟩
    have hadded := hgoes htime
    exact ⟨hadded.nodup, hadded.not_mem, _, TableId.highest_highest q.ids, fun _ _ => hadded.written⟩

/-- A schema of three tables. -/
def harbourSchema : Schema where
  tables := [⟨"ships", "public", [], none⟩, ⟨"ports", "public", [], none⟩, ⟨"crews", "public", [], none⟩]
  relationships := []

/-- A query with tables under these ids, as it may stand in a file. -/
def withIds (ids : List String) : Query := { empty with tables := ids.map fun id => .plain id "ships" }

/-- Only two of these ids have a number, which is the same for both. -/
def oddIds : List String := ["t", "t+7", "t007", "t-9", "T12", "t99999999999", "t 30", "custom", "t+7"]

/-- Names of tables to add: the second is there by then, and the schema does not know the third. -/
def calls : List String := ["ports", "ports", "quays", "crews", "crews"]

/-- Whatever ids a query comes with, the tables that are added to it have fresh ones; the numbers may be used up to
the last one, and edits that are declined need none. -/
theorem generated_ids_harbour :
    (withIds oddIds).NumbersLeft ∧ (withIds oddIds).nextTableId ∉ (withIds oddIds).ids ∧
      ((withIds oddIds).addTables harbourSchema calls).ids = oddIds ++ ["t8", "t9"] ∧
    ∃ added, ((withIds ["t+4294967293"]).addTables harbourSchema calls).tables =
        (withIds ["t+4294967293"]).tables ++ added ∧
      added = [.plain "t4294967294" "ports", .plain "t4294967295" "crews"] ∧
      (withIds ["t+4294967293"]).AddedInTime added ∧ (added.map QueryTable.id).Nodup := by
  obtain ⟨hfresh, hrun⟩ := generated_ids_fresh harbourSchema
  have hodd : (withIds oddIds).NumbersLeft := by decide
  refine ⟨hodd, (hfresh _ hodd).1, by decide, ?_⟩
  obtain ⟨added, htables, hadded⟩ := hrun (withIds ["t+4294967293"]) calls
  have hcalls : ((withIds ["t+4294967293"]).addTables harbourSchema calls).tables =
      (withIds ["t+4294967293"]).tables ++ [.plain "t4294967294" "ports", .plain "t4294967295" "crews"] := by decide
  have hlist : added = [.plain "t4294967294" "ports", .plain "t4294967295" "crews"] :=
    List.append_cancel_left (htables.symm.trans hcalls)
  have htime : (withIds ["t+4294967293"]).AddedInTime added := by
    rw [hlist]
    decide
  exact ⟨added, htables, hlist, htime, (hadded htime).1⟩

end Query

end QueryDesk
