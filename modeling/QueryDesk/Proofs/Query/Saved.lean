import QueryDesk.Proofs.Json.FiniteNumbers
import QueryDesk.Proofs.Query.Wire
import QueryDesk.Query.Executable
import QueryDesk.Query.Saved

/-! # Saved queries are read back

Saving a query and loading it again changes nothing but the bare nulls in its filters, which become absent
values, and neither does loading a query that was written without its envelope. What was loaded has no bare
nulls and only finite numbers, so from then on nothing changes at all (`roundTrip`).

All of this rests on the numbers in the filters being read back from their own texts; nothing is assumed
of the rest of the format.
-/

set_option autoImplicit false

namespace QueryDesk

open Json

/-! ## Bare nulls do not matter -/

theorem Operand.unlessNull?_of_ne {o : Operand} (h : o ≠ .scalar .null) : o.unlessNull? = some o := by
  unfold unlessNull?
  split
  · exact absurd rfl h
  · rfl

/-- Nothing changes in a filter without a bare null. -/
theorem Filter.withoutBareNull_eq_self {f : Filter} (h : f.value ≠ some (.scalar .null)) :
    f.withoutBareNull = f := by
  have hvalue : f.value.bind Operand.unlessNull? = f.value := by
    cases ho : f.value with
    | none => rfl
    | some o =>
        refine Operand.unlessNull?_of_ne ?_
        rintro rfl
        exact h ho
  rw [withoutBareNull, hvalue]

/-- A filter with a bare null is as complete as one without a value. -/
theorem Filter.isComplete_withoutBareNull (f : Filter) : f.withoutBareNull.isComplete = f.isComplete := by
  by_cases h : f.value = some (.scalar .null)
  · -- an operator that needs an operand takes neither, one that needs none takes both
    obtain ⟨tableId, column, operator, value⟩ := f
    subst h
    show (!column.isEmpty && _) = (!column.isEmpty && _)
    cases operator <;> rfl
  · rw [withoutBareNull_eq_self h]

namespace Query

theorem isReady_withoutBareNulls (q : Query) : q.withoutBareNulls.isReady = q.isReady := by
  have hcomplete : q.withoutBareNulls.filters.all Filter.isComplete = q.filters.all Filter.isComplete := by
    show (q.filters.map Filter.withoutBareNull).all Filter.isComplete = _
    rw [List.all_map]
    exact congrArg q.filters.all (funext Filter.isComplete_withoutBareNull)
  have hrefers : q.withoutBareNulls.refersToItsTables = q.refersToItsTables := by
    unfold refersToItsTables withoutBareNulls
    rw [List.all_map]
    rfl
  unfold isReady
  rw [hcomplete, hrefers]
  rfl

/-- **A query can be sent exactly when it can be sent without its bare nulls.** -/
theorem executable?_withoutBareNulls (q : Query) :
    q.withoutBareNulls.executable? = q.executable?.map withoutBareNulls := by
  have hready : q.withoutBareNulls.withoutPlaceholders.isReady = q.withoutPlaceholders.isReady :=
    isReady_withoutBareNulls q.withoutPlaceholders
  unfold executable?
  rw [hready]
  by_cases h : q.withoutPlaceholders.isReady = true
  · rw [if_pos h, if_pos h]
    rfl
  · rw [if_neg h, if_neg h]
    rfl

theorem withoutBareNulls_eq_self {q : Query} (h : ∀ f ∈ q.filters, f.value ≠ some (.scalar .null)) :
    q.withoutBareNulls = q := by
  have hfilters : q.filters.map Filter.withoutBareNull = q.filters := by
    rw [List.map_congr_left fun f hf => Filter.withoutBareNull_eq_self (h f hf), List.map_id']
  rw [withoutBareNulls, hfilters]

end Query

/-! ## What was loaded has no bare nulls and only finite numbers -/

theorem Operand.of_ofJson? {v : Json} {o : Operand} (hv : v.Finite) (hnull : v ≠ .null)
    (h : Operand.ofJson? v = some o) : o ≠ .scalar .null ∧ ∀ x ∈ o.numbers, x.isFinite = true := by
  -- a list is tried before a single value
  rw [Operand.ofJson?, Option.or_eq_some_iff] at h
  rcases h with h | ⟨-, h⟩
  · obtain ⟨values, hvalues, rfl⟩ := Option.map_eq_some_iff.mp h
    refine ⟨by simp, ?_⟩
    intro x hx
    obtain ⟨c, hc, hx⟩ := List.mem_filterMap.mp hx
    obtain ⟨w, hw, hread⟩ := exists_of_asList? hv hvalues c hc
    exact Cell.isFinite_of_ofJson? hw hread x hx
  · obtain ⟨c, hc, rfl⟩ := Option.map_eq_some_iff.mp h
    constructor
    · intro heq
      rw [Operand.scalar.inj heq] at hc
      exact hnull (Cell.eq_null_of_ofJson? hc)
    · intro x hx
      obtain ⟨c', hc', hx⟩ := List.mem_filterMap.mp hx
      rw [List.mem_singleton.mp hc'] at hx
      exact Cell.isFinite_of_ofJson? hv hc x hx

theorem Filter.of_ofJson? {v : Json} {x : Filter} (hv : v.Finite) (h : Filter.ofJson? v = some x) :
    x.value ≠ some (.scalar .null) ∧ ∀ y ∈ x.numbers, y.isFinite = true := by
  simp only [Filter.ofJson?, Option.bind_eq_bind, Option.bind_eq_some_iff, Option.some.injEq] at h
  obtain ⟨f, hfields, _, -, _, -, _, -, value, hvalue, rfl⟩ := h
  rcases eq_none_or_exists hvalue with rfl | ⟨w, o, rfl, hnull, hfind, hread⟩
  · exact ⟨by simp, by simp [Filter.numbers]⟩
  · obtain ⟨hne, hfinite⟩ := Operand.of_ofJson? (leaves_of_find? hfields hv hfind) hnull hread
    exact ⟨fun heq => hne (Option.some.inj heq), hfinite⟩

/-- **A query that was read has no bare nulls and only finite numbers.** -/
theorem Query.of_ofJson? {v : Json} {q : Query} (hv : v.Finite) (h : Query.ofJson? v = some q) :
    (∀ f ∈ q.filters, f.value ≠ some (.scalar .null)) ∧
      ∀ x ∈ q.filterNumbers, x.isFinite = true := by
  simp only [Query.ofJson?, Option.bind_eq_bind, Option.bind_eq_some_iff, Option.some.injEq] at h
  obtain ⟨f, hfields, _, -, _, -, _, -, filters, hfilters, _, -, _, -, _, -, _, -, rfl⟩ := h
  have hread : ∀ x ∈ filters, ∃ w : Json, w.Finite ∧ Filter.ofJson? w = some x := by
    rcases eq_default_or_exists hfilters with rfl | ⟨w, hfind, hlist⟩
    · simp
    · exact exists_of_asList? (leaves_of_find? hfields hv hfind) hlist
  constructor
  · intro x hx
    obtain ⟨w, hw, hx⟩ := hread x hx
    exact (Filter.of_ofJson? hw hx).1
  · intro y hy
    obtain ⟨x, hx, hy⟩ := List.mem_flatMap.mp hy
    obtain ⟨w, hw, hx⟩ := hread x hx
    exact (Filter.of_ofJson? hw hx).2 y hy

namespace SavedQuery

/-- The saved query with every bare null in a filter replaced by an absent value. -/
def withoutBareNulls (s : SavedQuery) : SavedQuery := { s with query := s.query.withoutBareNulls }

theorem of_ofJson? {v : Json} {s : SavedQuery} (hv : v.Finite) (h : ofJson? v = some s) :
    (∀ f ∈ s.query.filters, f.value ≠ some (.scalar .null)) ∧
      ∀ x ∈ s.query.filterNumbers, x.isFinite = true := by
  -- an envelope is tried before a bare query
  rw [ofJson?, Option.or_eq_some_iff] at h
  rcases h with h | ⟨-, h⟩
  · simp only [ofEnvelope?, Option.bind_eq_bind, Option.bind_eq_some_iff, Option.some.injEq] at h
    obtain ⟨f, hfields, _, -, _, -, q, hquery, rfl⟩ := h
    obtain ⟨w, hfind, hread⟩ := exists_of_required hquery
    exact Query.of_ofJson? (leaves_of_find? hfields hv hfind) hread
  · simp only [Option.ite_none_right_eq_some, Option.map_eq_some_iff] at h
    obtain ⟨-, q, hq, rfl⟩ := h
    exact Query.of_ofJson? hv hq

/-! ## What was saved is loaded -/

theorem ofEnvelope?_toJson (s : SavedQuery) : ofEnvelope? s.toJson = some s.withoutBareNulls := by
  obtain ⟨f, hfields, hfind⟩ : ∃ f, s.toJson.fields? ["version", "name", "query"] = some f ∧ _ := by
    refine exists_fields?_object (by decide) ?_
    simp only [List.map_append]
    have hversion : List.Sublist ["version"] ["version"] := List.Sublist.refl _
    exact (hversion.append (optionalMember_names _ _ _)).append (List.Sublist.refl _)
  simp only [List.lookup_append, lookup_singleton, lookup_optionalMember] at hfind
  have hversion : f.required "version" asUInt32? = some s.version := by
    refine required_of_find? ?_ (asUInt32?_natural s.version)
    simp [hfind]
  have hmember : f.find? "name" = s.name.map .text := by simp [hfind]
  have hname : f.optional "name" asText? = some s.name := optional_of_find? hmember fun _ => rfl
  have hquery : f.required "query" Query.ofJson? = some s.query.withoutBareNulls := by
    refine required_of_find? ?_ s.query.ofJson?_toJson
    simp [hfind]
  rw [ofEnvelope?, hfields]
  simp only [Option.bind_eq_bind, Option.bind_some, hversion, hname, hquery]
  rfl

/-- A bare query is no envelope, since it has no version. -/
theorem ofEnvelope?_query (q : Query) : ofEnvelope? q.toJson = none := by
  have hmissing : ∀ f, q.toJson.fields? ["version", "name", "query"] = some f →
      f.find? "version" = none := by
    intro f hf
    rw [find?_of_fields?_object hf (by decide)]
    simp only [List.lookup_append, lookup_singleton, lookup_listMember, lookup_optionalMember]
    simp
  rw [ofEnvelope?]
  cases hf : q.toJson.fields? ["version", "name", "query"] with
  | none => rfl
  | some f =>
      have hversion : f.required "version" asUInt32? = none := by
        rw [Fields.required, hmissing f hf]
        rfl
      simp only [Option.bind_eq_bind, Option.bind_some, hversion, Option.bind_none]

theorem ofJson?_toJson (s : SavedQuery) : ofJson? s.toJson = some s.withoutBareNulls := by
  rw [ofJson?, ofEnvelope?_toJson, Option.some_or]

theorem writableWithin {s : SavedQuery} (h : ∀ x ∈ s.query.filterNumbers, x.ReadsBack) (limit : Nat) :
    WritableWithin (limit + 5) s.toJson := by
  refine writableWithin_object ?_
  simp only [List.forall_mem_append, List.forall_mem_singleton, forall_mem_optionalMember]
  exact ⟨⟨writableWithin_natural _ _, fun _ _ => writableWithin_text _ _⟩,
    Query.writableWithin h limit⟩

/-- **What was saved is loaded again, without its bare nulls.** -/
theorem read_write {s : SavedQuery} (hversion : s.version ≤ currentVersion)
    (hnumbers : ∀ x ∈ s.query.filterNumbers, x.ReadsBack) : read s.write = .ok s.withoutBareNulls := by
  have hparse : Json.parse? s.write = some s.toJson := parse?_toPretty (writableWithin hnumbers 0).1
  have hknown : ¬currentVersion < s.withoutBareNulls.version := UInt32.not_lt.mpr hversion
  rw [read, hparse, Option.bind_some, ofJson?_toJson]
  exact if_neg hknown

/-! ## A query without an envelope -/

theorem ofJson?_query {q : Query} (hnumbers : ∀ x ∈ q.filterNumbers, x.ReadsBack) :
    ofJson? q.toJson = some ⟨1, none, q.withoutBareNulls⟩ := by
  have hheld : q.toJson.heldWithin Json.nestingLimit = true := (Query.writableWithin hnumbers 123).2
  rw [ofJson?, ofEnvelope?_query, Option.none_or, if_pos hheld, Query.ofJson?_toJson]
  rfl

/-- **A query that was written by itself is loaded at version one and without a name.** -/
theorem read_of_parse?_query {q : Query} (hnumbers : ∀ x ∈ q.filterNumbers, x.ReadsBack) {text : String}
    (hparse : Json.parse? text = some q.toJson) : read text = .ok ⟨1, none, q.withoutBareNulls⟩ := by
  have hknown : ¬currentVersion < 1 := by decide
  rw [read, hparse, Option.bind_some, ofJson?_query hnumbers]
  exact if_neg hknown

/-! ## The round trip -/

/-- A saved query that was loaded has a known version, no bare nulls, and only finite numbers. -/
theorem of_read {text : String} {s : SavedQuery} (h : read text = .ok s) :
    s.version ≤ currentVersion ∧ (∀ f ∈ s.query.filters, f.value ≠ some (.scalar .null)) ∧
      ∀ x ∈ s.query.filterNumbers, x.isFinite = true := by
  unfold read at h
  split at h
  · simp at h
  · next t hread =>
      obtain ⟨v, hparse, hjson⟩ := Option.bind_eq_some_iff.mp hread
      split at h
      · simp at h
      · next hknown =>
          rw [← Except.ok.inj h]
          exact ⟨UInt32.not_lt.mp hknown, of_ofJson? (finite_of_parse? hparse) hjson⟩

/-- **Saving and loading change nothing but bare nulls in filters.** A saved query of a known version is
loaded as it was, with every bare null an absent value, and can then be sent exactly when it could before. A
query written by itself, with or without gaps, is loaded at version one, without a name and with the same
change. What was loaded from any text has no bare nulls and only finite numbers, so saving and loading it
gives the very same.

Of each number in a filter it is assumed that it is read back from the text it is written as, which holds of
finite numbers only (`Double.ReadsBack.isFinite`). -/
theorem roundTrip :
    (∀ s : SavedQuery, s.version ≤ currentVersion → (∀ x ∈ s.query.filterNumbers, x.ReadsBack) →
      read s.write = .ok s.withoutBareNulls ∧
        (s.withoutBareNulls.query.executable?.isSome ↔ s.query.executable?.isSome)) ∧
    (∀ q : Query, (∀ x ∈ q.filterNumbers, x.ReadsBack) →
      read q.toJson.toCompact = .ok ⟨1, none, q.withoutBareNulls⟩ ∧
        read q.toJson.toPretty = .ok ⟨1, none, q.withoutBareNulls⟩) ∧
    (∀ (text : String) (s : SavedQuery), read text = .ok s →
      (∀ f ∈ s.query.filters, f.value ≠ some (.scalar .null)) ∧
        (∀ x ∈ s.query.filterNumbers, x.isFinite = true) ∧
        ((∀ x ∈ s.query.filterNumbers, x.ReadsBack) → read s.write = .ok s)) := by
  refine ⟨?_, ?_, ?_⟩
  · intro s hversion hnumbers
    refine ⟨read_write hversion hnumbers, ?_⟩
    show s.query.withoutBareNulls.executable?.isSome ↔ _
    rw [Query.executable?_withoutBareNulls, Option.isSome_map]
  · intro q hnumbers
    have hwritable : q.toJson.Writable := (Query.writableWithin hnumbers 0).1
    exact ⟨read_of_parse?_query hnumbers (parse?_toCompact hwritable),
      read_of_parse?_query hnumbers (parse?_toPretty hwritable)⟩
  · intro text s hread
    obtain ⟨hversion, hnull, hfinite⟩ := of_read hread
    refine ⟨hnull, hfinite, ?_⟩
    intro hnumbers
    have hsame : s.withoutBareNulls = s := by
      rw [withoutBareNulls, Query.withoutBareNulls_eq_self hnull]
    rw [read_write hversion hnumbers, hsame]

/-- A saved query with a number in one filter and a bare null in another. -/
def bigSales : SavedQuery :=
  ⟨1, some "Big sales", { Query.empty with
    tables := [.plain "t1" "sales"]
    columns := [.plain "t1" "amount"]
    filters := [⟨"t1", "amount", .gt, some (.scalar (.number (.ofRatio false 5 2)))⟩,
      ⟨"t1", "region", .eq, some (.scalar .null)⟩] }⟩

theorem numbers_bigSales : ∀ x ∈ bigSales.query.filterNumbers, x.ReadsBack := by
  intro x hx
  have hx : x = .ofRatio false 5 2 := List.mem_singleton.mp hx
  rw [hx, Double.readsBack_iff_scansBack]
  decide +kernel

/-- Saving and loading takes the bare null out of one filter, and the second time nothing. -/
theorem roundTrip_bigSales :
    read bigSales.write = .ok bigSales.withoutBareNulls ∧ bigSales.withoutBareNulls ≠ bigSales ∧
      read bigSales.query.toJson.toCompact = .ok ⟨1, none, bigSales.query.withoutBareNulls⟩ ∧
      read bigSales.withoutBareNulls.write = .ok bigSales.withoutBareNulls := by
  have hfirst := (roundTrip.1 bigSales (by decide) numbers_bigSales).1
  refine ⟨hfirst, by decide +kernel, (roundTrip.2.1 bigSales.query numbers_bigSales).1, ?_⟩
  exact (roundTrip.2.2 bigSales.write bigSales.withoutBareNulls hfirst).2.2 numbers_bigSales

end SavedQuery

end QueryDesk
