import QueryDesk.Proofs.Json.WholeNumber
import QueryDesk.Proofs.Query.Saved

/-! # Versions that are not known yet

A saved query that is read with a version above the one that is written is refused (`read_of_ofEnvelope?`). The
version counts only in a document that is read as a saved query with version, name and query. A document that
cannot be read as one, but as a bare query, is loaded at the version that is written, whatever it says of its
own version (`read_of_loadsBare`): the reader of queries skips a member `version` like any other member that it
does not know. So of the documents with a version above the one that is written exactly those are loaded
(`future_refused_unless_bare`), and one of them is `flatFuture`.
-/

set_option autoImplicit false

namespace QueryDesk.SavedQuery

open Json

/-! ## How a document is loaded -/

/-- **A document that is loaded as a bare query**: it is no saved query with version, name and query, it can be
held as a whole, and it is read as a query. -/
structure LoadsBare (v : Json) (q : Query) : Prop where
  noEnvelope : ofEnvelope? v = none
  held : v.heldWithin nestingLimit = true
  query : Query.ofJson? v = some q

theorem LoadsBare.ofJson?_eq {v : Json} {q : Query} (h : LoadsBare v q) : ofJson? v = some (ofQuery q) := by
  rw [ofJson?, h.noEnvelope, Option.none_or, if_pos h.held, h.query, Option.map_some]

/-- What is read of a document is read with its version, or as a bare query. -/
theorem ofJson?_eq_some_iff {v : Json} {s : SavedQuery} :
    ofJson? v = some s ↔ ofEnvelope? v = some s ∨ ∃ q, LoadsBare v q ∧ s = ofQuery q := by
  constructor
  · intro h
    rw [ofJson?, Option.or_eq_some_iff] at h
    rcases h with henvelope | ⟨hnone, hbare⟩
    · exact .inl henvelope
    · simp only [Option.ite_none_right_eq_some, Option.map_eq_some_iff] at hbare
      obtain ⟨hheld, q, hquery, rfl⟩ := hbare
      exact .inr ⟨q, ⟨hnone, hheld, hquery⟩, rfl⟩
  · rintro (henvelope | ⟨q, hbare, rfl⟩)
    · rw [ofJson?, henvelope, Option.some_or]
    · exact hbare.ofJson?_eq

section Loading

variable {text : String} {v : Json}

theorem read_eq_ok_iff (hparse : parse? text = some v) {s : SavedQuery} :
    read text = .ok s ↔ ofJson? v = some s ∧ s.version ≤ currentVersion := by
  rw [read, hparse, Option.bind_some]
  cases hjson : ofJson? v with
  | none => simp
  | some s' =>
      by_cases hversion : currentVersion < s'.version
      · simp only [if_pos hversion, Option.some.injEq, reduceCtorEq, false_iff, not_and]
        rintro rfl
        exact UInt32.not_le.mpr hversion
      · simp only [if_neg hversion, Except.ok.injEq, Option.some.injEq]
        constructor
        · rintro rfl
          exact ⟨rfl, UInt32.not_lt.mp hversion⟩
        · exact And.left

/-- **A saved query of a version that is not known yet is refused**, and the error names both versions. -/
theorem read_of_ofEnvelope? (hparse : parse? text = some v) {s : SavedQuery}
    (henvelope : ofEnvelope? v = some s) (hversion : currentVersion < s.version) :
    read text = .error (.unsupportedVersion s.version currentVersion) := by
  rw [read, hparse, Option.bind_some, ofJson?_eq_some_iff.mpr (.inl henvelope)]
  exact if_pos hversion

/-- **A bare query is loaded at the version that is written.** -/
theorem read_of_loadsBare (hparse : parse? text = some v) {q : Query} (h : LoadsBare v q) :
    read text = .ok (ofQuery q) :=
  (read_eq_ok_iff hparse).mpr ⟨h.ofJson?_eq, UInt32.le_refl _⟩

/-- What is neither a saved query nor a bare one is refused. -/
theorem read_of_neither (hparse : parse? text = some v) (henvelope : ofEnvelope? v = none)
    (hbare : ∀ q, ¬LoadsBare v q) : read text = .error .malformed := by
  have hnone : ofJson? v = none := by
    rw [Option.eq_none_iff_forall_ne_some]
    intro s hs
    rcases ofJson?_eq_some_iff.mp hs with hsome | ⟨q, hq, -⟩
    · rw [henvelope] at hsome
      exact absurd hsome (by simp)
    · exact hbare q hq
  rw [read, hparse, Option.bind_some, hnone]

end Loading

/-! ## Documents with a version that is not known yet -/

/-- **A version above the one that is written**: the value of the text of a larger number, of any length. -/
def IsFutureVersion (v : Json) : Prop :=
  ∃ n : Nat, currentVersion.toNat < n ∧ parse? (String.ofList (Text.natText n)) = some v

/-- A version above the one that is written is read as such, or not at all. -/
theorem IsFutureVersion.lt {v : Json} {k : UInt32} (h : IsFutureVersion v) (hread : asUInt32? v = some k) :
    currentVersion < k := by
  obtain ⟨n, hlt, hparse⟩ := h
  cases v with
  | number m =>
      cases m with
      | natural d =>
          have hd : d.toNat = n := toNat_of_parse?_natText hparse
          simp only [asUInt32?, Option.ite_none_right_eq_some, Option.some.injEq] at hread
          obtain ⟨hsmall, rfl⟩ := hread
          have hk : d.toUInt32.toNat = d.toNat := by
            rw [UInt64.toNat_toUInt32]
            exact Nat.mod_eq_of_lt hsmall
          rw [UInt32.lt_iff_toNat_lt, hk, hd]
          exact hlt
      | negative d => simp [asUInt32?] at hread
      | double x => simp [asUInt32?] at hread
  | null | bool _ | text _ | array _ | object _ | unheld => simp [asUInt32?] at hread

section Future

variable {text : String} {members : List (String × Json)} {v : Json}

/-- The version of a saved query that was read is the one that stands in the document. -/
theorem version_of_ofEnvelope? {s : SavedQuery} (hmem : ("version", v) ∈ members)
    (henvelope : ofEnvelope? (.object members) = some s) : asUInt32? v = some s.version := by
  simp only [ofEnvelope?, Option.bind_eq_bind, Option.bind_eq_some_iff, Option.some.injEq] at henvelope
  obtain ⟨f, hfields, version, hversion, _, -, _, -, rfl⟩ := henvelope
  obtain ⟨w, hfind, hread⟩ := exists_of_required hversion
  rw [find?_of_mem_fields?_object hfields (by simp) hmem, Option.some.injEq] at hfind
  rw [hfind]
  exact hread

/-- A query always has members for its tables and its output columns. -/
theorem exists_members_of_query {q : Query} (hquery : Query.ofJson? (.object members) = some q) :
    (∃ w, ("tables", w) ∈ members) ∧ ∃ w, ("columns", w) ∈ members := by
  simp only [Query.ofJson?, Option.bind_eq_bind, Option.bind_eq_some_iff, Option.some.injEq] at hquery
  obtain ⟨f, hfields, _, htables, _, -, _, hcolumns, -⟩ := hquery
  obtain ⟨w, hw, -⟩ := exists_of_required htables
  obtain ⟨w', hw', -⟩ := exists_of_required hcolumns
  exact ⟨⟨w, mem_of_find?_object hfields hw⟩, w', mem_of_find?_object hfields hw'⟩

theorem read_eq_ok_iff_of_future (hparse : parse? text = some (.object members))
    (hmem : ("version", v) ∈ members) (hfuture : IsFutureVersion v) {s : SavedQuery} :
    read text = .ok s ↔ ∃ q, LoadsBare (.object members) q ∧ s = ofQuery q := by
  rw [read_eq_ok_iff hparse, ofJson?_eq_some_iff]
  constructor
  · rintro ⟨henvelope | hbare, hversion⟩
    · -- a version that is read from the document would be above the one that is written
      exact absurd (hfuture.lt (version_of_ofEnvelope? hmem henvelope)) (UInt32.not_lt.mpr hversion)
    · exact hbare
  · rintro ⟨q, hbare, rfl⟩
    exact ⟨.inr ⟨q, hbare, rfl⟩, UInt32.le_refl _⟩

end Future

theorem exists_error_iff {text : String} : (∃ e, read text = .error e) ↔ ∀ s, read text ≠ .ok s := by
  cases read text <;> simp

/-- **A document from the future is refused unless it can be loaded as a bare query.** Where it is read as a saved
query with version, name and query, the error names its version and the one that is written; where it is read
neither as a saved query nor as a bare query, it is malformed, and so is an object that cannot be held because of
a key. It is loaded exactly if it is no saved query but a query itself, and then at the version that is written
and without a name; so it is refused in any case if it has no tables or no output columns at its top. -/
theorem future_refused_unless_bare (text : String) :
    (parse? text = some .unheld → read text = .error .malformed) ∧
    ∀ (members : List (String × Json)) (v : Json),
      parse? text = some (.object members) → ("version", v) ∈ members → IsFutureVersion v →
      (∀ s, ofEnvelope? (.object members) = some s → currentVersion < s.version ∧
        read text = .error (.unsupportedVersion s.version currentVersion)) ∧
      (ofEnvelope? (.object members) = none → (∀ q, ¬LoadsBare (.object members) q) →
        read text = .error .malformed) ∧
      (∀ s, read text = .ok s ↔ ∃ q, LoadsBare (.object members) q ∧ s = ofQuery q) ∧
      ((∃ e, read text = .error e) ↔ ∀ q, ¬LoadsBare (.object members) q) ∧
      ((∀ w, ("tables", w) ∉ members) ∨ (∀ w, ("columns", w) ∉ members) → ∃ e, read text = .error e) := by
  refine ⟨fun hparse => read_of_neither hparse rfl fun q hq => ?_, ?_⟩
  · exact absurd hq.held (by simp [heldWithin])
  intro members v hparse hmem hfuture
  have hloaded := fun s => read_eq_ok_iff_of_future (s := s) hparse hmem hfuture
  have hrefused : (∃ e, read text = .error e) ↔ ∀ q, ¬LoadsBare (.object members) q := by
    rw [exists_error_iff]
    constructor
    · exact fun h q hq => h (ofQuery q) ((hloaded _).mpr ⟨q, hq, rfl⟩)
    · intro h s hs
      obtain ⟨q, hq, -⟩ := (hloaded s).mp hs
      exact h q hq
  refine ⟨?_, read_of_neither hparse, hloaded, hrefused, ?_⟩
  · intro s henvelope
    have hversion : currentVersion < s.version := hfuture.lt (version_of_ofEnvelope? hmem henvelope)
    exact ⟨hversion, read_of_ofEnvelope? hparse henvelope hversion⟩
  · intro hmissing
    refine hrefused.mpr fun q hq => ?_
    obtain ⟨⟨w, htables⟩, w', hcolumns⟩ := exists_members_of_query hq.query
    exact hmissing.elim (fun h => h w htables) fun h => h w' hcolumns

/-- The ids of all orders. -/
def orderIds : Query :=
  { Query.empty with tables := [.plain "t1" "orders"], columns := [.plain "t1" "id"] }

/-- A saved query of version two. -/
def wrappedFuture : List (String × Json) := [("version", .natural 2), ("query", orderIds.toJson)]

/-- A query of version two with its tables and columns at the top. -/
def flatFuture : List (String × Json) :=
  [("version", .natural 2), ("tables", .ofList QueryTable.toJson orderIds.tables),
    ("columns", .ofList Selection.toJson orderIds.columns)]

theorem isFutureVersion_two : IsFutureVersion (.natural 2) :=
  ⟨2, by decide, parse?_toCompact (writableWithin_natural 0 2).1⟩

theorem parse?_wrappedFuture :
    parse? (Json.object wrappedFuture).toCompact = some (.object wrappedFuture) := by
  have hquery : WritableWithin 4 orderIds.toJson :=
    Query.writableWithin (by simp [Query.filterNumbers, orderIds, Query.empty]) 0
  have hwritable : WritableWithin 5 (.object wrappedFuture) := by
    refine writableWithin_object ?_
    simp only [wrappedFuture, List.forall_mem_cons]
    exact ⟨writableWithin_natural 4 2, hquery, by simp⟩
  exact parse?_toCompact hwritable.1

theorem parse?_flatFuture : parse? (Json.object flatFuture).toCompact = some (.object flatFuture) := by
  have hwritable : WritableWithin 3 (.object flatFuture) := by
    refine writableWithin_object ?_
    simp only [flatFuture, List.forall_mem_cons]
    exact ⟨writableWithin_natural 2 2, writableWithin_ofList fun t _ => t.writableWithin 0,
      writableWithin_ofList fun c _ => c.writableWithin 0, by simp⟩
  exact parse?_toCompact hwritable.1

theorem loadsBare_flatFuture : LoadsBare (.object flatFuture) orderIds :=
  ⟨by decide +kernel, by decide +kernel, by decide +kernel⟩

/-- The query with version two is refused, the one with its parts at the top is loaded at version one. -/
theorem future_refused_orderIds :
    read (Json.object wrappedFuture).toCompact = .error (.unsupportedVersion 2 1) ∧
      read (Json.object flatFuture).toCompact = .ok ⟨1, none, orderIds⟩ := by
  obtain ⟨hrefused, -⟩ := (future_refused_unless_bare (Json.object wrappedFuture).toCompact).2 _ _
    parse?_wrappedFuture List.mem_cons_self isFutureVersion_two
  obtain ⟨-, -, hloaded, -⟩ := (future_refused_unless_bare (Json.object flatFuture).toCompact).2 _ _
    parse?_flatFuture List.mem_cons_self isFutureVersion_two
  have henvelope : ofEnvelope? (.object wrappedFuture) = some ⟨2, none, orderIds⟩ := by decide +kernel
  exact ⟨(hrefused _ henvelope).2, (hloaded _).mpr ⟨orderIds, loadsBare_flatFuture, rfl⟩⟩

/-- **Not every document from the future is refused.** -/
theorem loaded_from_the_future :
    ¬∀ (text : String) (members : List (String × Json)) (v : Json),
      parse? text = some (.object members) → ("version", v) ∈ members → IsFutureVersion v →
      ∃ e, read text = .error e := by
  intro h
  obtain ⟨e, he⟩ := h _ _ _ parse?_flatFuture List.mem_cons_self isFutureVersion_two
  rw [read_of_loadsBare parse?_flatFuture loadsBare_flatFuture] at he
  exact absurd he (by simp)

end QueryDesk.SavedQuery
