import QueryDesk.Proofs.Lists
import QueryDesk.Proofs.Json.RoundTrip
import QueryDesk.Query.Wire

/-! # Records that were written

A record whose members are a part of its names in their order is found as it was written
(`fields?_object`), whether or not members that need not be there were left out. What is found under a name
is then read back: a member that is always there (`required_of_find?`, `withDefault_of_find?`), an optional
one (`optional_of_find?`), and a list that is left out where it is empty (`list_of_find?`).
-/

set_option autoImplicit false

namespace QueryDesk

namespace Json

/-- **The members of a record that was written are all found.** -/
theorem fields?_object {names : List String} {members : List (String × Json)} (hnames : names.Nodup)
    (h : (members.map Prod.fst).Sublist names) :
    fields? names (.object members) = some ⟨false, members⟩ := by
  have hknown : members.filter (fun m => names.contains m.1) = members := by
    rw [List.filter_eq_self]
    intro m hm
    exact List.contains_iff_mem.mpr (h.subset (List.mem_map_of_mem hm))
  show (if ((members.filter fun m => names.contains m.1).map Prod.fst).Nodup then
    some (Fields.mk false (members.filter fun m => names.contains m.1)) else none) = _
  rw [hknown, if_pos (h.nodup hnames)]

theorem exists_fields?_object {names : List String} {members : List (String × Json)}
    (hnames : names.Nodup) (h : (members.map Prod.fst).Sublist names) :
    ∃ f, fields? names (.object members) = some f ∧ ∀ name, f.find? name = members.lookup name :=
  ⟨_, fields?_object hnames h, fun _ => rfl⟩

/-! ## What is written -/

/-- **Whether a value is written so that it is read back, and nests at most `limit` deep.** -/
def WritableWithin (limit : Nat) (v : Json) : Prop := v.Writable ∧ v.heldWithin limit = true

theorem writableWithin_null (limit : Nat) : WritableWithin limit .null := ⟨trivial, by simp [heldWithin]⟩

theorem writableWithin_bool (limit : Nat) (b : Bool) : WritableWithin limit (.bool b) :=
  ⟨trivial, by simp [heldWithin]⟩

theorem writableWithin_text (limit : Nat) (s : String) : WritableWithin limit (.text s) :=
  ⟨trivial, by simp [heldWithin]⟩

theorem writableWithin_natural (limit : Nat) (n : UInt64) : WritableWithin limit (natural n) :=
  ⟨Numeral.scansBack_natural n, by simp [natural, heldWithin]⟩

theorem writableWithin_double (limit : Nat) {x : Double} (h : x.ReadsBack) :
    WritableWithin limit (double x) :=
  ⟨Double.readsBack_iff_scansBack.mp h, by simp [double, heldWithin]⟩

theorem writableWithin_object {limit : Nat} {members : List (String × Json)}
    (h : ∀ m ∈ members, WritableWithin limit m.2) : WritableWithin (limit + 1) (.object members) :=
  ⟨leaves_object.mpr fun m hm => (h m hm).1, heldWithin_object fun m hm => (h m hm).2⟩

theorem writableWithin_ofList {α : Type} {limit : Nat} {write : α → Json} {items : List α}
    (h : ∀ a ∈ items, WritableWithin limit (write a)) : WritableWithin (limit + 1) (ofList write items) :=
  ⟨leaves_ofList.mpr fun a ha => (h a ha).1, heldWithin_ofList fun a ha => (h a ha).2⟩

/-! ## Members by name -/

variable {α β : Type} {f : Fields} {name : String} {read : Json → Option β}

theorem required_of_find? {v : Json} {b : β} (hfind : f.find? name = some v) (hread : read v = some b) :
    f.required name read = some b := by
  rw [Fields.required, hfind]
  exact hread

theorem withDefault_of_find? {v : Json} {b default : β} (hfind : f.find? name = some v)
    (hread : read v = some b) : f.withDefault name read default = some b := by
  rw [Fields.withDefault, hfind]
  exact hread

/-- An optional member is read back as what its value is read back as. -/
theorem optional_of_find?_map {write : α → Json} {back : α → Option β} {value : Option α}
    (hfind : f.find? name = value.map write)
    (hread : ∀ a, Fields.readOptional read (write a) = some (back a)) :
    f.optional name read = some (value.bind back) := by
  rw [Fields.optional, Fields.withDefault, hfind]
  cases value with
  | none => rfl
  | some a => exact hread a

/-- An optional member is read back where its value is. -/
theorem optional_of_find? {write : β → Json} {value : Option β} (hfind : f.find? name = value.map write)
    (hread : ∀ b, Fields.readOptional read (write b) = some (some b)) :
    f.optional name read = some value := by
  rw [optional_of_find?_map hfind hread, Option.bind_fun_some]

/-- An optional member that is written as null where there is no value is read back where its value is. -/
theorem optional_of_find?_ofOption {write : β → Json} {value : Option β}
    (hfind : f.find? name = some (ofOption write value))
    (hread : ∀ b, Fields.readOptional read (write b) = some (some b)) :
    f.optional name read = some value := by
  rw [Fields.optional, Fields.withDefault, hfind]
  cases value with
  | none => rfl
  | some b => exact hread b

/-! ## Lists -/

/-- **A list is read back as what its items are read back as.** -/
theorem asList?_ofList {write : α → Json} {back : α → β} {items : List α}
    (hread : ∀ a ∈ items, read (write a) = some (back a)) :
    asList? read (ofList write items) = some (items.map back) := by
  show (items.map write).mapM read = some (items.map back)
  rw [List.mapM_map]
  exact mapM_eq_some_map hread

/-- A list that is left out where it is empty is read back as what its items are read back as. -/
theorem list_of_find? {write : α → Json} {back : α → β} {items : List α}
    (hfind : f.find? name = if items.isEmpty then none else some (ofList write items))
    (hread : ∀ a ∈ items, read (write a) = some (back a)) :
    f.withDefault name (asList? read) [] = some (items.map back) := by
  rw [Fields.withDefault, hfind]
  cases items with
  | nil => rfl
  | cons a items => exact asList?_ofList hread

/-! ## Values of one kind -/

theorem asUInt32?_natural (n : UInt32) : asUInt32? (natural n.toUInt64) = some n := by
  have hlt : n.toUInt64.toNat < UInt32.size := by
    rw [UInt32.toNat_toUInt64]
    exact n.toNat_lt
  show (if n.toUInt64.toNat < UInt32.size then some n.toUInt64.toUInt32 else none) = some n
  rw [if_pos hlt, UInt32.toUInt32_toUInt64]

end Json

/-! ## Members that may be left out -/

section LeftOut

variable {α : Type}

theorem forall_mem_optionalMember {R : String × Json → Prop} {name : String} {write : α → Json}
    {value : Option α} :
    (∀ m ∈ optionalMember name write value, R m) ↔ ∀ a, value = some a → R (name, write a) := by
  cases value with
  | none => simp [optionalMember]
  | some a => simp [optionalMember]

theorem forall_mem_listMember {R : String × Json → Prop} {name : String} {write : α → Json}
    {items : List α} (h : R (name, .ofList write items)) : ∀ m ∈ listMember name write items, R m := by
  cases items with
  | nil => simp [listMember]
  | cons a items => exact List.forall_mem_singleton.mpr h

theorem optionalMember_names (name : String) (write : α → Json) (value : Option α) :
    ((optionalMember name write value).map Prod.fst).Sublist [name] := by
  cases value with
  | none => exact List.nil_sublist _
  | some a => exact List.Sublist.refl _

theorem listMember_names (name : String) (write : α → Json) (items : List α) :
    ((listMember name write items).map Prod.fst).Sublist [name] := by
  cases items with
  | nil => exact List.nil_sublist _
  | cons a items => exact List.Sublist.refl _

theorem lookup_singleton (key name : String) (v : Json) :
    [(name, v)].lookup key = if key = name then some v else none := by
  by_cases h : key = name
  · rw [if_pos h, h, List.lookup_cons_self]
  · rw [if_neg h, List.lookup_cons, beq_false_of_ne h]
    rfl

theorem lookup_optionalMember (key name : String) (write : α → Json) (value : Option α) :
    (optionalMember name write value).lookup key = if key = name then value.map write else none := by
  cases value with
  | none => simp [optionalMember]
  | some a => exact lookup_singleton key name (write a)

theorem lookup_listMember (key name : String) (write : α → Json) (items : List α) :
    (listMember name write items).lookup key =
      if key = name then (if items.isEmpty then none else some (.ofList write items)) else none := by
  cases items with
  | nil => simp [listMember]
  | cons a items => exact lookup_singleton key name (.ofList write (a :: items))

end LeftOut

namespace Json

/-! ## What was read -/

variable {β : Type} {P : Json → Prop} {f : Fields} {name : String} {read : Json → Option β}

theorem mem_of_lookup {members : List (String × Json)} {v : Json} (h : members.lookup name = some v) :
    (name, v) ∈ members := by
  obtain ⟨before, after, rfl, -⟩ := List.lookup_eq_some_iff.mp h
  exact List.mem_append_right _ List.mem_cons_self

theorem lookup_eq_some_of_mem {members : List (String × Json)} {v : Json}
    (hnodup : (members.map Prod.fst).Nodup) (hmem : (name, v) ∈ members) :
    members.lookup name = some v := by
  induction members with
  | nil => exact absurd hmem List.not_mem_nil
  | cons m members ih =>
      rw [List.map_cons, List.nodup_cons] at hnodup
      rcases List.mem_cons.mp hmem with rfl | hmem
      · exact List.lookup_cons_self
      · have hne : (name == m.1) = false := by
          refine beq_false_of_ne ?_
          rintro rfl
          exact hnodup.1 (List.mem_map.mpr ⟨_, hmem, rfl⟩)
        rw [List.lookup_cons, hne]
        exact ih hnodup.2 hmem

theorem lookup_filter_contains {names : List String} (hname : name ∈ names)
    (members : List (String × Json)) :
    (members.filter fun m => names.contains m.1).lookup name = members.lookup name := by
  induction members with
  | nil => rfl
  | cons m members ih =>
      by_cases hm : names.contains m.1 = true
      · rw [List.filter_cons, if_pos hm, List.lookup_cons, List.lookup_cons, ih]
      · have hne : (name == m.1) = false := by
          refine beq_false_of_ne ?_
          rintro rfl
          exact hm (List.contains_iff_mem.mpr hname)
        rw [List.filter_cons, if_neg hm, ih, List.lookup_cons, hne]

/-- **What is found under a name of a record is the first member of that name.** -/
theorem find?_of_fields?_object {names : List String} {members : List (String × Json)}
    (h : fields? names (.object members) = some f) (hname : name ∈ names) :
    f.find? name = members.lookup name := by
  simp only [fields?, Option.ite_none_right_eq_some, Option.some.injEq] at h
  obtain ⟨-, rfl⟩ := h
  exact lookup_filter_contains hname members

/-- Of a name that is not repeated in a record, any member of that name is the one that is found. -/
theorem find?_of_mem_fields?_object {names : List String} {members : List (String × Json)} {v : Json}
    (h : fields? names (.object members) = some f) (hname : name ∈ names) (hmem : (name, v) ∈ members) :
    f.find? name = some v := by
  simp only [fields?, Option.ite_none_right_eq_some, Option.some.injEq] at h
  obtain ⟨hnodup, rfl⟩ := h
  have hknown : (name, v) ∈ members.filter fun m => names.contains m.1 :=
    List.mem_filter.mpr ⟨hmem, List.contains_iff_mem.mpr hname⟩
  exact lookup_eq_some_of_mem hnodup hknown

/-- What is found in an object is one of its members. -/
theorem mem_of_find?_object {names : List String} {members : List (String × Json)} {v : Json}
    (h : fields? names (.object members) = some f) (hv : f.find? name = some v) : (name, v) ∈ members := by
  simp only [fields?, Option.ite_none_right_eq_some, Option.some.injEq] at h
  obtain ⟨-, rfl⟩ := h
  exact (List.mem_filter.mp (mem_of_lookup hv)).1

/-- **What is found in a record is a part of it.** -/
theorem leaves_of_find? {names : List String} {v w : Json} (h : fields? names v = some f)
    (hv : v.Leaves P) (hw : f.find? name = some w) : w.Leaves P := by
  unfold fields? at h
  split at h
  · next members => exact leaves_object.mp hv _ (mem_of_find?_object h hw)
  · next items =>
      simp only [Option.ite_none_right_eq_some, Option.some.injEq] at h
      obtain ⟨-, rfl⟩ := h
      have hmem : (name, w) ∈ names.zip items := mem_of_lookup hw
      exact leaves_array.mp hv w (List.of_mem_zip hmem).2
  · simp at h

theorem exists_of_required {b : β} (h : f.required name read = some b) :
    ∃ v, f.find? name = some v ∧ read v = some b :=
  Option.bind_eq_some_iff.mp h

theorem eq_default_or_exists {b default : β} (h : f.withDefault name read default = some b) :
    b = default ∨ ∃ v, f.find? name = some v ∧ read v = some b := by
  rw [Fields.withDefault] at h
  split at h
  · exact .inl (Option.some.inj h).symm
  · next v hfind => exact .inr ⟨v, hfind, h⟩

theorem eq_none_or_exists {b? : Option β} (h : f.optional name read = some b?) :
    b? = none ∨ ∃ v b, b? = some b ∧ v ≠ .null ∧ f.find? name = some v ∧ read v = some b := by
  -- a null and a member that is left out both count as no value
  rcases eq_default_or_exists h with hnone | ⟨v, hfind, hread⟩
  · exact .inl hnone
  · by_cases hnull : v = .null
    · rw [hnull] at hread
      exact .inl (Option.some.inj hread).symm
    · right
      have hmap : (read v).map some = some b? := by
        rw [← hread, Fields.readOptional]
        exact hnull
      obtain ⟨b, hb, rfl⟩ := Option.map_eq_some_iff.mp hmap
      exact ⟨v, b, rfl, hnull, hfind, hb⟩

theorem exists_of_mapM {items : List Json} {bs : List β} (h : items.mapM read = some bs) :
    ∀ b ∈ bs, ∃ v ∈ items, read v = some b := by
  induction items generalizing bs with
  | nil =>
      intro b hb
      rw [← Option.some.inj h] at hb
      simp at hb
  | cons v items ih =>
      rw [List.mapM_cons] at h
      simp only [Option.bind_eq_bind, Option.bind_eq_some_iff] at h
      obtain ⟨b, hb, bs, hbs, heq⟩ := h
      rw [← Option.some.inj heq]
      refine List.forall_mem_cons.mpr ⟨⟨v, List.mem_cons_self, hb⟩, ?_⟩
      intro b' hb'
      obtain ⟨w, hw, hread⟩ := ih hbs b' hb'
      exact ⟨w, List.mem_cons_of_mem v hw, hread⟩

/-- **What was read into a list was read from the items of an array.** -/
theorem exists_of_asList? {v : Json} {bs : List β} (hv : v.Leaves P) (h : asList? read v = some bs) :
    ∀ b ∈ bs, ∃ w, w.Leaves P ∧ read w = some b := by
  intro b hb
  unfold asList? at h
  split at h
  · next items =>
      obtain ⟨w, hw, hread⟩ := exists_of_mapM h b hb
      exact ⟨w, leaves_array.mp hv w hw, hread⟩
  · simp at h

end Json

end QueryDesk
