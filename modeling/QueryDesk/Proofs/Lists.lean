/-! # Lists that tell their items apart

What changes of a list do to a property of its items, and to keys that are all different, and what is
found in a list by what its items give. The last section says what it means that a list holds the
different items of another one in the order in which they appear first (`FirstAppearances`), one item
after the other.
-/

set_option autoImplicit false

namespace QueryDesk

variable {α β : Type} {key : α → β}

/-! ## Different keys -/

theorem nodup_map_append_singleton {items : List α} {item : α} (h : (items.map key).Nodup)
    (new : ∀ a ∈ items, key a ≠ key item) : ((items ++ [item]).map key).Nodup := by
  rw [List.map_append, List.nodup_append]
  refine ⟨h, by simp, ?_⟩
  intro k hk k' hk'
  obtain ⟨a, ha, rfl⟩ := List.mem_map.mp hk
  rw [List.map_singleton, List.mem_singleton] at hk'
  exact hk' ▸ new a ha

/-- An item may be replaced by one whose key no other item has. -/
theorem nodup_map_set {items : List α} {index : Nat} {item : α} (h : (items.map key).Nodup)
    (new : ∀ a ∈ items.eraseIdx index, key a ≠ key item) : ((items.set index item).map key).Nodup := by
  induction items generalizing index with
  | nil => simp
  | cons a rest ih =>
      rw [List.map_cons, List.nodup_cons] at h
      cases index with
      | zero =>
          rw [List.set_cons_zero, List.map_cons, List.nodup_cons]
          refine ⟨?_, h.2⟩
          rintro hmem
          obtain ⟨b, hb, heq⟩ := List.mem_map.mp hmem
          exact new b hb heq
      | succ index =>
          rw [List.eraseIdx_cons_succ, List.forall_mem_cons] at new
          rw [List.set_cons_succ, List.map_cons, List.nodup_cons]
          refine ⟨?_, ih h.2 new.2⟩
          intro hmem
          obtain ⟨b, hb, heq⟩ := List.mem_map.mp hmem
          rcases List.mem_or_eq_of_mem_set hb with hb | rfl
          · exact h.1 (heq ▸ List.mem_map_of_mem hb)
          · exact new.1 heq.symm

theorem nodup_map_of_sublist {items kept : List α} (h : (items.map key).Nodup)
    (hk : kept.Sublist items) : (kept.map key).Nodup :=
  (hk.map key).nodup h

/-- Where keys are different, what is found under a key is the item that has it. -/
theorem find?_key_eq_some_iff [BEq β] [LawfulBEq β] {items : List α} (h : (items.map key).Nodup) {k : β}
    {a : α} : items.find? (fun b => key b == k) = some a ↔ a ∈ items ∧ key a = k := by
  constructor
  · intro hfind
    have hkey : (key a == k) = true := List.find?_some (p := fun b => key b == k) hfind
    exact ⟨List.mem_of_find?_eq_some hfind, beq_iff_eq.mp hkey⟩
  · rintro ⟨hmem, hkey⟩
    induction items with
    | nil => exact absurd hmem List.not_mem_nil
    | cons first rest ih =>
        rw [List.map_cons, List.nodup_cons] at h
        rw [List.find?_cons]
        rcases List.mem_cons.mp hmem with rfl | hmem
        · rw [beq_iff_eq.mpr hkey]
        · have hother : key first ≠ k := by
            intro heq
            exact h.1 (heq ▸ hkey ▸ List.mem_map_of_mem hmem)
          rw [beq_eq_false_iff_ne.mpr hother]
          exact ih h.2 hmem

/-- The different items of a list are each there once. -/
theorem nodup_eraseDups [DecidableEq α] (items : List α) : items.eraseDups.Nodup := by
  match items with
  | [] => simp
  | a :: rest =>
      rw [List.eraseDups_cons, List.nodup_cons]
      refine ⟨?_, nodup_eraseDups _⟩
      simp [List.mem_eraseDups]
termination_by items.length
decreasing_by exact Nat.lt_succ_of_le (List.length_filter_le _ _)

/-! ## Properties of all items -/

theorem forall_mem_append_singleton {P : α → Prop} {items : List α} {item : α}
    (h : ∀ a ∈ items, P a) (hi : P item) : ∀ a ∈ items ++ [item], P a := by
  intro a ha
  rcases List.mem_append.mp ha with ha | ha
  · exact h a ha
  · exact List.mem_singleton.mp ha ▸ hi

theorem forall_mem_set {P : α → Prop} {items : List α} {index : Nat} {item : α}
    (h : ∀ a ∈ items, P a) (hi : P item) : ∀ a ∈ items.set index item, P a := by
  intro a ha
  rcases List.mem_or_eq_of_mem_set ha with ha | rfl
  · exact h a ha
  · exact hi

theorem forall_mem_eraseIdx {P : α → Prop} {items : List α} {index : Nat} (h : ∀ a ∈ items, P a) :
    ∀ a ∈ items.eraseIdx index, P a :=
  fun a ha => h a (List.mem_of_mem_eraseIdx ha)

/-! ## What entries give -/

/-- What each entry gives has the key of the entry, so all together have the keys in their order. -/
theorem map_filterMap_sublist {γ : Type} {entries : List γ} {give : γ → Option α} {keyOf : γ → β}
    (h : ∀ entry ∈ entries, ∀ a, give entry = some a → key a = keyOf entry) :
    ((entries.filterMap give).map key).Sublist (entries.map keyOf) := by
  induction entries with
  | nil => exact List.Sublist.slnil
  | cons entry rest ih =>
      rw [List.forall_mem_cons] at h
      cases hgive : give entry with
      | none =>
          rw [List.filterMap_cons_none hgive, List.map_cons]
          exact (ih h.2).cons _
      | some a =>
          rw [List.filterMap_cons_some hgive, List.map_cons, List.map_cons, h.1 a hgive]
          exact (ih h.2).cons_cons _

/-- Items that all give something give all of it. -/
theorem mapM_eq_some_map {f : α → Option β} {g : α → β} {items : List α}
    (h : ∀ a ∈ items, f a = some (g a)) : items.mapM f = some (items.map g) := by
  induction items with
  | nil => rfl
  | cons a items ih =>
      obtain ⟨ha, hitems⟩ := List.forall_mem_cons.mp h
      rw [List.mapM_cons, ha, ih hitems]
      rfl

/-- A list whose items are all given by something is given by a list. -/
theorem exists_map_eq {give : α → β} {P : α → Prop} {items : List β}
    (h : ∀ b ∈ items, ∃ a, P a ∧ give a = b) :
    ∃ given : List α, given.map give = items ∧ ∀ a ∈ given, P a := by
  induction items with
  | nil => exact ⟨[], rfl, List.forall_mem_nil _⟩
  | cons b rest ih =>
      rw [List.forall_mem_cons] at h
      obtain ⟨a, ha, rfl⟩ := h.1
      obtain ⟨given, rfl, hgiven⟩ := ih h.2
      exact ⟨a :: given, List.map_cons, List.forall_mem_cons.mpr ⟨ha, hgiven⟩⟩

/-! ## What is found -/

/-- Conditions that say the same of all items find the same item. -/
theorem find?_congr {p q : α → Bool} {items : List α} (h : ∀ a ∈ items, p a = q a) :
    items.find? p = items.find? q := by
  rw [← List.head?_filter, List.filter_congr h, List.head?_filter]

theorem findRev?_congr {p q : α → Bool} {items : List α} (h : ∀ a ∈ items, p a = q a) :
    items.findRev? p = items.findRev? q := by
  rw [List.findRev?_eq_find?_reverse, List.findRev?_eq_find?_reverse,
    find?_congr fun a ha => h a (List.mem_reverse.mp ha)]

/-- An item stands where what it gives stands, if no other item gives the same. -/
theorem idxOf_map_of_inj [DecidableEq α] [DecidableEq β] {give : α → β} {items : List α} {a : α}
    (h : ∀ b ∈ items, give b = give a → b = a) : (items.map give).idxOf (give a) = items.idxOf a := by
  induction items with
  | nil => rfl
  | cons b rest ih =>
      rw [List.forall_mem_cons] at h
      rw [List.map_cons, List.idxOf_cons, List.idxOf_cons, ih h.2]
      by_cases hb : b = a
      · rw [hb, beq_self_eq_true, beq_self_eq_true]
      · rw [beq_eq_false_iff_ne.mpr hb, beq_eq_false_iff_ne.mpr fun heq => hb (h.1 heq)]

/-! ## The greatest of some numbers -/

theorem le_foldl_max {n start : Nat} {ns : List Nat} (h : n ≤ start ∨ n ∈ ns) :
    n ≤ ns.foldl max start := by
  induction ns generalizing start with
  | nil => simpa using h
  | cons m ms ih =>
      refine ih ?_
      rcases h with h | h
      · exact Or.inl (Nat.le_trans h (Nat.le_max_left start m))
      · rcases List.mem_cons.mp h with rfl | h
        · exact Or.inl (Nat.le_max_right start n)
        · exact Or.inr h

theorem foldl_max_mem (start : Nat) (ns : List Nat) :
    ns.foldl max start = start ∨ ns.foldl max start ∈ ns := by
  induction ns generalizing start with
  | nil => exact Or.inl rfl
  | cons m ms ih =>
      rw [List.foldl_cons]
      rcases ih (max start m) with h | h
      · rw [h]
        rcases Nat.le_total start m with hle | hle
        · exact Or.inr (by rw [Nat.max_eq_right hle]; exact List.mem_cons_self)
        · exact Or.inl (Nat.max_eq_left hle)
      · exact Or.inr (List.mem_cons_of_mem m h)

/-! ## The items before the first exception -/

/-- The items that have a property up to the first one that does not are told by what follows them. -/
theorem takeWhile_dropWhile_append {p : α → Bool} {items rest : List α} (h : ∀ a ∈ items, p a = true)
    (hr : ∀ a, rest.head? = some a → p a = false) :
    (items ++ rest).takeWhile p = items ∧ (items ++ rest).dropWhile p = rest := by
  rw [List.takeWhile_append_of_pos h, List.dropWhile_append_of_pos h]
  cases rest with
  | nil => exact ⟨List.append_nil items, rfl⟩
  | cons b bs => simp [hr b rfl]

/-! ## Lists in a strict order -/

/-- A list in a strict order is told by its items. -/
theorem eq_of_pairwise_of_mem_iff {R : α → α → Prop} (hR : ∀ a b, R a b → ¬ R b a) {as bs : List α}
    (ha : as.Pairwise R) (hb : bs.Pairwise R) (hmem : ∀ a, a ∈ as ↔ a ∈ bs) : as = bs := by
  -- nothing is repeated in a strict order, so the same items are the same list up to order
  have hne : ∀ {a b : α}, R a b → a ≠ b := fun hab heq => hR _ _ hab (heq ▸ hab)
  have hperm : as.Perm bs :=
    (List.perm_ext_iff_of_nodup (ha.imp hne) (hb.imp hne)).mpr hmem
  exact hperm.eq_of_pairwise (fun a b _ _ hab hba => absurd hba (hR a b hab)) ha hb

/-! ## First appearances -/

section FirstAppearances

variable [DecidableEq α]

/-- **The different items of a list, in the order in which they appear first.** -/
structure FirstAppearances (items firsts : List α) : Prop where
  mem_iff : ∀ a, a ∈ firsts ↔ a ∈ items
  inOrder : firsts.Pairwise fun a b => items.idxOf a < items.idxOf b

theorem firstAppearances_nil : FirstAppearances ([] : List α) [] where
  mem_iff := by simp
  inOrder := List.Pairwise.nil

theorem FirstAppearances.nodup {items firsts : List α} (h : FirstAppearances items firsts) :
    firsts.Nodup :=
  h.inOrder.imp fun hlt heq => absurd (heq ▸ hlt) (Nat.lt_irrefl _)

/-- There is only one way to list first appearances. -/
theorem FirstAppearances.unique {items firsts others : List α} (h : FirstAppearances items firsts)
    (h' : FirstAppearances items others) : firsts = others :=
  eq_of_pairwise_of_mem_iff (fun _ _ => Nat.lt_asymm) h.inOrder h'.inOrder
    fun a => (h.mem_iff a).trans (h'.mem_iff a).symm

/-- Places of first appearance stay when a list grows at its end. -/
theorem FirstAppearances.inOrder_append {items firsts : List α} (h : FirstAppearances items firsts)
    (more : List α) :
    firsts.Pairwise fun a b => (items ++ more).idxOf a < (items ++ more).idxOf b := by
  refine h.inOrder.imp_of_mem fun {a b} ha hb hlt => ?_
  rw [List.idxOf_append, if_pos ((h.mem_iff a).mp ha), List.idxOf_append,
    if_pos ((h.mem_iff b).mp hb)]
  exact hlt

/-- An item that appeared before changes nothing. -/
theorem FirstAppearances.append_mem {items firsts : List α} {item : α}
    (h : FirstAppearances items firsts) (hi : item ∈ firsts) :
    FirstAppearances (items ++ [item]) firsts where
  mem_iff a := by
    have hitem : item ∈ items := (h.mem_iff item).mp hi
    rw [h.mem_iff, List.mem_append, List.mem_singleton]
    constructor
    · exact Or.inl
    · rintro (ha | rfl)
      · exact ha
      · exact hitem
  inOrder := h.inOrder_append [item]

/-- An item that did not appear before comes last. -/
theorem FirstAppearances.append_new {items firsts : List α} {item : α}
    (h : FirstAppearances items firsts) (hi : item ∉ firsts) :
    FirstAppearances (items ++ [item]) (firsts ++ [item]) where
  mem_iff a := by rw [List.mem_append, List.mem_append, h.mem_iff]
  inOrder := by
    have hitem : item ∉ items := fun hmem => hi ((h.mem_iff item).mpr hmem)
    refine List.pairwise_append.mpr ⟨h.inOrder_append [item], List.pairwise_singleton _ _, ?_⟩
    intro a ha b hb
    have ha' : a ∈ items := (h.mem_iff a).mp ha
    rw [List.mem_singleton.mp hb, List.idxOf_append, if_pos ha', List.idxOf_append, if_neg hitem]
    have := List.idxOf_lt_length_of_mem ha'
    omega

/-- Where different items give different things, items appear first where what they give appears first. -/
theorem FirstAppearances.of_map [DecidableEq β] {give : α → β} {items firsts : List α}
    (h : FirstAppearances (items.map give) (firsts.map give)) (hsub : firsts ⊆ items)
    (hinj : ∀ a ∈ items, ∀ b ∈ items, give a = give b → a = b) : FirstAppearances items firsts where
  mem_iff a := by
    constructor
    · intro ha
      exact hsub ha
    · intro ha
      obtain ⟨b, hb, heq⟩ := List.mem_map.mp ((h.mem_iff (give a)).mpr (List.mem_map_of_mem ha))
      rwa [← hinj b (hsub hb) a ha heq]
  inOrder := by
    refine (List.pairwise_map.mp h.inOrder).imp_of_mem fun {a b} ha hb hlt => ?_
    rwa [idxOf_map_of_inj fun c hc => hinj c hc a (hsub ha),
      idxOf_map_of_inj fun c hc => hinj c hc b (hsub hb)] at hlt

end FirstAppearances

end QueryDesk
