import QueryDesk.Json.Written

/-! # The leaves of a JSON value

`Json.Leaves P v` says that `P` holds of every part of `v` that is no container. What a value needs to be
written and read back, and what is known of a value that was read, are both properties of its leaves.
-/

set_option autoImplicit false

namespace QueryDesk.Json

mutual

/-- **Whether a property holds of every part of a value that is no container.** -/
def Leaves (P : Json → Prop) : Json → Prop
  | .array items => LeavesOfItems P items
  | .object members => LeavesOfMembers P members
  | v => P v

def LeavesOfItems (P : Json → Prop) : List Json → Prop
  | [] => True
  | v :: rest => Leaves P v ∧ LeavesOfItems P rest

def LeavesOfMembers (P : Json → Prop) : List (String × Json) → Prop
  | [] => True
  | (_, v) :: rest => Leaves P v ∧ LeavesOfMembers P rest

end

variable {P : Json → Prop}

theorem leavesOfItems_iff {items : List Json} : LeavesOfItems P items ↔ ∀ v ∈ items, Leaves P v := by
  induction items with
  | nil => simp [LeavesOfItems]
  | cons v rest ih => rw [LeavesOfItems, ih, List.forall_mem_cons]

theorem leavesOfMembers_iff {members : List (String × Json)} :
    LeavesOfMembers P members ↔ ∀ m ∈ members, Leaves P m.2 := by
  induction members with
  | nil => simp [LeavesOfMembers]
  | cons m rest ih => rw [LeavesOfMembers, ih, List.forall_mem_cons]

theorem leaves_array {items : List Json} : Leaves P (.array items) ↔ ∀ v ∈ items, Leaves P v := by
  rw [Leaves, leavesOfItems_iff]

theorem leaves_object {members : List (String × Json)} :
    Leaves P (.object members) ↔ ∀ m ∈ members, Leaves P m.2 := by
  rw [Leaves, leavesOfMembers_iff]

theorem leaves_ofList {α : Type} {write : α → Json} {items : List α} :
    Leaves P (.ofList write items) ↔ ∀ a ∈ items, Leaves P (write a) := by
  rw [ofList, leaves_array, List.forall_mem_map]

/-! ## Sorted members -/

theorem leavesOfMembers_insertMember {key : String} {v : Json} {members : List (String × Json)}
    (hv : v.Leaves P) (h : LeavesOfMembers P members) :
    LeavesOfMembers P (insertMember key v members) := by
  induction members with
  | nil => exact ⟨hv, trivial⟩
  | cons m rest ih =>
      obtain ⟨k, w⟩ := m
      obtain ⟨hw, hrest⟩ := h
      rw [insertMember]
      split
      · exact ⟨hv, hw, hrest⟩
      · split
        · exact ⟨hv, hrest⟩
        · exact ⟨hw, ih hrest⟩

mutual

/-- **A value with sorted members has no other leaves.** -/
theorem leaves_sorted : (v : Json) → v.Leaves P → v.sorted.Leaves P
  | .array items, h => by
      rw [sorted]
      exact leavesOfItems_sortedItems items h
  | .object members, h => by
      rw [sorted]
      exact leavesOfMembers_sortedMembers members [] trivial h
  | .null, h => h
  | .bool _, h => h
  | .number _, h => h
  | .text _, h => h
  | .unheld, h => h

theorem leavesOfItems_sortedItems : (items : List Json) → LeavesOfItems P items →
    LeavesOfItems P (sortedItems items)
  | [], _ => trivial
  | v :: rest, h => ⟨leaves_sorted v h.1, leavesOfItems_sortedItems rest h.2⟩

theorem leavesOfMembers_sortedMembers : (members done : List (String × Json)) →
    LeavesOfMembers P done → LeavesOfMembers P members →
    LeavesOfMembers P (sortedMembers done members)
  | [], _, hdone, _ => hdone
  | (key, v) :: rest, done, hdone, h => by
      rw [sortedMembers]
      exact leavesOfMembers_sortedMembers rest _
        (leavesOfMembers_insertMember (leaves_sorted v h.1) hdone) h.2

end

/-! ## How deep a value nests -/

theorem heldWithin_array {limit : Nat} {items : List Json} (h : ∀ v ∈ items, v.heldWithin limit = true) :
    heldWithin (limit + 1) (.array items) = true := by
  show itemsHeldWithin limit items = true
  induction items with
  | nil => rfl
  | cons v rest ih =>
      rw [itemsHeldWithin, h v List.mem_cons_self, Bool.true_and]
      exact ih fun w hw => h w (List.mem_cons_of_mem v hw)

theorem heldWithin_object {limit : Nat} {members : List (String × Json)}
    (h : ∀ m ∈ members, m.2.heldWithin limit = true) :
    heldWithin (limit + 1) (.object members) = true := by
  show membersHeldWithin limit members = true
  induction members with
  | nil => rfl
  | cons m rest ih =>
      rw [membersHeldWithin, h m List.mem_cons_self, Bool.true_and]
      exact ih fun w hw => h w (List.mem_cons_of_mem m hw)

theorem heldWithin_ofList {α : Type} {write : α → Json} {items : List α} {limit : Nat}
    (h : ∀ a ∈ items, (write a).heldWithin limit = true) :
    heldWithin (limit + 1) (.ofList write items) = true :=
  heldWithin_array (List.forall_mem_map.mpr h)

end QueryDesk.Json
