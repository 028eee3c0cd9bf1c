import QueryDesk.Text.Letter
import Mathlib.Data.List.Infix

/-! # Words in a text of any letter case

What `lowered` leaves as it is has some lower case of its own by the Unicode standard. `LowerCase` holds of every
list of characters that can be the lower case of a text, whatever the tables and the rules for the end of a word say
of the characters beyond ASCII, and an ASCII word stands in all of them or in none (`infix_lowered_iff`). So `contains`
on `lowered` tells whether it stands in the lower case.
-/

set_option autoImplicit false

namespace QueryDesk.Text

/-- **`contains` finds a word wherever it stands.** -/
theorem contains_iff {word cs : List Char} : contains word cs = true ↔ word <:+: cs := by
  induction cs with
  | nil => rw [contains, List.isEmpty_iff, List.infix_nil]
  | cons c cs ih => rw [contains, Bool.or_eq_true, List.isPrefixOf_iff_prefix, ih, List.infix_cons_iff]

/-! ## Lower case -/

/-- **A run of characters beyond ASCII.** -/
structure Foreign (ds : List Char) : Prop where
  ne_nil : ds ≠ []
  far : ∀ d ∈ ds, 128 ≤ d.toNat

/-- **A lower case of one character**: that of an ASCII letter is the small letter, and beyond ASCII only two
characters have an ASCII letter in theirs. -/
inductive LowersTo (c : Char) : List Char → Prop
  | ascii (near : c.toNat < 128) : LowersTo c [c.toLower]
  | kelvin (sign : c.toNat = 0x212A) : LowersTo c ['k']
  | dotted (capital : c.toNat = 0x130) : LowersTo c ['i', Char.ofNat 0x307]
  | foreign {ds : List Char} (far : 128 ≤ c.toNat) (sign : c.toNat ≠ 0x212A) (capital : c.toNat ≠ 0x130)
      (run : Foreign ds) : LowersTo c ds

/-- **A lower case of a text**, character by character. -/
inductive LowerCase : List Char → List Char → Prop
  | nil : LowerCase [] []
  | cons {c : Char} {cs ds es : List Char} (first : LowersTo c ds) (rest : LowerCase cs es) :
      LowerCase (c :: cs) (ds ++ es)

/-- Beyond ASCII `toLower` changes nothing. -/
theorem toLower_eq_self {c : Char} (far : 128 ≤ c.toNat) : c.toLower = c := by
  unfold Char.toLower
  rw [dif_neg]
  rintro ⟨-, hz⟩
  have hle : c.toNat ≤ 90 := UInt32.le_iff_toNat_le.mp hz
  omega

theorem lowersTo_loweredChar (c : Char) : LowersTo c (loweredChar c) := by
  unfold loweredChar
  split
  next sign => exact .kelvin (beq_iff_eq.mp sign)
  next sign =>
      split
      next capital => exact .dotted (beq_iff_eq.mp capital)
      next capital =>
          rw [beq_iff_eq] at sign capital
          rcases Nat.lt_or_ge c.toNat 128 with near | far
          · exact .ascii near
          · rw [toLower_eq_self far]
            exact .foreign far sign capital ⟨List.cons_ne_nil c [], by simpa using far⟩

theorem lowerCase_flatMap (cs : List Char) : LowerCase cs (cs.flatMap loweredChar) := by
  induction cs with
  | nil => exact .nil
  | cons c cs ih => exact .cons (lowersTo_loweredChar c) ih

/-- **`lowered` is a lower case** of the text. -/
theorem lowerCase_lowered (s : String) : LowerCase s.toList (lowered s) := lowerCase_flatMap s.toList

/-- Two lower cases of one character are the same, or both beyond ASCII. -/
theorem LowersTo.same_or_foreign {c : Char} {ds ds' : List Char} (h : LowersTo c ds) (h' : LowersTo c ds') :
    ds = ds' ∨ Foreign ds ∧ Foreign ds' := by
  cases h with
  | foreign far sign capital run =>
      cases h' with
      | foreign _ _ _ run' => exact Or.inr ⟨run, run'⟩
      | _ => omega
  | ascii near =>
      cases h' with
      | ascii _ => exact Or.inl rfl
      | _ => omega
  | kelvin sign =>
      cases h' with
      | kelvin _ => exact Or.inl rfl
      | _ => omega
  | dotted capital =>
      cases h' with
      | dotted _ => exact Or.inl rfl
      | _ => omega

/-! ## Texts with the same ASCII words -/

/-- **Two texts that are alike to ASCII words**: they differ in runs of characters beyond ASCII only. -/
inductive Alike : List Char → List Char → Prop
  | nil : Alike [] []
  | same (c : Char) {es fs : List Char} (rest : Alike es fs) : Alike (c :: es) (c :: fs)
  | foreign {ds ds' es fs : List Char} (run : Foreign ds) (run' : Foreign ds') (rest : Alike es fs) :
      Alike (ds ++ es) (ds' ++ fs)

theorem Alike.append_same (ds : List Char) {es fs : List Char} (h : Alike es fs) : Alike (ds ++ es) (ds ++ fs) := by
  induction ds with
  | nil => exact h
  | cons d ds ih => exact .same d ih

/-- All lower cases of a text are alike to ASCII words. -/
theorem LowerCase.alike {cs es fs : List Char} (h : LowerCase cs es) (h' : LowerCase cs fs) : Alike es fs := by
  induction h generalizing fs with
  | nil =>
      cases h'
      exact .nil
  | cons first _ ih =>
      cases h' with
      | cons first' rest' =>
          rcases first.same_or_foreign first' with rfl | ⟨run, run'⟩
          · exact (ih rest').append_same _
          · exact .foreign run run' (ih rest')

variable {word es fs : List Char}

/-- No ASCII word begins with a character beyond ASCII. -/
theorem Foreign.begins_no_word {ds : List Char} (run : Foreign ds) {w : Char} (hw : w.toNat < 128) :
    ¬(w :: word) <+: ds ++ es := by
  obtain ⟨d, ds, rfl⟩ := List.exists_cons_of_ne_nil run.ne_nil
  rw [List.cons_append, List.cons_prefix_cons]
  rintro ⟨rfl, -⟩
  have := run.far w List.mem_cons_self
  omega

theorem Alike.begins_of_begins (h : Alike es fs) (hword : ∀ w ∈ word, w.toNat < 128) (hin : word <+: es) :
    word <+: fs := by
  induction h generalizing word with
  | nil => exact hin
  | same c _ ih =>
      cases word with
      | nil => exact List.nil_prefix
      | cons w word =>
          rw [List.cons_prefix_cons] at hin ⊢
          exact ⟨hin.1, ih (fun v hv => hword v (List.mem_cons_of_mem w hv)) hin.2⟩
  | foreign run _ _ _ =>
      cases word with
      | nil => exact List.nil_prefix
      | cons w word => exact absurd hin (run.begins_no_word (hword w List.mem_cons_self))

/-- An ASCII word in a text that begins beyond ASCII stands in the rest of it. -/
theorem stands_of_stands_append {w : Char} (hw : w.toNat < 128) {ds : List Char} (far : ∀ d ∈ ds, 128 ≤ d.toNat)
    (h : (w :: word) <:+: ds ++ es) : (w :: word) <:+: es := by
  induction ds with
  | nil => exact h
  | cons d ds ih =>
      rw [List.cons_append, List.infix_cons_iff] at h
      rcases h with h | h
      · exact absurd h (Foreign.begins_no_word ⟨List.cons_ne_nil d ds, far⟩ hw)
      · exact ih (fun e he => far e (List.mem_cons_of_mem d he)) h

theorem Alike.stands_of_stands (h : Alike es fs) (hword : ∀ w ∈ word, w.toNat < 128) (hin : word <:+: es) :
    word <:+: fs := by
  cases word with
  | nil => exact List.nil_infix
  | cons w word =>
      induction h with
      | nil => exact hin
      | same c rest ih =>
          rw [List.infix_cons_iff] at hin ⊢
          exact hin.imp ((Alike.same c rest).begins_of_begins hword) ih
      | foreign run _ _ ih =>
          have hrest := stands_of_stands_append (hword w List.mem_cons_self) run.far hin
          exact (ih hrest).trans (List.suffix_append _ _).isInfix

/-- **An ASCII word stands in every lower case of a text or in none.** -/
theorem infix_lowered_iff {s : String} {lower : List Char} (h : LowerCase s.toList lower)
    (hword : ∀ w ∈ word, w.toNat < 128) : word <:+: lowered s ↔ word <:+: lower :=
  ⟨((lowerCase_lowered s).alike h).stands_of_stands hword, (h.alike (lowerCase_lowered s)).stands_of_stands hword⟩

end QueryDesk.Text
