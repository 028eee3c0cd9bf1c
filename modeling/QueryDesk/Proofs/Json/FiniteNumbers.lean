import QueryDesk.Json.Reading
import QueryDesk.Proofs.Json.Leaves
import QueryDesk.Proofs.Number.Rounding

/-! # Numbers that were read are finite

A number beyond the doubles is no value, so every number in a value that was read is finite as a double
(`finite_of_parse?`). For a single number that is shown along its digits, scale and rounding
(`isFinite_of_ofParts?`); for a whole value it is an invariant of the reader (`Reading.Finite`), which every
token preserves.
-/

set_option autoImplicit false

namespace QueryDesk

namespace Numeral

/-! ## One number -/

/-- Whether the number is finite as a double. -/
def IsFinite (n : Numeral) : Prop := n.toDouble.isFinite = true

/-- The digits kept of a number fit into 64 bits. -/
theorem keepDigits_lt {n : Nat} (hn : n < UInt64.size) (cs : List Char) :
    (keepDigits n cs).1 < UInt64.size := by
  induction cs generalizing n with
  | nil => exact hn
  | cons c cs ih =>
      rw [keepDigits]
      by_cases hfits : fits (10 * n + Text.digitValue c) = true
      · rw [if_pos hfits]
        exact ih (of_decide_eq_true hfits)
      · rw [if_neg hfits]
        exact hn

theorem isFinite_shrink (negative : Bool) (m : Magnitude) {power : Nat} (h : 0 < power) :
    (shrink negative m power).isFinite = true := by
  have hsteps : 308 * ((power - 1) / 308) ≤ power - 1 := Nat.mul_div_le _ _
  unfold shrink
  apply Double.isFinite_overPowerOfTen
  omega

theorem isFinite_of_scaleDouble? {negative : Bool} {exponent : Int} {x y : Double}
    (h : scaleDouble? negative exponent x = some y) : y.isFinite = true := by
  cases x with
  | nan => simp [scaleDouble?] at h
  | infinite sign => simp [scaleDouble?] at h
  | finite sign m =>
      rw [scaleDouble?] at h
      split at h
      · next hneg =>
          rw [← Option.some.inj h]
          apply isFinite_shrink
          omega
      · split at h
        · -- growing is checked, shrinking need not be
          dsimp only at h
          split at h
          · next hfinite => rwa [← Option.some.inj h]
          · simp at h
        · split at h
          · rw [← Option.some.inj h]
            rfl
          · simp at h

/-- **A number that was read is finite.** -/
theorem isFinite_of_ofParts? {negative : Bool} {whole fraction : List Char} {exponent : Option Int}
    {n : Numeral} (h : ofParts? negative whole fraction exponent = some n) : n.IsFinite := by
  have hkept := keepDigits_lt (n := 0) (by decide) whole
  rw [ofParts?] at h
  dsimp only at h
  split at h
  · -- a whole number of 64 bits, or one below them with a sign
    split at h
    · rw [← Option.some.inj h]
      exact Double.isFinite_ofRatio_one (UInt64.toNat_lt _)
    · split at h
      · rw [← Option.some.inj h]
        exact Double.isFinite_ofRatio_one hkept
      · rw [← Option.some.inj h]
        refine Double.isFinite_ofRatio_one ?_
        rw [Int.natAbs_neg, Int.natAbs_natCast]
        exact UInt64.toNat_lt _
  · rw [Option.map_eq_some_iff] at h
    obtain ⟨x, hx, rfl⟩ := h
    exact isFinite_of_scaleDouble? hx

end Numeral

namespace Json

/-! ## Tokens -/

/-- Whether a token is no number beyond the finite doubles. -/
def Token.Finite (t : Token) : Prop := ∀ n, t = .number (some n) → n.IsFinite

theorem finite_of_scanNumber? {negative : Bool} {cs rest : List Char} {t : Token}
    (h : scanNumber? negative cs = some (t, rest)) : t.Finite := by
  simp only [scanNumber?, Option.ite_none_left_eq_some, Option.bind_eq_bind, Option.bind_eq_some_iff,
    Option.some.injEq, Prod.exists, Prod.mk.injEq] at h
  obtain ⟨-, _, _, -, _, _, -, rfl, -⟩ := h
  intro n hn
  exact Numeral.isFinite_of_ofParts? (Token.number.inj hn)

theorem finite_of_scan? {cs rest : List Char} {t : Token} (h : Token.scan? cs = some (t, rest)) :
    t.Finite := by
  unfold Token.scan? at h
  split at h
  case h_1 => simp at h
  case h_11 =>
      simp only [Option.bind_eq_bind, Option.bind_eq_some_iff, Option.some.injEq, Prod.exists,
        Prod.mk.injEq] at h
      obtain ⟨_, _, -, rfl, -⟩ := h
      intro n hn
      simp at hn
  case h_12 => exact finite_of_scanNumber? h
  case h_13 => exact finite_of_scanNumber? h
  all_goals
    obtain ⟨rfl, -⟩ := Prod.mk.inj (Option.some.inj h)
    intro n hn
    simp at hn

theorem finite_of_lex? {cs : List Char} {ts : List Token} (h : lex? cs = some ts) :
    ∀ t ∈ ts, t.Finite := by
  fun_induction lex? cs generalizing ts with
  | case1 cs hgap =>
      rw [← Option.some.inj h]
      intro t ht
      simp at ht
  | case2 cs c more hgap hscan => simp at h
  | case3 cs c more hgap t rest hscan ih =>
      rw [Option.map_eq_some_iff] at h
      obtain ⟨us, hus, rfl⟩ := h
      exact List.forall_mem_cons.mpr ⟨finite_of_scan? hscan, ih hus⟩

/-! ## Values -/

/-- Whether a value that is no container is no number beyond the finite doubles. -/
def FiniteLeaf : Json → Prop
  | .number n => n.IsFinite
  | _ => True

/-- **Whether every number in a value is finite.** -/
def Finite (v : Json) : Prop := v.Leaves FiniteLeaf

/-- Whether every number in the members read so far is finite. -/
def MembersFinite (done : MembersSoFar) : Prop :=
  ∀ members, done = some members → ∀ m ∈ members, m.2.Finite

/-- Whether every number in what was read of a container is finite. -/
def Frame.Finite : Frame → Prop
  | .items done => ∀ v ∈ done, v.Finite
  | .member done _ => MembersFinite done

namespace Reading

/-- **Whether every number read so far is finite.** -/
def Finite : Reading → Prop
  | .value outer => ∀ f ∈ outer, f.Finite
  | .firstItem outer => ∀ f ∈ outer, f.Finite
  | .afterItem done outer => (∀ v ∈ done, v.Finite) ∧ ∀ f ∈ outer, f.Finite
  | .firstKey outer => ∀ f ∈ outer, f.Finite
  | .nextKey done outer => MembersFinite done ∧ ∀ f ∈ outer, f.Finite
  | .colon done _ outer => MembersFinite done ∧ ∀ f ∈ outer, f.Finite
  | .afterMember done outer => MembersFinite done ∧ ∀ f ∈ outer, f.Finite
  | .complete v => v.Finite

theorem membersFinite_nil : MembersFinite (some []) := by
  intro members h m hm
  rw [← Option.some.inj h] at hm
  simp at hm

theorem membersFinite_addMember {done : MembersSoFar} {v : Json} (hdone : MembersFinite done)
    (key : Option String) (hv : v.Finite) : MembersFinite (addMember done key v) := by
  intro members h
  cases done with
  | none => simp [addMember] at h
  | some members' =>
      cases key with
      | none => simp [addMember] at h
      | some key =>
          rw [← Option.some.inj h]
          exact List.forall_mem_cons.mpr ⟨hv, hdone members' rfl⟩

theorem finite_deliver {v : Json} {outer : List Frame} (hv : v.Finite) (houter : ∀ f ∈ outer, f.Finite) :
    (deliver v outer).Finite := by
  cases outer with
  | nil => exact hv
  | cons f outer =>
      obtain ⟨hf, hrest⟩ := List.forall_mem_cons.mp houter
      cases f with
      | items done => exact ⟨List.forall_mem_cons.mpr ⟨hv, hf⟩, hrest⟩
      | member done key => exact ⟨membersFinite_addMember hf key hv, hrest⟩

theorem finite_endArray {done : List Json} {outer : List Frame} (hdone : ∀ v ∈ done, v.Finite)
    (houter : ∀ f ∈ outer, f.Finite) : (endArray done outer).Finite := by
  refine finite_deliver (leaves_array.mpr ?_) houter
  intro v hv
  exact hdone v (List.mem_reverse.mp hv)

theorem finite_endObject {done : MembersSoFar} {outer : List Frame} (hdone : MembersFinite done)
    (houter : ∀ f ∈ outer, f.Finite) : (endObject done outer).Finite := by
  cases done with
  | none => exact finite_deliver trivial houter
  | some members =>
      refine finite_deliver (leaves_object.mpr ?_) houter
      intro m hm
      exact hdone members rfl m (List.mem_reverse.mp hm)

theorem finite_startValue {outer : List Frame} {t : Token} {r : Reading} (ht : t.Finite)
    (houter : ∀ f ∈ outer, f.Finite) (h : startValue outer t = some r) : r.Finite := by
  unfold startValue at h
  split at h
  -- only here the value is made of what the token holds
  case h_5 n => exact Option.some.inj h ▸ finite_deliver (ht n rfl) houter
  case h_9 => simp at h
  all_goals rw [← Option.some.inj h]
  case h_1 => exact houter
  case h_2 => exact houter
  all_goals exact finite_deliver trivial houter

/-- **A token preserves that every number is finite.** -/
theorem Finite.step {r r' : Reading} {t : Token} (hr : r.Finite) (ht : t.Finite)
    (h : step r t = some r') : r'.Finite := by
  unfold Reading.step at h
  split at h
  case h_1 => exact finite_startValue ht hr h
  case h_2 => exact Option.some.inj h ▸ finite_endArray (by simp) hr
  case h_3 =>
      refine finite_startValue ht (List.forall_mem_cons.mpr ⟨?_, hr⟩) h
      intro v hv
      simp at hv
  case h_4 => exact Option.some.inj h ▸ List.forall_mem_cons.mpr hr
  case h_5 => exact Option.some.inj h ▸ finite_endArray hr.1 hr.2
  case h_6 => exact Option.some.inj h ▸ finite_endObject membersFinite_nil hr
  case h_7 => exact Option.some.inj h ▸ ⟨membersFinite_nil, hr⟩
  case h_8 => exact Option.some.inj h ▸ hr
  case h_9 => exact Option.some.inj h ▸ List.forall_mem_cons.mpr hr
  case h_10 => exact Option.some.inj h ▸ hr
  case h_11 => exact Option.some.inj h ▸ finite_endObject hr.1 hr.2
  case h_12 => simp at h

/-- Tokens in a row preserve that every number is finite. -/
theorem Finite.run {r r' : Reading} {ts : List Token} (hr : r.Finite) (hts : ∀ t ∈ ts, t.Finite)
    (h : run r ts = some r') : r'.Finite := by
  induction ts generalizing r with
  | nil => exact Option.some.inj h ▸ hr
  | cons t ts ih =>
      obtain ⟨ht, hts⟩ := List.forall_mem_cons.mp hts
      rw [Reading.run, Option.bind_eq_some_iff] at h
      obtain ⟨r₁, hstep, hrun⟩ := h
      exact ih (hr.step ht hstep) hts hrun

end Reading

/-- **Every number in a value that was read is finite.** -/
theorem finite_of_parse? {s : String} {v : Json} (h : parse? s = some v) : v.Finite := by
  rw [parse?, Option.bind_eq_some_iff] at h
  obtain ⟨ts, hlex, htokens⟩ := h
  have hstart : (Reading.value []).Finite := by
    intro f hf
    simp at hf
  unfold ofTokens? at htokens
  split at htokens
  · next w hrun =>
      have hcomplete := hstart.run (finite_of_lex? hlex) hrun
      exact Option.some.inj htokens ▸ hcomplete
  · simp at htokens

end Json

end QueryDesk
