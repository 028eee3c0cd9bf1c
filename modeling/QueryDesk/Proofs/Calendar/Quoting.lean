import QueryDesk.Calendar.Rendering
import QueryDesk.Proofs.Calendar.Pattern

/-! # Text in quotes

A pattern can hold any text so that it is copied: what holds no apostrophe stands between two apostrophes,
and an apostrophe is written twice (`Pattern.quoting`). The apostrophe that closes a run and the two that
stand for one are the same character, so what is proved is that reading comes to stand behind each of them:
quoted text is rendered as it was, and what follows it as if nothing stood before it
(`format_quoted_append`).
-/

set_option autoImplicit false

namespace QueryDesk

open Text (repeated?_of_eq_none repeated?_of_eq_some)

namespace Pattern

/-- **A text in quotes**: every longest run of characters other than apostrophes between two apostrophes, and
two apostrophes for every apostrophe. -/
def quoting : List Char → List Char
  | [] => []
  | c :: cs =>
    if c = quote then quote :: quote :: quoting cs
    else quote :: c :: (cs.takeWhile (· != quote) ++ quote :: quoting (cs.dropWhile (· != quote)))
termination_by cs => cs.length
decreasing_by
  · exact Nat.lt_succ_self _
  · exact Nat.lt_succ_of_le (List.dropWhile_sublist _).length_le

/-- A text in quotes, as a string. -/
def quoted (s : String) : String := String.ofList (quoting s.toList)

/-! ## One segment and the rest -/

/-- **What stands first in a pattern is its first segment**, and the others are those of the rest. -/
theorem segments_of_firstSlice {slice rest : List Char} {s : Segment}
    (h : FirstSlice (slice ++ rest) slice s) : segments (slice ++ rest) = s :: segments rest := by
  obtain ⟨rest', hsplit, hread⟩ := h.segment?_eq
  obtain rfl := List.append_cancel_left hsplit
  obtain ⟨pieces, -, hrepeated⟩ := exists_sliced rest
  have hpos : 0 < slice.length := List.length_pos_iff.mpr h.ne_nil
  have hshorter : rest.length < (slice ++ rest).length := by
    rw [List.length_append]
    omega
  have hrest : segments rest = pieces.map Prod.snd := by rw [segments, hrepeated]
  rw [segments, repeated?_of_eq_some hread hshorter, hrepeated, hrest]
  rfl

/-- Two apostrophes with none between them are one segment, whatever follows. -/
theorem segments_quoted {inside : List Char} (h : quote ∉ inside) (rest : List Char) :
    segments (quote :: (inside ++ quote :: rest)) =
      (if inside = [] then .char quote else .literal inside) :: segments rest := by
  have hslice : quote :: (inside ++ quote :: rest) = quote :: (inside ++ [quote]) ++ rest := by simp
  have hfirst : FirstSlice (quote :: (inside ++ quote :: rest)) (quote :: (inside ++ [quote])) _ :=
    .quoted rfl h
  rw [hslice] at hfirst ⊢
  exact segments_of_firstSlice hfirst

end Pattern

/-! ## Quoted text is copied -/

namespace Moment

open Pattern (quote quoting segments_quoted)

variable (m : Moment)

/-- An apostrophe written twice is copied once. -/
theorem render_quote_quote (rest : List Char) :
    m.render (quote :: quote :: rest) = quote :: m.render rest := by
  have hsegments := segments_quoted List.not_mem_nil rest
  rw [List.nil_append, if_pos rfl] at hsegments
  rw [render, hsegments, List.flatMap_cons]
  rfl

/-- What stands between two apostrophes is copied. -/
theorem render_quoted {inside : List Char} (hne : inside ≠ []) (h : quote ∉ inside) (rest : List Char) :
    m.render (quote :: (inside ++ quote :: rest)) = inside ++ m.render rest := by
  have hsegments := segments_quoted h rest
  rw [if_neg hne] at hsegments
  rw [render, hsegments, List.flatMap_cons]
  rfl

/-- **A text in quotes is rendered as the text**, and the rest of the pattern as it is without it. -/
theorem render_quoting_append (text rest : List Char) :
    m.render (quoting text ++ rest) = text ++ m.render rest := by
  -- along the runs of the text, with any pattern behind
  fun_induction quoting text with
  | case1 => rfl
  | case2 cs ih =>
      show m.render (quote :: quote :: (quoting cs ++ rest)) = quote :: (cs ++ m.render rest)
      rw [render_quote_quote, ih]
  | case3 c cs hc ih =>
      have hrun : quote ∉ c :: cs.takeWhile (· != quote) := by
        intro hmem
        rcases List.mem_cons.mp hmem with heq | hmem
        · exact hc heq.symm
        · simpa using List.all_eq_true.mp List.all_takeWhile quote hmem
      have hbehind := m.render_quoted (List.cons_ne_nil _ _) hrun
        (quoting (cs.dropWhile (· != quote)) ++ rest)
      calc m.render (quote :: c :: (cs.takeWhile (· != quote) ++
              quote :: quoting (cs.dropWhile (· != quote))) ++ rest)
          = (c :: cs.takeWhile (· != quote)) ++
              m.render (quoting (cs.dropWhile (· != quote)) ++ rest) := by
            rw [← hbehind]
            simp
        _ = c :: (cs.takeWhile (· != quote) ++ cs.dropWhile (· != quote)) ++ m.render rest := by
            rw [ih, ← List.append_assoc, List.cons_append]
        _ = c :: cs ++ m.render rest := by rw [List.takeWhile_append_dropWhile]

/-- Nothing is rendered from the empty pattern. -/
theorem render_nil : m.render [] = [] := by
  rw [render, Pattern.segments, repeated?_of_eq_none rfl]
  rfl

/-- **Quotes protect any text.** A pattern that begins with a text in quotes is rendered as the text and then
as the rest of the pattern: nothing in the text is taken for a field, apostrophes among it come out as they
were, and what follows the quotes is rendered as if they were not there. So every text is rendered from some
pattern, whatever the moment. -/
theorem format_quoted_append (m : Moment) (s : String) :
    (∀ p : String, m.format (Pattern.quoted s ++ p) = s ++ m.format p) ∧
      m.format (Pattern.quoted s) = s := by
  refine ⟨?_, ?_⟩
  · intro p
    rw [format, format, Pattern.quoted, String.toList_append, String.toList_ofList,
      render_quoting_append, String.ofList_append, String.ofList_toList]
  · have halone := m.render_quoting_append s.toList []
    rw [List.append_nil, render_nil, List.append_nil] at halone
    rw [format, Pattern.quoted, String.toList_ofList, halone, String.ofList_toList]

/-- Letters of fields and an apostrophe between them come out as they were. -/
example : Pattern.quoted "It's day" = "'It''''s day'" ∧
    (⟨⟨2024, 2, 1, by decide, by decide⟩, .midnight⟩ : Moment).format ("'It''''s day'" ++ "' d") =
      "It's day' 1" := by decide +kernel

end Moment

end QueryDesk
