import QueryDesk.Calendar.Pattern
import QueryDesk.Proofs.Text.Scan

/-! # Patterns cut into slices

`FirstSlice` is the grammar of patterns: what stands first in a text, and which segment it makes. Quoted
text goes before tokens, of the tokens the longest one counts, and a run of characters that start neither
is as long as it can be. A pattern is cut by this grammar from left to right, in one way only, and its
segments are those of the slices (`segments_sliced`).
-/

set_option autoImplicit false

namespace QueryDesk

open Text (anyChar? run? repeated? exactChar?_eq_some_iff anyChar?_eq_some_iff run?_eq_some_iff
  repeated?_of_eq_none repeated?_of_eq_some)

/-! ## Tokens -/

namespace Token

theorem mem_all (t : Token) : t ∈ all := by cases t <;> decide

theorem spelling_ne_nil (t : Token) : t.spelling ≠ [] := by cases t <;> decide

theorem spelling_injective {t u : Token} (h : t.spelling = u.spelling) : t = u := by
  have hall : ∀ t ∈ all, ∀ u ∈ all, t.spelling = u.spelling → t = u := by decide
  exact hall t (mem_all t) u (mem_all u) h

/-- No token is spelled by a token after it and more. -/
theorem pairwise_all : all.Pairwise fun t u => t.spelling <+: u.spelling → t.spelling = u.spelling := by
  decide

/-- **The longest of the tokens that a text begins with.** -/
structure Longest (text : List Char) (t : Token) : Prop where
  ahead : t.spelling <+: text
  longest : ∀ u : Token, u.spelling <+: text → u.spelling.length ≤ t.spelling.length

theorem Longest.unique {text : List Char} {t u : Token} (ht : Longest text t) (hu : Longest text u) :
    t = u := by
  have hlength : t.spelling.length = u.spelling.length :=
    Nat.le_antisymm (hu.longest t ht.ahead) (ht.longest u hu.ahead)
  have hahead : t.spelling <+: u.spelling :=
    List.prefix_of_prefix_length_le ht.ahead hu.ahead (Nat.le_of_eq hlength)
  exact spelling_injective (hahead.eq_of_length hlength)

/-- Trying the tokens in their order finds the longest one: what comes before another token is never a
beginning of it. -/
theorem longest_of_start? {text : List Char} {t : Token} (h : start? text = some t) : Longest text t := by
  obtain ⟨hfound, before, after, hall, hbefore⟩ := List.find?_eq_some_iff_append.mp h
  have hahead : t.spelling <+: text := List.isPrefixOf_iff_prefix.mp hfound
  refine ⟨hahead, fun u hu => Nat.le_of_not_lt fun hlonger => ?_⟩
  have hstart : t.spelling <+: u.spelling :=
    List.prefix_of_prefix_length_le hahead hu (Nat.le_of_lt hlonger)
  have hmem : u ∈ before ++ t :: after := hall ▸ mem_all u
  rcases List.mem_append.mp hmem with hmem | hmem
  · -- it would have been found first
    have htried := hbefore u hmem
    rw [List.isPrefixOf_iff_prefix.mpr hu] at htried
    exact Bool.noConfusion htried
  · rcases List.mem_cons.mp hmem with rfl | hmem
    · exact Nat.lt_irrefl _ hlonger
    · have hpairs := List.pairwise_append.mp (hall ▸ pairwise_all)
      have hsame := (List.pairwise_cons.mp hpairs.2.1).1 u hmem hstart
      exact Nat.lt_irrefl _ (hsame ▸ hlonger)

theorem start?_eq_some_iff {text : List Char} {t : Token} : start? text = some t ↔ Longest text t := by
  constructor
  · exact longest_of_start?
  · intro h
    obtain ⟨u, hu⟩ : ∃ u, start? text = some u := by
      have hsome : (start? text).isSome :=
        List.find?_isSome.mpr ⟨t, mem_all t, List.isPrefixOf_iff_prefix.mpr h.ahead⟩
      exact Option.isSome_iff_exists.mp hsome
    rw [hu, (longest_of_start? hu).unique h]

theorem start?_eq_none_iff {text : List Char} :
    start? text = none ↔ ∀ t : Token, ¬t.spelling <+: text := by
  rw [start?, List.find?_eq_none]
  constructor
  · intro h t ht
    exact h t (mem_all t) (List.isPrefixOf_iff_prefix.mpr ht)
  · intro h t _ ht
    exact h t (List.isPrefixOf_iff_prefix.mp ht)

end Token

namespace Pattern

/-! ## The grammar -/

/-- A text that begins with an apostrophe and has another one. -/
def QuotedAhead (text : List Char) : Prop := ∃ after, text = quote :: after ∧ quote ∈ after

/-- A character that neither a token nor quoted text starts with. -/
def StartsNothing (c : Char) : Prop := c ≠ quote ∧ ∀ t : Token, t.spelling.head? ≠ some c

/-- **What stands first in a text**: a slice of it, and the segment that the slice makes. -/
inductive FirstSlice (text : List Char) : List Char → Segment → Prop
  /-- Text between two apostrophes; with nothing between them they make an apostrophe. -/
  | quoted {inside after : List Char} (split : text = quote :: (inside ++ quote :: after))
      (next : quote ∉ inside) :
      FirstSlice text (quote :: (inside ++ [quote]))
        (if inside = [] then .char quote else .literal inside)
  /-- The longest token. -/
  | token {t : Token} (unquoted : ¬QuotedAhead text) (longest : Token.Longest text t) :
      FirstSlice text t.spelling (.token t)
  /-- All characters up to the first one that may start something. -/
  | run {run after : List Char} (split : text = run ++ after) (nonempty : run ≠ [])
      (inside : ∀ c ∈ run, StartsNothing c) (outside : ∀ c, after.head? = some c → ¬StartsNothing c) :
      FirstSlice text run (.literal run)
  /-- A character that could have started something. -/
  | single {c : Char} {after : List Char} (split : text = c :: after) (unquoted : ¬QuotedAhead text)
      (noToken : ∀ t : Token, ¬t.spelling <+: text) (starts : ¬StartsNothing c) :
      FirstSlice text [c] (.char c)

/-- **A text cut by the grammar from left to right**: slices, and the segments that they make. -/
inductive Sliced : List Char → List (List Char × Segment) → Prop
  | nil : Sliced [] []
  | cons {slice rest : List Char} {s : Segment} {more : List (List Char × Segment)}
      (first : FirstSlice (slice ++ rest) slice s) (others : Sliced rest more) :
      Sliced (slice ++ rest) ((slice, s) :: more)

/-! ## The grammar is exact -/

variable {text slice : List Char} {s : Segment}

theorem FirstSlice.ne_nil (h : FirstSlice text slice s) : slice ≠ [] := by
  cases h with
  | quoted => exact List.cons_ne_nil _ _
  | token => exact Token.spelling_ne_nil _
  | run _ nonempty => exact nonempty
  | single => exact List.cons_ne_nil _ _

theorem isStart_iff {c : Char} :
    isStart c = true ↔ c = quote ∨ ∃ t : Token, t.spelling.head? = some c := by
  constructor
  · intro h
    have hall : ['y', 'M', 'd', 'H', 'h', 't', 'm', 's', 'Q', quote].all
        (fun d => d == quote || Token.all.any fun t => t.spelling.head? == some d) = true := by decide
    have hc := List.all_eq_true.mp hall c (List.contains_iff_mem.mp h)
    simp only [Bool.or_eq_true, beq_iff_eq, List.any_eq_true] at hc
    obtain hquote | ⟨t, -, ht⟩ := hc
    · exact Or.inl hquote
    · exact Or.inr ⟨t, ht⟩
  · rintro (rfl | ⟨t, ht⟩)
    · decide
    · have hall : ∀ t ∈ Token.all, t.spelling.head?.all isStart = true := by decide
      have h := hall t (Token.mem_all t)
      rwa [ht] at h

theorem isStart_eq_false_iff {c : Char} : isStart c = false ↔ StartsNothing c := by
  rw [← Bool.not_eq_true, isStart_iff, not_or, not_exists]
  rfl

theorem quoted?_eq_some_iff {inside rest : List Char} :
    quoted? text = some (inside, rest) ↔ text = quote :: (inside ++ quote :: rest) ∧ quote ∉ inside := by
  simp only [quoted?, Option.bind_eq_bind, Option.bind_eq_some_iff, Option.some.injEq, Prod.mk.injEq,
    exactChar?_eq_some_iff]
  constructor
  · rintro ⟨after, rfl, rest, hrest, rfl, rfl⟩
    refine ⟨?_, ?_⟩
    · rw [← hrest, List.takeWhile_append_dropWhile]
    · intro hmem
      simpa using List.all_eq_true.mp List.all_takeWhile quote hmem
  · rintro ⟨rfl, hnext⟩
    have hinside : ∀ c ∈ inside, (c != quote) = true :=
      fun c hc => bne_iff_ne.mpr fun heq => hnext (heq ▸ hc)
    obtain ⟨htake, hdrop⟩ := @takeWhile_dropWhile_append _ _ _ (quote :: rest) hinside (by simp)
    exact ⟨_, rfl, rest, hdrop, htake, rfl⟩

theorem quotedAhead_of_quoted? {inside rest : List Char} (h : quoted? text = some (inside, rest)) :
    QuotedAhead text :=
  ⟨inside ++ quote :: rest, (quoted?_eq_some_iff.mp h).1, by simp⟩

theorem quoted?_eq_none_iff : quoted? text = none ↔ ¬QuotedAhead text := by
  constructor
  · rintro hnone ⟨after, rfl, hmem⟩
    obtain ⟨inside, rest, rfl, hnext⟩ := List.eq_append_cons_of_mem hmem
    rw [quoted?_eq_some_iff.mpr ⟨rfl, hnext⟩] at hnone
    exact absurd hnone (Option.some_ne_none _)
  · intro hahead
    cases h : quoted? text with
    | none => rfl
    | some found => exact absurd (quotedAhead_of_quoted? h) hahead

theorem token?_eq_some_iff {t : Token} {rest : List Char} :
    token? text = some (t, rest) ↔ text = t.spelling ++ rest ∧ Token.Longest text t := by
  rw [token?, Option.map_eq_some_iff]
  constructor
  · rintro ⟨u, hu, heq⟩
    obtain ⟨rfl, rfl⟩ := Prod.mk.inj heq
    have hlongest := Token.start?_eq_some_iff.mp hu
    obtain ⟨after, rfl⟩ := hlongest.ahead
    exact ⟨by rw [List.drop_left], hlongest⟩
  · rintro ⟨hsplit, hlongest⟩
    refine ⟨t, Token.start?_eq_some_iff.mpr hlongest, ?_⟩
    rw [hsplit, List.drop_left]

theorem token?_eq_none_iff : token? text = none ↔ ∀ t : Token, ¬t.spelling <+: text := by
  rw [token?, Option.map_eq_none_iff, Token.start?_eq_none_iff]

/-- A run of characters that start nothing begins neither with a token nor with quoted text. -/
theorem not_quotedAhead_of_startsNothing {c : Char} {after : List Char} (h : StartsNothing c) :
    ¬QuotedAhead (c :: after) := by
  rintro ⟨_, heq, -⟩
  exact h.1 (List.cons.inj heq).1

theorem no_token_of_startsNothing {c : Char} {after : List Char} (h : StartsNothing c) (t : Token) :
    ¬t.spelling <+: c :: after := by
  intro hahead
  obtain ⟨d, ds, hspelling⟩ := List.exists_cons_of_ne_nil t.spelling_ne_nil
  rw [hspelling, List.cons_prefix_cons] at hahead
  exact h.2 t (by rw [hspelling, List.head?_cons, hahead.1])

theorem ofQuoted_eq (inside : List Char) :
    ofQuoted inside = if inside = [] then .char quote else .literal inside := by
  cases inside <;> rfl

/-- What stands first is read as the segment that it makes. -/
theorem FirstSlice.segment?_eq (h : FirstSlice text slice s) :
    ∃ rest, text = slice ++ rest ∧ segment? text = some (s, rest) := by
  cases h with
  | @quoted inside after split next =>
      have hquoted := quoted?_eq_some_iff.mpr ⟨split, next⟩
      refine ⟨after, by simpa using split, ?_⟩
      simp [segment?, hquoted, ofQuoted_eq]
  | @token t unquoted longest =>
      obtain ⟨after, hsplit⟩ := longest.ahead
      have hquoted := quoted?_eq_none_iff.mpr unquoted
      have htoken := token?_eq_some_iff.mpr ⟨hsplit.symm, longest⟩
      exact ⟨after, hsplit.symm, by simp [segment?, hquoted, htoken]⟩
  | @run _ after split nonempty inside outside =>
      obtain ⟨c, cs, rfl⟩ := List.exists_cons_of_ne_nil nonempty
      have hc : StartsNothing c := inside c List.mem_cons_self
      have hquoted : quoted? text = none :=
        quoted?_eq_none_iff.mpr (split ▸ not_quotedAhead_of_startsNothing hc)
      have htoken : token? text = none :=
        token?_eq_none_iff.mpr (split ▸ no_token_of_startsNothing hc)
      have hrun : run? (!isStart ·) text = some (c :: cs, after) := by
        refine run?_eq_some_iff.mpr ⟨split, nonempty, ?_, ?_⟩
        · intro d hd
          rw [isStart_eq_false_iff.mpr (inside d hd)]
          rfl
        · intro d hd
          have := outside d hd
          rw [← isStart_eq_false_iff, Bool.not_eq_false] at this
          rw [this]
          rfl
      exact ⟨after, split, by simp [segment?, hquoted, htoken, hrun]⟩
  | @single c after split unquoted noToken starts =>
      have hquoted := quoted?_eq_none_iff.mpr unquoted
      have htoken := token?_eq_none_iff.mpr noToken
      have hrun : run? (!isStart ·) text = none := by
        rw [← isStart_eq_false_iff, Bool.not_eq_false] at starts
        rw [split]
        simp [run?, starts]
      have hany := anyChar?_eq_some_iff.mpr split
      exact ⟨after, split, by simp [segment?, hquoted, htoken, hrun, hany]⟩

/-- **The first slice is told by the text.** -/
theorem FirstSlice.unique {other : List Char} {s' : Segment} (h : FirstSlice text slice s)
    (h' : FirstSlice text other s') : slice = other ∧ s = s' := by
  obtain ⟨rest, hsplit, hread⟩ := h.segment?_eq
  obtain ⟨rest', hsplit', hread'⟩ := h'.segment?_eq
  obtain ⟨rfl, rfl⟩ := Prod.mk.inj (Option.some.inj (hread.symm.trans hread'))
  exact ⟨List.append_cancel_right (hsplit.symm.trans hsplit'), rfl⟩

/-- A text that is not empty has a first slice, of the kind that is tried first. -/
theorem exists_firstSlice (h : text ≠ []) : ∃ slice s, FirstSlice text slice s := by
  by_cases hquoted : QuotedAhead text
  · obtain ⟨after, rfl, hmem⟩ := hquoted
    obtain ⟨inside, rest, rfl, hnext⟩ := List.eq_append_cons_of_mem hmem
    exact ⟨_, _, .quoted rfl hnext⟩
  · cases htoken : Token.start? text with
    | some t => exact ⟨_, _, .token hquoted (Token.start?_eq_some_iff.mp htoken)⟩
    | none =>
        obtain ⟨c, cs, rfl⟩ := List.exists_cons_of_ne_nil h
        cases hrun : run? (!isStart ·) (c :: cs) with
        | some found =>
            obtain ⟨split, nonempty, inside, outside⟩ := run?_eq_some_iff.mp hrun
            refine ⟨_, _, .run split nonempty ?_ ?_⟩
            · intro d hd
              exact isStart_eq_false_iff.mp (by simpa using inside d hd)
            · intro d hd
              rw [← isStart_eq_false_iff]
              simpa using outside d hd
        | none =>
            refine ⟨_, _, .single rfl hquoted (Token.start?_eq_none_iff.mp htoken) ?_⟩
            rw [← isStart_eq_false_iff]
            intro hstart
            simp [run?, hstart] at hrun

/-! ## Whole patterns -/

theorem Sliced.flatten_eq {pieces : List (List Char × Segment)} (h : Sliced text pieces) :
    (pieces.map Prod.fst).flatten = text := by
  induction h with
  | nil => rfl
  | cons first others ih => rw [List.map_cons, List.flatten_cons, ih]

theorem Sliced.ne_nil {pieces : List (List Char × Segment)} (h : Sliced text pieces) :
    ∀ piece ∈ pieces, piece.1 ≠ [] := by
  induction h with
  | nil => simp
  | cons first others ih =>
      rw [List.forall_mem_cons]
      exact ⟨first.ne_nil, ih⟩

/-- **A text is cut in one way only.** -/
theorem Sliced.unique {pieces others : List (List Char × Segment)} (h : Sliced text pieces)
    (h' : Sliced text others) : pieces = others := by
  induction h generalizing others with
  | nil =>
      generalize htext : ([] : List Char) = text at h'
      cases h' with
      | nil => rfl
      | cons first others =>
          exact absurd (List.append_eq_nil_iff.mp htext.symm).1 first.ne_nil
  | @cons slice rest s more first _ ih =>
      generalize htext : slice ++ rest = text at h'
      cases h' with
      | nil => exact absurd (List.append_eq_nil_iff.mp htext).1 first.ne_nil
      | @cons slice' rest' s' more' first' others' =>
          rw [← htext] at first'
          obtain ⟨rfl, rfl⟩ := first.unique first'
          rw [← List.append_cancel_left htext] at others'
          rw [ih others']

/-- **Reading segments until none is left cuts the text**: every one of them takes something, so that
reading comes to the end of the text and the error of a repetition without progress does not arise. -/
theorem exists_sliced (text : List Char) :
    ∃ pieces, Sliced text pieces ∧ repeated? segment? text = some (pieces.map Prod.snd, []) := by
  -- by induction on the length, since what is left is a part of the text but no tail of it
  induction hlength : text.length using Nat.strongRecOn generalizing text with
  | ind n ih =>
      by_cases hempty : text = []
      · subst hempty
        exact ⟨[], .nil, repeated?_of_eq_none rfl⟩
      · obtain ⟨slice, s, hfirst⟩ := exists_firstSlice hempty
        obtain ⟨rest, rfl, hread⟩ := hfirst.segment?_eq
        have hpos : 0 < slice.length := List.length_pos_iff.mpr hfirst.ne_nil
        have hshorter : rest.length < (slice ++ rest).length := by
          rw [List.length_append]
          omega
        obtain ⟨more, hmore, hrepeated⟩ := ih rest.length (hlength ▸ hshorter) rest rfl
        refine ⟨(slice, s) :: more, .cons hfirst hmore, ?_⟩
        rw [repeated?_of_eq_some hread hshorter, hrepeated]
        rfl

/-- **The segments of a pattern are those of its slices.** Reading them never comes to the error of a
repetition without progress. They correspond to consecutive parts of the pattern, none of them empty, which
together are the pattern; each part is what stands first in the text from its place on: quoted text, or else
the longest token, or else the longest run of characters that start neither, or else one character. No other
parts are. -/
theorem segments_sliced (pattern : List Char) :
    ∃ pieces, Sliced pattern pieces ∧
      repeated? segment? pattern = some (segments pattern, []) ∧
      pieces.map Prod.snd = segments pattern ∧
      (pieces.map Prod.fst).flatten = pattern ∧ (∀ piece ∈ pieces, piece.1 ≠ []) ∧
      ∀ others, Sliced pattern others → others = pieces := by
  obtain ⟨pieces, hsliced, hrepeated⟩ := exists_sliced pattern
  have hsegments : segments pattern = pieces.map Prod.snd := by
    rw [segments, hrepeated]
  exact ⟨pieces, hsliced, hsegments ▸ hrepeated, hsegments.symm, hsliced.flatten_eq, hsliced.ne_nil,
    fun others hothers => hothers.unique hsliced⟩

/-- Three times the letter of the year are a year in two digits and a letter, and an apostrophe without
another one is a character. -/
example : segments ['y', 'y', 'y', quote, 'a', 't', quote, quote, quote, 'h', quote, 'o'] =
    [.token .year2, .char 'y', .literal ['a', 't'], .char quote, .token .hour12, .char quote,
     .literal ['o']] := by decide +kernel

end Pattern

end QueryDesk
