import QueryDesk.Proofs.Json.Lexing

/-! # Reading what was written

Both ways to write a value are scanned into the same tokens (`lex?_compact`, `lex?_prettyAt`), and the
reader puts these together to the value (`run_tokens`). So a value is read back from either text
(`parse?_toCompact`, `parse?_toPretty`, `parse?_toPretty_line`) when every part of it can be held and every number in it is
scanned back from its own text (`Writable`).
-/

set_option autoImplicit false

namespace QueryDesk.Json

/-- Whether a value that is no container is written so that it is read back. -/
def LeafScansBack : Json → Prop
  | .number n => n.ScansBack
  | .unheld => False
  | _ => True

/-- **Whether every part of a value is written so that it is read back.** -/
def Writable (v : Json) : Prop := v.Leaves LeafScansBack

/-! ## The tokens of a value -/

mutual

/-- **The tokens of a value.** -/
def tokens : Json → List Token
  | .null => [.null]
  | .bool b => [.bool b]
  | .number n => [.number (some n)]
  | .text s => [.text (some s)]
  | .array items => .openArray :: itemTokens items
  | .object members => .openObject :: memberTokens members
  | .unheld => [.null]

/-- The tokens of the items of an array and of its end. -/
def itemTokens : List Json → List Token
  | [] => [.closeArray]
  | v :: rest => tokens v ++ moreItemTokens rest

/-- The tokens of further items of an array and of its end. -/
def moreItemTokens : List Json → List Token
  | [] => [.closeArray]
  | v :: rest => .comma :: tokens v ++ moreItemTokens rest

/-- The tokens of the members of an object and of its end. -/
def memberTokens : List (String × Json) → List Token
  | [] => [.closeObject]
  | (key, v) :: rest => .text (some key) :: .colon :: tokens v ++ moreMemberTokens rest

/-- The tokens of further members of an object and of its end. -/
def moreMemberTokens : List (String × Json) → List Token
  | [] => [.closeObject]
  | (key, v) :: rest => .comma :: .text (some key) :: .colon :: tokens v ++ moreMemberTokens rest

end

/-! ## Scanning the text of a value -/

theorem lex?_quoted (s : String) (rest : List Char) :
    lex? (quoted s ++ rest) = (lex? rest).map (.text (some s) :: ·) := by
  have hscan := scan?_quoted s rest
  rw [quoted, List.cons_append, List.cons_append] at hscan ⊢
  exact lex?_of_scan? rfl hscan

theorem lex?_comma (rest : List Char) : lex? (',' :: rest) = (lex? rest).map (.comma :: ·) :=
  lex?_of_scan? rfl rfl

theorem lex?_colon (rest : List Char) : lex? (':' :: rest) = (lex? rest).map (.colon :: ·) :=
  lex?_of_scan? rfl rfl

theorem lex?_openArray (rest : List Char) : lex? ('[' :: rest) = (lex? rest).map (.openArray :: ·) :=
  lex?_of_scan? rfl rfl

theorem lex?_closeArray (rest : List Char) : lex? (']' :: rest) = (lex? rest).map (.closeArray :: ·) :=
  lex?_of_scan? rfl rfl

theorem lex?_openObject (rest : List Char) :
    lex? ('\x7b' :: rest) = (lex? rest).map (.openObject :: ·) :=
  lex?_of_scan? rfl rfl

theorem lex?_closeObject (rest : List Char) :
    lex? ('\x7d' :: rest) = (lex? rest).map (.closeObject :: ·) :=
  lex?_of_scan? rfl rfl

theorem lex?_null (rest : List Char) :
    lex? ('n' :: 'u' :: 'l' :: 'l' :: rest) = (lex? rest).map (.null :: ·) :=
  lex?_of_scan? rfl rfl

theorem lex?_number {n : Numeral} (h : n.ScansBack) {rest : List Char} (hends : NumeralEnds rest) :
    lex? (numeralText n ++ rest) = (lex? rest).map (.number (some n) :: ·) := by
  obtain ⟨c, cs, htext, hc⟩ := h.text_eq_cons
  have hscan := h.scan? hends
  rw [htext, List.cons_append] at hscan ⊢
  exact lex?_of_scan? (isGap_of_inNumeral hc) hscan

/-- The spaces in front of a line do not count. -/
theorem lex?_newLine (level : Nat) (rest : List Char) : lex? (newLine level ++ rest) = lex? rest := by
  have hspaces : ∀ k, lex? (List.replicate k ' ' ++ rest) = lex? rest := by
    intro k
    induction k with
    | zero => rfl
    | succ k ih =>
        rw [List.replicate_succ, List.cons_append, lex?_gap rfl, ih]
  rw [newLine, List.cons_append, lex?_gap rfl, hspaces]

/-- A value that is no container is scanned as its one token. -/
theorem lex?_scalarText {v : Json} (hleaf : ∀ items, v ≠ .array items)
    (hleaf' : ∀ members, v ≠ .object members) (hv : LeafScansBack v) {rest : List Char}
    (hends : NumeralEnds rest) :
    lex? (scalarText v ++ rest) = (lex? rest).map (tokens v ++ ·) := by
  cases v with
  | null => exact lex?_null rest
  | bool b => cases b <;> exact lex?_of_scan? rfl rfl
  | number n => exact lex?_number hv hends
  | text s => exact lex?_quoted s rest
  | array items => exact absurd rfl (hleaf items)
  | object members => exact absurd rfl (hleaf' members)
  | unheld => exact hv.elim

/-! ### Without gaps -/

theorem numeralEnds_compactMoreItems (items : List Json) (rest : List Char) :
    NumeralEnds (compactMoreItems items ++ rest) := by
  cases items with
  | nil => exact numeralEnds_cons (by decide) _
  | cons v items => exact numeralEnds_cons (by decide) _

theorem numeralEnds_compactMoreMembers (members : List (String × Json)) (rest : List Char) :
    NumeralEnds (compactMoreMembers members ++ rest) := by
  cases members with
  | nil => exact numeralEnds_cons (by decide) _
  | cons m members => exact numeralEnds_cons (by decide) _

mutual

/-- **A value without gaps is scanned into its tokens.** -/
theorem lex?_compact : (v : Json) → Writable v → (rest : List Char) → NumeralEnds rest →
    lex? (compact v ++ rest) = (lex? rest).map (tokens v ++ ·)
  | .array items, hv, rest, _ => by
      rw [compact, List.cons_append, lex?_openArray, lex?_compactItems items hv, Option.map_map, tokens]
      rfl
  | .object members, hv, rest, _ => by
      rw [compact, List.cons_append, lex?_openObject, lex?_compactMembers members hv, Option.map_map,
        tokens]
      rfl
  | .null, hv, rest, hends => lex?_scalarText (v := .null) (by simp) (by simp) hv hends
  | .bool b, hv, rest, hends => lex?_scalarText (v := .bool b) (by simp) (by simp) hv hends
  | .number n, hv, rest, hends => lex?_scalarText (v := .number n) (by simp) (by simp) hv hends
  | .text s, hv, rest, hends => lex?_scalarText (v := .text s) (by simp) (by simp) hv hends
  | .unheld, hv, _, _ => hv.elim

-- Behind an item comes a comma or the end of the array, and neither goes on with a number.
theorem lex?_compactItems : (items : List Json) → LeavesOfItems LeafScansBack items →
    ∀ rest, lex? (compactItems items ++ rest) = (lex? rest).map (itemTokens items ++ ·)
  | [], _, rest => lex?_closeArray rest
  | v :: items, hitems, rest => by
      rw [compactItems, List.append_assoc,
        lex?_compact v hitems.1 _ (numeralEnds_compactMoreItems items rest),
        lex?_compactMoreItems items hitems.2, Option.map_map, itemTokens]
      simp only [Function.comp_def, List.append_assoc]

theorem lex?_compactMoreItems : (items : List Json) → LeavesOfItems LeafScansBack items →
    ∀ rest, lex? (compactMoreItems items ++ rest) = (lex? rest).map (moreItemTokens items ++ ·)
  | [], _, rest => lex?_closeArray rest
  | v :: items, hitems, rest => by
      rw [compactMoreItems, List.cons_append, List.cons_append, List.append_assoc, lex?_comma,
        lex?_compact v hitems.1 _ (numeralEnds_compactMoreItems items rest),
        lex?_compactMoreItems items hitems.2, Option.map_map, Option.map_map, moreItemTokens]
      simp only [Function.comp_def, List.append_assoc, List.cons_append]

theorem lex?_compactMembers : (members : List (String × Json)) →
    LeavesOfMembers LeafScansBack members →
    ∀ rest, lex? (compactMembers members ++ rest) = (lex? rest).map (memberTokens members ++ ·)
  | [], _, rest => lex?_closeObject rest
  | (key, v) :: members, hmembers, rest => by
      rw [compactMembers, List.append_assoc, List.append_assoc, List.cons_append, lex?_quoted, lex?_colon,
        lex?_compact v hmembers.1 _ (numeralEnds_compactMoreMembers members rest),
        lex?_compactMoreMembers members hmembers.2, Option.map_map, Option.map_map, Option.map_map,
        memberTokens]
      simp only [Function.comp_def, List.append_assoc, List.cons_append]

theorem lex?_compactMoreMembers : (members : List (String × Json)) →
    LeavesOfMembers LeafScansBack members →
    ∀ rest, lex? (compactMoreMembers members ++ rest) = (lex? rest).map (moreMemberTokens members ++ ·)
  | [], _, rest => lex?_closeObject rest
  | (key, v) :: members, hmembers, rest => by
      rw [compactMoreMembers]
      simp only [List.cons_append, List.append_assoc]
      rw [lex?_comma, lex?_quoted, lex?_colon,
        lex?_compact v hmembers.1 _ (numeralEnds_compactMoreMembers members rest),
        lex?_compactMoreMembers members hmembers.2, Option.map_map, Option.map_map, Option.map_map,
        Option.map_map, moreMemberTokens]
      simp only [Function.comp_def, List.append_assoc, List.cons_append]

end

/-! ### With a line for every item -/

theorem numeralEnds_prettyMoreItems (level : Nat) (items : List Json) (rest : List Char) :
    NumeralEnds (prettyMoreItems level items ++ rest) := by
  cases items with
  | nil => exact numeralEnds_cons (by decide) _
  | cons v items => exact numeralEnds_cons (by decide) _

theorem numeralEnds_prettyMoreMembers (level : Nat) (members : List (String × Json))
    (rest : List Char) : NumeralEnds (prettyMoreMembers level members ++ rest) := by
  cases members with
  | nil => exact numeralEnds_cons (by decide) _
  | cons m members => exact numeralEnds_cons (by decide) _

mutual

/-- **A value with a line for every item is scanned into the same tokens.** -/
theorem lex?_prettyAt : (level : Nat) → (v : Json) → Writable v → (rest : List Char) →
    NumeralEnds rest → lex? (prettyAt level v ++ rest) = (lex? rest).map (tokens v ++ ·)
  | _, .array [], _, rest, _ => by
      rw [prettyAt, List.cons_append, List.cons_append, List.nil_append, lex?_openArray,
        lex?_closeArray, Option.map_map]
      rfl
  | level, .array (v :: items), hv, rest, _ => by
      rw [prettyAt]
      simp only [List.cons_append, List.append_assoc]
      rw [lex?_openArray, lex?_newLine,
        lex?_prettyAt (level + 1) v hv.1 _ (numeralEnds_prettyMoreItems level items rest),
        lex?_prettyMoreItems level items hv.2, Option.map_map, Option.map_map, tokens, itemTokens]
      simp only [Function.comp_def, List.append_assoc, List.cons_append]
  | _, .object [], _, rest, _ => by
      rw [prettyAt, List.cons_append, List.cons_append, List.nil_append, lex?_openObject,
        lex?_closeObject, Option.map_map]
      rfl
  | level, .object ((key, v) :: members), hv, rest, _ => by
      rw [prettyAt]
      simp only [List.cons_append, List.append_assoc]
      rw [lex?_openObject, lex?_newLine, lex?_quoted, lex?_colon, lex?_gap rfl,
        lex?_prettyAt (level + 1) v hv.1 _ (numeralEnds_prettyMoreMembers level members rest),
        lex?_prettyMoreMembers level members hv.2, Option.map_map, Option.map_map, Option.map_map,
        Option.map_map, tokens, memberTokens]
      simp only [Function.comp_def, List.append_assoc, List.cons_append]
  | _, .null, hv, _, hends => lex?_scalarText (v := .null) (by simp) (by simp) hv hends
  | _, .bool b, hv, _, hends => lex?_scalarText (v := .bool b) (by simp) (by simp) hv hends
  | _, .number n, hv, _, hends => lex?_scalarText (v := .number n) (by simp) (by simp) hv hends
  | _, .text s, hv, _, hends => lex?_scalarText (v := .text s) (by simp) (by simp) hv hends
  | _, .unheld, hv, _, _ => hv.elim

-- The end of a container stands on a line of its own, at the level outside of it.
theorem lex?_prettyMoreItems : (level : Nat) → (items : List Json) →
    LeavesOfItems LeafScansBack items →
    ∀ rest, lex? (prettyMoreItems level items ++ rest) = (lex? rest).map (moreItemTokens items ++ ·)
  | level, [], _, rest => by
      rw [prettyMoreItems, List.append_assoc, lex?_newLine]
      exact lex?_closeArray rest
  | level, v :: items, hitems, rest => by
      rw [prettyMoreItems]
      simp only [List.cons_append, List.append_assoc]
      rw [lex?_comma, lex?_newLine,
        lex?_prettyAt (level + 1) v hitems.1 _ (numeralEnds_prettyMoreItems level items rest),
        lex?_prettyMoreItems level items hitems.2, Option.map_map, Option.map_map, moreItemTokens]
      simp only [Function.comp_def, List.append_assoc, List.cons_append]

theorem lex?_prettyMoreMembers : (level : Nat) → (members : List (String × Json)) →
    LeavesOfMembers LeafScansBack members →
    ∀ rest, lex? (prettyMoreMembers level members ++ rest) =
      (lex? rest).map (moreMemberTokens members ++ ·)
  | level, [], _, rest => by
      rw [prettyMoreMembers, List.append_assoc, lex?_newLine]
      exact lex?_closeObject rest
  | level, (key, v) :: members, hmembers, rest => by
      rw [prettyMoreMembers]
      simp only [List.cons_append, List.append_assoc]
      rw [lex?_comma, lex?_newLine, lex?_quoted, lex?_colon, lex?_gap rfl,
        lex?_prettyAt (level + 1) v hmembers.1 _ (numeralEnds_prettyMoreMembers level members rest),
        lex?_prettyMoreMembers level members hmembers.2, Option.map_map, Option.map_map,
        Option.map_map, Option.map_map, moreMemberTokens]
      simp only [Function.comp_def, List.append_assoc, List.cons_append]

end

/-! ## Putting the tokens together -/

namespace Reading

/-- A value is begun in an array just opened as anywhere else. -/
theorem run_firstItem (v : Json) (outer : List Frame) (ts : List Token) :
    run (.firstItem outer) (tokens v ++ ts) = run (.value (.items [] :: outer)) (tokens v ++ ts) := by
  cases v <;> rfl

mutual

/-- **The tokens of a value are put together to the value.** -/
theorem run_tokens : (v : Json) → Writable v → (outer : List Frame) → (ts : List Token) →
    run (.value outer) (tokens v ++ ts) = run (deliver v outer) ts
  | .array [], _, _, _ => rfl
  | .array (v :: items), hv, outer, ts => by
      show run (.firstItem outer) (tokens v ++ moreItemTokens items ++ ts) = _
      rw [List.append_assoc, run_firstItem, run_tokens v hv.1]
      exact run_moreItemTokens items hv.2 [v] outer ts
  | .object [], _, _, _ => rfl
  | .object ((key, v) :: members), hv, outer, ts => by
      show run (.value (.member (some []) (some key) :: outer))
        (tokens v ++ moreMemberTokens members ++ ts) = _
      rw [List.append_assoc, run_tokens v hv.1]
      exact run_moreMemberTokens members hv.2 [(key, v)] outer ts
  | .null, _, _, _ => rfl
  | .bool _, _, _, _ => rfl
  | .number _, _, _, _ => rfl
  | .text _, _, _, _ => rfl
  | .unheld, hv, _, _ => hv.elim

-- What was read of a container is kept last first, so the rest goes behind its reverse.
theorem run_moreItemTokens : (items : List Json) → LeavesOfItems LeafScansBack items →
    (done : List Json) → (outer : List Frame) → (ts : List Token) →
    run (.afterItem done outer) (moreItemTokens items ++ ts) =
      run (deliver (.array (done.reverse ++ items)) outer) ts
  | [], _, done, outer, ts => by
      rw [List.append_nil]
      rfl
  | v :: items, hitems, done, outer, ts => by
      show run (.value (.items done :: outer)) (tokens v ++ moreItemTokens items ++ ts) = _
      rw [List.append_assoc, run_tokens v hitems.1, deliver,
        run_moreItemTokens items hitems.2 (v :: done) outer ts, List.reverse_cons, List.append_assoc,
        List.singleton_append]

theorem run_moreMemberTokens : (members : List (String × Json)) →
    LeavesOfMembers LeafScansBack members →
    (done : List (String × Json)) → (outer : List Frame) → (ts : List Token) →
    run (.afterMember (some done) outer) (moreMemberTokens members ++ ts) =
      run (deliver (.object (done.reverse ++ members)) outer) ts
  | [], _, done, outer, ts => by
      rw [List.append_nil]
      rfl
  | (key, v) :: members, hmembers, done, outer, ts => by
      show run (.value (.member (some done) (some key) :: outer))
        (tokens v ++ moreMemberTokens members ++ ts) = _
      rw [List.append_assoc, run_tokens v hmembers.1, deliver, addMember,
        run_moreMemberTokens members hmembers.2 ((key, v) :: done) outer ts, List.reverse_cons,
        List.append_assoc, List.singleton_append]

end

end Reading

theorem ofTokens?_tokens {v : Json} (hv : Writable v) : ofTokens? (tokens v) = some v := by
  have hrun := Reading.run_tokens v hv [] []
  rw [List.append_nil] at hrun
  rw [ofTokens?, hrun]
  rfl

/-! ## Reading the text of a value -/

/-- **A value is read back from its text without gaps.** -/
theorem parse?_toCompact {v : Json} (hv : Writable v) : parse? v.toCompact = some v := by
  have hlex := lex?_compact v hv [] numeralEnds_nil
  rw [List.append_nil, lex?_nil, Option.map_some, List.append_nil] at hlex
  rw [parse?, toCompact, String.toList_ofList, hlex, Option.bind_some, ofTokens?_tokens hv]

/-- **A value is read back from its text with a line for every item.** -/
theorem parse?_toPretty {v : Json} (hv : Writable v) : parse? v.toPretty = some v := by
  have hlex := lex?_prettyAt 0 v hv [] numeralEnds_nil
  rw [List.append_nil, lex?_nil, Option.map_some, List.append_nil] at hlex
  rw [parse?, toPretty, pretty, String.toList_ofList, hlex, Option.bind_some, ofTokens?_tokens hv]

/-- A value is read back as well when the end of a line stands behind its text. -/
theorem parse?_toPretty_line {v : Json} (hv : Writable v) : parse? (v.toPretty ++ "\n") = some v := by
  have hlex := lex?_prettyAt 0 v hv ['\n'] (numeralEnds_cons (by decide) _)
  rw [lex?_gap rfl, lex?_nil, Option.map_some, List.append_nil] at hlex
  have htext : (v.toPretty ++ "\n").toList = prettyAt 0 v ++ ['\n'] := by
    rw [String.toList_append, toPretty, pretty, String.toList_ofList]
    rfl
  rw [parse?, htext, hlex, Option.bind_some, ofTokens?_tokens hv]

end QueryDesk.Json
