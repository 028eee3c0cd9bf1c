import QueryDesk.Json.Basic
import QueryDesk.Number.Reading

/-! # JSON tokens

The tokens of a JSON text. `Token.scan?` reads the token a text begins with, `lex?` all of them; a
token is never empty (`scan?_length_lt`), which bounds the recursion.

A string is scanned into pieces, characters and code units from `\u` escapes, and the units are
joined afterwards: a string with half of a surrogate pair is a token without a text.
-/

set_option autoImplicit false

namespace QueryDesk.Json

/-- **A token.** `none` stands for a string or a number that cannot be held. -/
inductive Token where
  | openArray
  | closeArray
  | openObject
  | closeObject
  | colon
  | comma
  | null
  | bool (b : Bool)
  | number (n : Option Numeral)
  | text (s : Option String)
deriving DecidableEq

/-- The blanks between tokens: space, tab, line feed, carriage return. -/
def isGap (c : Char) : Bool := c == ' ' || c == '\t' || c == '\n' || c == '\r'

/-! ## Strings -/

/-- A piece of a scanned string: a character, or a code unit of an escape. -/
inductive Piece where
  | char (c : Char)
  | unit (u : Nat)
deriving DecidableEq

/-- The value of a hexadecimal digit. -/
def hexValue? (c : Char) : Option Nat :=
  if '0' ≤ c ∧ c ≤ '9' then some (c.toNat - 48)
  else if 'a' ≤ c ∧ c ≤ 'f' then some (c.toNat - 87)
  else if 'A' ≤ c ∧ c ≤ 'F' then some (c.toNat - 55)
  else none

/-- The code unit that four hexadecimal digits spell. -/
def hexUnit? (a b c d : Char) : Option Nat := do
  let a ← hexValue? a
  let b ← hexValue? b
  let c ← hexValue? c
  let d ← hexValue? d
  some (((a * 16 + b) * 16 + c) * 16 + d)

/-- The character that a backslash and a letter stand for. -/
def escaped? : Char → Option Char
  | '"' => some '"'
  | '\\' => some '\\'
  | '/' => some '/'
  | 'b' => some '\x08'
  | 'f' => some '\x0c'
  | 'n' => some '\n'
  | 'r' => some '\r'
  | 't' => some '\t'
  | _ => none

/-- The pieces of a string up to its closing quote, and what follows the quote. -/
def scanPieces? : List Char → Option (List Piece × List Char)
  | [] => none
  | '"' :: rest => some ([], rest)
  | '\\' :: 'u' :: a :: b :: c :: d :: rest => do
    let u ← hexUnit? a b c d
    let (pieces, rest) ← scanPieces? rest
    some (.unit u :: pieces, rest)
  | '\\' :: c :: rest => do
    let c ← escaped? c
    let (pieces, rest) ← scanPieces? rest
    some (.char c :: pieces, rest)
  | c :: rest =>
    if c.toNat < 0x20 then none
    else do
      let (pieces, rest) ← scanPieces? rest
      some (.char c :: pieces, rest)

/-- The text of a scanned string: the halves of a surrogate pair join, a half alone has no text. -/
def joinPieces? : List Piece → Option (List Char)
  | [] => some []
  | .char c :: rest => (joinPieces? rest).map (c :: ·)
  | .unit u :: rest =>
    if 0xD800 ≤ u ∧ u ≤ 0xDBFF then
      match rest with
      | .unit v :: rest =>
        if 0xDC00 ≤ v ∧ v ≤ 0xDFFF then
          (joinPieces? rest).map (Char.ofNat (0x10000 + (u - 0xD800) * 0x400 + (v - 0xDC00)) :: ·)
        else none
      | _ => none
    else if 0xDC00 ≤ u ∧ u ≤ 0xDFFF then none
    else (joinPieces? rest).map (Char.ofNat u :: ·)

/-! ## Numbers -/

/-- A fraction: a point with at least one digit behind it, or nothing. -/
def scanFraction? : List Char → Option (List Char × List Char)
  | '.' :: rest =>
    if (Text.spanDigits rest).1.isEmpty then none else some (Text.spanDigits rest)
  | cs => some ([], cs)

/-- An exponent: the letter, an optional sign, at least one digit; or nothing. -/
def scanExponent? (cs : List Char) : Option (Option Int × List Char) :=
  match cs with
  | [] => some (none, [])
  | c :: rest =>
    if c == 'e' || c == 'E' then
      let signed := takeSign rest
      let span := Text.spanDigits signed.2
      if span.1.isEmpty then none
      else
        let n := Text.digitsValue span.1
        some (some (if signed.1 then -(n : Int) else n), span.2)
    else some (none, cs)

/-- A number without its sign: digits without a leading zero, a fraction, an exponent. -/
def scanNumber? (negative : Bool) (cs : List Char) : Option (Token × List Char) :=
  let span := Text.spanDigits cs
  let whole := span.1
  if whole.isEmpty || (whole.head? == some '0' && whole.length != 1) then none
  else do
    let (fraction, rest) ← scanFraction? span.2
    let (exponent, rest) ← scanExponent? rest
    some (.number (Numeral.ofParts? negative whole fraction exponent), rest)

/-! ## Tokens -/

/-- **The token a text begins with**, and the rest of the text. -/
def Token.scan? : List Char → Option (Token × List Char)
  | [] => none
  | '[' :: rest => some (.openArray, rest)
  | ']' :: rest => some (.closeArray, rest)
  | '\x7b' :: rest => some (.openObject, rest)
  | '\x7d' :: rest => some (.closeObject, rest)
  | ':' :: rest => some (.colon, rest)
  | ',' :: rest => some (.comma, rest)
  | 'n' :: 'u' :: 'l' :: 'l' :: rest => some (.null, rest)
  | 't' :: 'r' :: 'u' :: 'e' :: rest => some (.bool true, rest)
  | 'f' :: 'a' :: 'l' :: 's' :: 'e' :: rest => some (.bool false, rest)
  | '"' :: rest => do
    let (pieces, rest) ← scanPieces? rest
    some (.text ((joinPieces? pieces).map String.ofList), rest)
  | '-' :: rest => scanNumber? true rest
  | cs => scanNumber? false cs

/-! ## Every token is a part of the text -/

theorem spanDigits_snd_length_le (cs : List Char) : (Text.spanDigits cs).2.length ≤ cs.length :=
  (List.dropWhile_sublist _).length_le

theorem spanDigits_fst_length_add (cs : List Char) :
    (Text.spanDigits cs).1.length + (Text.spanDigits cs).2.length = cs.length := by
  have h := congrArg List.length (List.takeWhile_append_dropWhile (p := Char.isDigit) (l := cs))
  rwa [List.length_append] at h

theorem takeSign_length_le (cs : List Char) : (takeSign cs).2.length ≤ cs.length := by
  unfold takeSign
  split <;> simp

theorem scanPieces?_length_lt {cs rest : List Char} {pieces : List Piece}
    (h : scanPieces? cs = some (pieces, rest)) : rest.length < cs.length := by
  fun_induction scanPieces? cs generalizing pieces rest with
  | case1 => simp at h
  | case2 r =>
    simp only [Option.some.injEq, Prod.mk.injEq] at h
    simp [← h.2]
  | case3 a b c d r ih =>
    simp only [Option.bind_eq_bind, Option.bind_eq_some_iff, Option.some.injEq, Prod.exists,
      Prod.mk.injEq] at h
    obtain ⟨_, _, ps, r', hr, _, rfl⟩ := h
    have := ih hr
    simp only [List.length_cons]
    omega
  | case4 c r _ ih =>
    simp only [Option.bind_eq_bind, Option.bind_eq_some_iff, Option.some.injEq, Prod.exists,
      Prod.mk.injEq] at h
    obtain ⟨_, _, ps, r', hr, _, rfl⟩ := h
    have := ih hr
    simp only [List.length_cons]
    omega
  | case5 => simp at h
  | case6 c r _ _ _ _ ih =>
    simp only [Option.bind_eq_bind, Option.bind_eq_some_iff, Option.some.injEq, Prod.exists,
      Prod.mk.injEq] at h
    obtain ⟨ps, r', hr, _, rfl⟩ := h
    have := ih hr
    simp only [List.length_cons]
    omega

theorem scanFraction?_length_le {cs rest digits : List Char}
    (h : scanFraction? cs = some (digits, rest)) : rest.length ≤ cs.length := by
  unfold scanFraction? at h
  split at h
  · next r =>
    have := spanDigits_snd_length_le r
    split at h
    · simp at h
    · simp only [Option.some.injEq] at h
      rw [h] at this
      rw [List.length_cons]
      exact Nat.le_succ_of_le this
  · simp only [Option.some.injEq, Prod.mk.injEq] at h
    exact Nat.le_of_eq (congrArg List.length h.2.symm)

theorem scanExponent?_length_le {cs rest : List Char} {exponent : Option Int}
    (h : scanExponent? cs = some (exponent, rest)) : rest.length ≤ cs.length := by
  unfold scanExponent? at h
  split at h
  · simp only [Option.some.injEq, Prod.mk.injEq] at h
    simp [← h.2]
  · next c r =>
    have h1 := takeSign_length_le r
    have h2 := spanDigits_snd_length_le (takeSign r).2
    split at h
    · dsimp only at h
      split at h
      · simp at h
      · simp only [Option.some.injEq, Prod.mk.injEq] at h
        rw [← h.2, List.length_cons]
        omega
    · simp only [Option.some.injEq, Prod.mk.injEq] at h
      simp [← h.2]

theorem scanNumber?_length_lt {cs rest : List Char} {negative : Bool} {t : Token}
    (h : scanNumber? negative cs = some (t, rest)) : rest.length < cs.length := by
  unfold scanNumber? at h
  have hlen := spanDigits_fst_length_add cs
  dsimp only at h
  split at h
  · simp at h
  · next hne =>
    simp only [Bool.or_eq_true, not_or, List.isEmpty_iff] at hne
    have hpos : 0 < (Text.spanDigits cs).1.length := List.length_pos_iff.mpr hne.1
    simp only [Option.bind_eq_bind, Option.bind_eq_some_iff, Option.some.injEq, Prod.exists,
      Prod.mk.injEq] at h
    obtain ⟨_, r1, h1, _, r2, h2, _, rfl⟩ := h
    have := scanFraction?_length_le h1
    have := scanExponent?_length_le h2
    omega

/-- **A token takes at least one character of the text.** -/
theorem Token.scan?_length_lt {cs rest : List Char} {t : Token}
    (h : Token.scan? cs = some (t, rest)) : rest.length < cs.length := by
  unfold Token.scan? at h
  split at h
  case h_11 r =>
    simp only [Option.bind_eq_bind, Option.bind_eq_some_iff, Option.some.injEq, Prod.exists,
      Prod.mk.injEq] at h
    obtain ⟨ps, r', hr, _, rfl⟩ := h
    have := scanPieces?_length_lt hr
    simp only [List.length_cons]
    omega
  case h_12 r =>
    have := scanNumber?_length_lt h
    simp only [List.length_cons]
    omega
  case h_13 => exact scanNumber?_length_lt h
  all_goals simp_all <;> omega

/-- **The tokens of a text**, with gaps allowed before, between and after them. -/
def lex? (cs : List Char) : Option (List Token) :=
  match _hgap : cs.dropWhile isGap with
  | [] => some []
  | c :: more =>
    match _hscan : Token.scan? (c :: more) with
    | none => none
    | some (t, rest) => (lex? rest).map (t :: ·)
termination_by cs.length
decreasing_by
  have h1 := Token.scan?_length_lt _hscan
  have h2 := (List.dropWhile_sublist isGap (l := cs)).length_le
  rw [_hgap] at h2
  omega

end QueryDesk.Json
