import QueryDesk.Json.Token
import QueryDesk.Json.Written

/-! # Strings in JSON

A string is read back from its quotes, whatever characters it holds (`scan?_quoted`). One character is
written as one piece, so the scanner takes the written characters one after the other, and joining
the pieces gives the characters back.
-/

set_option autoImplicit false

namespace QueryDesk.Json

/-- The piece that a written character is scanned as: control characters without a letter of their
own are code units, all others stand for themselves. -/
def pieceOf (c : Char) : Piece :=
  if c.toNat < 0x20 ∧ c ∉ ['\x08', '\x0c', '\n', '\r', '\t'] then .unit c.toNat else .char c

theorem hexValue?_hexDigit {n : Nat} (h : n < 16) : hexValue? (hexDigit n) = some n := by
  have hall : ∀ m < 16, hexValue? (hexDigit m) = some m := by decide
  exact hall n h

/-- The escape of a control character spells its code point. -/
theorem hexUnit?_hexDigits {n : Nat} (h : n < 0x20) :
    hexUnit? '0' '0' (hexDigit (n / 16)) (hexDigit (n % 16)) = some n := by
  have hzero : hexValue? '0' = some 0 := by decide
  rw [hexUnit?, hzero, hexValue?_hexDigit (by omega), hexValue?_hexDigit (by omega)]
  show some (((0 * 16 + 0) * 16 + n / 16) * 16 + n % 16) = some n
  congr 1
  omega

theorem scanPieces?_plain {c : Char} (hquote : c ≠ '"') (hslash : c ≠ '\\') (hc : ¬c.toNat < 0x20)
    (rest : List Char) :
    scanPieces? (c :: rest) =
      (scanPieces? rest).map fun scanned => (.char c :: scanned.1, scanned.2) := by
  rw [scanPieces?.eq_def]
  split
  · next heq => exact absurd heq (List.cons_ne_nil c rest)
  · next heq => exact absurd (List.cons.inj heq).1 hquote
  · next heq => exact absurd (List.cons.inj heq).1 hslash
  · next heq => exact absurd (List.cons.inj heq).1 hslash
  · next heq =>
      obtain ⟨rfl, rfl⟩ := List.cons.inj heq
      rw [if_neg hc]
      cases scanPieces? rest <;> rfl

/-- **One written character is one piece.** -/
theorem scanPieces?_escapeChar (c : Char) (rest : List Char) :
    scanPieces? (escapeChar c ++ rest) =
      (scanPieces? rest).map fun scanned => (pieceOf c :: scanned.1, scanned.2) := by
  unfold escapeChar
  split
  iterate 7
    · cases h : scanPieces? rest <;> simp [scanPieces?, h, escaped?, pieceOf]
  · next hquote hslash h8 hc hn hr ht =>
      split
      · next hlt =>
          have hpiece : pieceOf c = .unit c.toNat := by
            rw [pieceOf, if_pos]
            simp only [List.mem_cons, List.not_mem_nil, or_false, not_or]
            exact ⟨hlt, h8, hc, hn, hr, ht⟩
          cases h : scanPieces? rest <;> simp [scanPieces?, h, hexUnit?_hexDigits hlt, hpiece]
      · next hge =>
          have hpiece : pieceOf c = .char c := if_neg fun hctl => hge hctl.1
          rw [hpiece]
          exact scanPieces?_plain hquote hslash hge rest

/-- The written characters of a string are scanned up to the closing quote. -/
theorem scanPieces?_flatMap_escapeChar (cs rest : List Char) :
    scanPieces? (cs.flatMap escapeChar ++ '"' :: rest) = some (cs.map pieceOf, rest) := by
  induction cs with
  | nil => rfl
  | cons c cs ih =>
      rw [List.flatMap_cons, List.append_assoc, scanPieces?_escapeChar, ih]
      rfl

/-- A code unit below the surrogates is a character of its own. -/
theorem joinPieces?_unit {u : Nat} (h : u < 0xD800) (rest : List Piece) :
    joinPieces? (.unit u :: rest) = (joinPieces? rest).map (Char.ofNat u :: ·) := by
  have hhigh : ¬(0xD800 ≤ u ∧ u ≤ 0xDBFF) := by omega
  have hlow : ¬(0xDC00 ≤ u ∧ u ≤ 0xDFFF) := by omega
  cases rest with
  | nil => simp [joinPieces?, hhigh, hlow]
  | cons p rest => cases p <;> simp [joinPieces?, hhigh, hlow]

theorem joinPieces?_map_pieceOf (cs : List Char) : joinPieces? (cs.map pieceOf) = some cs := by
  induction cs with
  | nil => rfl
  | cons c cs ih =>
      rw [List.map_cons, pieceOf]
      split
      · next hctl =>
          have hlow : c.toNat < 0x20 := hctl.1
          rw [joinPieces?_unit (by omega), ih, Char.ofNat_toNat]
          rfl
      · rw [joinPieces?, ih]
        rfl

/-- **A string is read back from its quotes.** -/
theorem scan?_quoted (s : String) (rest : List Char) :
    Token.scan? (quoted s ++ rest) = some (.text (some s), rest) := by
  have hquoted : quoted s ++ rest = '"' :: (s.toList.flatMap escapeChar ++ '"' :: rest) := by
    simp [quoted]
  have hpieces := scanPieces?_flatMap_escapeChar s.toList rest
  have hjoin : (joinPieces? (s.toList.map pieceOf)).map String.ofList = some s := by
    rw [joinPieces?_map_pieceOf, Option.map_some, String.ofList_toList]
  rw [hquoted]
  simp only [Token.scan?, hpieces, Option.bind_eq_bind, Option.bind_some, hjoin]

end QueryDesk.Json
