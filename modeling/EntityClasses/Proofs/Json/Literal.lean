import EntityClasses.Json.Tree
import Mathlib.Data.List.Basic

/-!
# String literals read back

What is written between the quotes is read as the text it was written for, whatever its characters
are: each of them becomes one piece, and no piece is a surrogate.
-/
namespace EntityClasses.Json

theorem hexValue?_hexDigit : ∀ n < 16, hexValue? (hexDigit n) = some n := by decide

/-- A unit that is no surrogate stands for its character, whatever follows. -/
theorem joinPieces?_unit {n : Nat} (h : n < 0xD800) (ps : List Piece) :
    joinPieces? (.unit n :: ps) = (joinPieces? ps).map (Char.ofNat n :: ·) := by
  have hleading : isLeading n = false := by simp [isLeading]; omega
  have htrailing : isTrailing n = false := by simp [isTrailing]; omega
  match ps with
  | [] => simp [joinPieces?, hleading, htrailing]
  | .char c :: r => simp [joinPieces?, hleading, htrailing]
  | .unit m :: r => rw [joinPieces?]; simp [hleading, htrailing]

/-- The piece that is read where a character was written. -/
def Piece.written (c : Char) : Piece :=
  if c.toNat < 32 ∧ c ∉ ['\n', '\r', '\t', '\x08', '\x0c'] then .unit c.toNat else .char c

theorem pieces?_plain {c : Char} (hbackslash : c ≠ '\\') (hcontrol : ¬ c.toNat < 32)
    (r : List Char) : pieces? (c :: r) = (pieces? r).map (.char c :: ·) := by
  rw [pieces?]
  · simp [hbackslash, hcontrol]
  all_goals simp [hbackslash]

theorem pieces?_simple {e c : Char} (h : simpleEscape? e = some c) (r : List Char) :
    pieces? ('\\' :: e :: r) = (pieces? r).map (.char c :: ·) := by
  have hunit : e ≠ 'u' := by rintro rfl; cases h
  rw [pieces?, h]
  · cases pieces? r <;> rfl
  · simp [hunit]

/-- A control character without an escape of its own is written as a unit. -/
theorem pieces?_control {n : Nat} (h : n < 32) (r : List Char) :
    pieces? ('\\' :: 'u' :: '0' :: '0' :: hexDigit (n / 16) :: hexDigit (n % 16) :: r) =
      (pieces? r).map (.unit n :: ·) := by
  have hzero : hexValue? '0' = some 0 := by decide
  have hhigh := hexValue?_hexDigit (n / 16) (by omega)
  have hlow := hexValue?_hexDigit (n % 16) (by omega)
  have hn : ((0 * 16 + 0) * 16 + n / 16) * 16 + n % 16 = n := by omega
  rw [pieces?, hzero, hhigh, hlow]
  cases pieces? r with
  | none => rfl
  | some ps => exact congrArg (fun k => some (.unit k :: ps)) hn

theorem pieces?_escapeChar (c : Char) (r : List Char) :
    pieces? (escapeChar c ++ r) = (pieces? r).map (.written c :: ·) := by
  unfold escapeChar
  split
  case h_8 _ hquote hbackslash hfeed hreturn htab hback hform =>
    split
    next h =>
      rw [Piece.written, if_pos (by simp; tauto)]
      exact pieces?_control h r
    next h =>
      rw [Piece.written, if_neg (by tauto)]
      exact pieces?_plain hbackslash h r
  all_goals exact pieces?_simple rfl r

theorem joinPieces?_written (c : Char) (ps : List Piece) :
    joinPieces? (.written c :: ps) = (joinPieces? ps).map (c :: ·) := by
  unfold Piece.written
  split
  next h => rw [joinPieces?_unit (by omega), Char.ofNat_toNat]
  next => rw [joinPieces?]

theorem pieces?_escape (s : List Char) : pieces? (escape s) = some (s.map .written) := by
  induction s with
  | nil => rfl
  | cons c r ih =>
    rw [escape, List.flatMap_cons, pieces?_escapeChar, ← escape, ih]
    rfl

theorem joinPieces?_map_written (s : List Char) : joinPieces? (s.map .written) = some s := by
  induction s with
  | nil => rfl
  | cons c r ih =>
    rw [List.map_cons, joinPieces?_written, ih]
    rfl

theorem Tree.ofLiteral_escape (s : List Char) :
    Tree.ofLiteral (escape s) = some (some (.ofList s)) := by
  simp [Tree.ofLiteral, pieces?_escape, joinPieces?_map_written]

end EntityClasses.Json
