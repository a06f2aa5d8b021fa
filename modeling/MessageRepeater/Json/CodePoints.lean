import MessageRepeater.Foundation.Bytes
import MessageRepeater.Foundation.ShrinkingLoop

/-!
# Code points

How `src/json/json.cpp` writes a code point in UTF-8, reads one, and writes and reads the `\u` escapes. The
bit fields are written with `/` and `%`.
-/

namespace MessageRepeater.Json
open Foundation

def codePointToUTF8 (cp : Nat) : Bytes :=
  if cp ≤ 0x7f then [UInt8.ofNat cp]
  else if cp ≤ 0x7ff then [UInt8.ofNat (0xc0 + cp / 2 ^ 6 % 2 ^ 5), UInt8.ofNat (0x80 + cp % 2 ^ 6)]
  else if cp ≤ 0xffff then
    [UInt8.ofNat (0xe0 + cp / 2 ^ 12 % 2 ^ 4), UInt8.ofNat (0x80 + cp / 2 ^ 6 % 2 ^ 6),
      UInt8.ofNat (0x80 + cp % 2 ^ 6)]
  else if cp ≤ 0x10ffff then
    [UInt8.ofNat (0xf0 + cp / 2 ^ 18 % 2 ^ 3), UInt8.ofNat (0x80 + cp / 2 ^ 12 % 2 ^ 6),
      UInt8.ofNat (0x80 + cp / 2 ^ 6 % 2 ^ 6), UInt8.ofNat (0x80 + cp % 2 ^ 6)]
  else []

def replacementCharacter : Nat := 0xfffd

/-- The code point that starts with `first`, and what follows it. The test for surrogates has two lower
bounds, and the first byte of four is shifted by 24. -/
def utf8ToCodepoint (first : UInt8) (rest : Bytes) : Nat × Bytes :=
  let firstByte := first.toNat
  if firstByte < 0x80 then (firstByte, rest)
  else if firstByte < 0xe0 then
    match rest with
    | s₁ :: rest =>
      let calculated := firstByte % 2 ^ 5 * 2 ^ 6 + s₁.toNat % 2 ^ 6
      (if calculated < 0x80 then replacementCharacter else calculated, rest)
    | rest => (replacementCharacter, rest)
  else if firstByte < 0xf0 then
    match rest with
    | s₁ :: s₂ :: rest =>
      let calculated := firstByte % 2 ^ 4 * 2 ^ 12 + s₁.toNat % 2 ^ 6 * 2 ^ 6 + s₂.toNat % 2 ^ 6
      (if calculated ≥ 0xd800 ∧ calculated ≥ 0xdfff then replacementCharacter
        else if calculated < 0x800 then replacementCharacter else calculated, rest)
    | rest => (replacementCharacter, rest)
  else if firstByte < 0xf8 then
    match rest with
    | s₁ :: s₂ :: s₃ :: rest =>
      let calculated := firstByte % 2 ^ 3 * 2 ^ 24 + s₁.toNat % 2 ^ 6 * 2 ^ 12 +
        s₂.toNat % 2 ^ 6 * 2 ^ 6 + s₃.toNat % 2 ^ 6
      (if calculated < 0x10000 then replacementCharacter else calculated, rest)
    | rest => (replacementCharacter, rest)
  else (replacementCharacter, rest)

/-- A digit of `hex2`. -/
def hexDigit (n : Nat) : UInt8 := if n < 10 then UInt8.ofNat (48 + n) else UInt8.ofNat (87 + n)

def toHex16Bit (x : Nat) : Bytes :=
  [hexDigit (x / 2 ^ 12 % 16), hexDigit (x / 2 ^ 8 % 16), hexDigit (x / 2 ^ 4 % 16), hexDigit (x % 16)]

def hexValue (c : UInt8) : Option Nat :=
  if 48 ≤ c ∧ c ≤ 57 then some (c.toNat - 48)
  else if 97 ≤ c ∧ c ≤ 102 then some (c.toNat - 97 + 10)
  else if 65 ≤ c ∧ c ≤ 70 then some (c.toNat - 65 + 10)
  else none

/-- Four hexadecimal digits, and what follows them. -/
def decodeUnicodeEscapeSequence : Bytes → Option (Nat × Bytes)
  | c₁ :: c₂ :: c₃ :: c₄ :: rest => do
    return ((((← hexValue c₁) * 16 + (← hexValue c₂)) * 16 + (← hexValue c₃)) * 16 + (← hexValue c₄), rest)
  | _ => none

/-- What follows a `\u`. The first half of a surrogate pair takes any second one. -/
def decodeUnicodeCodePoint (current : Bytes) : Option (Nat × Bytes) := do
  let (unicode, rest) ← decodeUnicodeEscapeSequence current
  if 0xd800 ≤ unicode ∧ unicode ≤ 0xdbff then
    match rest with
    | 92 :: 117 :: rest =>
      let (surrogatePair, rest) ← decodeUnicodeEscapeSequence rest
      return (0x10000 + unicode % 2 ^ 10 * 2 ^ 10 + surrogatePair % 2 ^ 10, rest)
    | _ => none
  else return (unicode, rest)

/-! ### UTF-8 -/

theorem toNat_byte {n : Nat} (lt : n < 256) : (UInt8.ofNat n).toNat = n := by
  rw [UInt8.toNat_ofNat']
  omega

/-- What `utf8ToCodepoint` makes of a code point in UTF-8. -/
def seen (cp : Nat) : Nat :=
  if cp ≤ 0x7ff then cp
  else if cp ≤ 0xffff then if 0xdfff ≤ cp then replacementCharacter else cp
  else cp / 2 ^ 18 * 2 ^ 24 + cp % 2 ^ 18

theorem utf8ToCodepoint_codePointToUTF8 {cp : Nat} (le : cp ≤ 0x10ffff) (rest : Bytes) :
    ∃ first tail, codePointToUTF8 cp = first :: tail ∧
      utf8ToCodepoint first (tail ++ rest) = (seen cp, rest) := by
  unfold codePointToUTF8
  split
  · refine ⟨_, _, rfl, ?_⟩
    unfold utf8ToCodepoint seen
    simp only [List.nil_append]
    rw [toNat_byte (by omega), if_pos (by omega), if_pos (by omega)]
  split
  · refine ⟨_, _, rfl, ?_⟩
    unfold utf8ToCodepoint seen
    simp only [List.cons_append, List.nil_append]
    rw [toNat_byte (by omega), toNat_byte (by omega), if_neg (by omega), if_pos (by omega),
      if_neg (by omega), if_pos (by omega), Prod.mk.injEq]
    exact ⟨by omega, rfl⟩
  split
  · refine ⟨_, _, rfl, ?_⟩
    unfold utf8ToCodepoint seen
    simp only [List.cons_append, List.nil_append]
    rw [toNat_byte (by omega), toNat_byte (by omega), toNat_byte (by omega), if_neg (by omega),
      if_neg (by omega), if_pos (by omega)]
    have value : (0xe0 + cp / 2 ^ 12 % 2 ^ 4) % 2 ^ 4 * 2 ^ 12 + (0x80 + cp / 2 ^ 6 % 2 ^ 6) % 2 ^ 6 * 2 ^ 6 +
        (0x80 + cp % 2 ^ 6) % 2 ^ 6 = cp := by omega
    rw [value]
    by_cases high : 0xdfff ≤ cp
    · rw [if_pos (by omega), if_neg (by omega), if_pos (by omega), if_pos high]
    · rw [if_neg (by omega), if_neg (by omega), if_neg (by omega), if_pos (by omega), if_neg high]
  · refine ⟨_, _, rfl, ?_⟩
    unfold utf8ToCodepoint seen
    simp only [List.cons_append, List.nil_append]
    rw [toNat_byte (by omega), toNat_byte (by omega), toNat_byte (by omega), toNat_byte (by omega),
      if_neg (by omega), if_neg (by omega), if_neg (by omega), if_pos (by omega), if_neg (by omega),
      if_neg (by omega), if_neg (by omega), Prod.mk.injEq]
    exact ⟨by omega, rfl⟩

theorem codePointToUTF8_high {cp : Nat} (high : 0x7f < cp) {first : UInt8} {tail : Bytes}
    (encoded : codePointToUTF8 cp = first :: tail) : 0x80 ≤ first.toNat := by
  unfold codePointToUTF8 at encoded
  rw [if_neg (by omega)] at encoded
  repeat' split at encoded
  all_goals
    cases encoded
  all_goals
    rw [toNat_byte (by omega)]
    omega

/-- Two code points in UTF-8 that start two texts alike are the same. -/
theorem codePointToUTF8_inj {cp cp' : Nat} (le : cp ≤ 0x10ffff) (le' : cp' ≤ 0x10ffff) {rest rest' : Bytes}
    (same : codePointToUTF8 cp ++ rest = codePointToUTF8 cp' ++ rest') : cp = cp' := by
  unfold codePointToUTF8 at same
  rw [if_pos le, if_pos le'] at same
  split at same <;> [skip; split at same <;> [skip; split at same]]
  all_goals
    split at same <;> [skip; split at same <;> [skip; split at same]]
    all_goals
      simp only [List.cons_append, List.nil_append, List.cons.injEq, ← UInt8.toNat_inj,
        UInt8.toNat_ofNat'] at same
      omega

/-! ### Escapes -/

theorem hexValue_hexDigit {n : Nat} (lt : n < 16) : hexValue (hexDigit n) = some n := by
  revert n
  decide

theorem decode_toHex16Bit (x : Nat) (rest : Bytes) :
    decodeUnicodeEscapeSequence (toHex16Bit x ++ rest) = some (x % 2 ^ 16, rest) := by
  simp only [toHex16Bit, List.cons_append, List.nil_append, decodeUnicodeEscapeSequence]
  rw [hexValue_hexDigit (Nat.mod_lt _ (by decide)), hexValue_hexDigit (Nat.mod_lt _ (by decide)),
    hexValue_hexDigit (Nat.mod_lt _ (by decide)), hexValue_hexDigit (Nat.mod_lt _ (by decide))]
  simp only [Option.bind_eq_bind, Option.bind_some, Option.pure_def, Option.some.injEq, Prod.mk.injEq, and_true]
  omega

theorem decode_basic {x : Nat} (alone : ¬ (0xd800 ≤ x % 2 ^ 16 ∧ x % 2 ^ 16 ≤ 0xdbff)) (rest : Bytes) :
    decodeUnicodeCodePoint (toHex16Bit x ++ rest) = some (x % 2 ^ 16, rest) := by
  unfold decodeUnicodeCodePoint
  rw [decode_toHex16Bit]
  simp only [Option.bind_eq_bind, Option.bind_some, if_neg alone, Option.pure_def]

theorem decode_pair {x y : Nat} (first : 0xd800 ≤ x ∧ x ≤ 0xdbff) (rest : Bytes) :
    decodeUnicodeCodePoint (toHex16Bit x ++ 92 :: 117 :: (toHex16Bit y ++ rest)) =
      some (0x10000 + x % 2 ^ 10 * 2 ^ 10 + y % 2 ^ 10, rest) := by
  unfold decodeUnicodeCodePoint
  rw [decode_toHex16Bit, Nat.mod_eq_of_lt (by omega)]
  simp only [Option.bind_eq_bind, Option.bind_some, if_pos first, decode_toHex16Bit, Option.pure_def,
    Option.some.injEq, Prod.mk.injEq, and_true]
  omega

theorem hexValue_lt {c : UInt8} {n : Nat} (value : hexValue c = some n) : n < 16 := by
  unfold hexValue at value
  simp only [UInt8.le_iff_toNat_le, UInt8.reduceToNat] at value
  split at value
  · obtain rfl := Option.some.inj value
    omega
  split at value
  · obtain rfl := Option.some.inj value
    omega
  split at value
  · obtain rfl := Option.some.inj value
    omega
  · cases value

theorem decodeUnicodeEscapeSequence_spec {current rest : Bytes} {unicode : Nat}
    (decoded : decodeUnicodeEscapeSequence current = some (unicode, rest)) :
    unicode < 2 ^ 16 ∧ ∃ digits, digits.length = 4 ∧ current = digits ++ rest := by
  unfold decodeUnicodeEscapeSequence at decoded
  split at decoded
  · rename_i c₁ c₂ c₃ c₄ _
    simp only [Option.bind_eq_bind, Option.bind_eq_some_iff, Option.pure_def, Option.some.injEq,
      Prod.mk.injEq] at decoded
    obtain ⟨n₁, first, n₂, second, n₃, third, n₄, fourth, value, rfl⟩ := decoded
    have lt₁ := hexValue_lt first
    have lt₂ := hexValue_lt second
    have lt₃ := hexValue_lt third
    have lt₄ := hexValue_lt fourth
    exact ⟨by omega, [c₁, c₂, c₃, c₄], rfl, rfl⟩
  · cases decoded

/-- Not the first half of a surrogate pair. -/
def Single (cp : Nat) : Prop := ¬ (0xd800 ≤ cp ∧ cp ≤ 0xdbff)

theorem decodeUnicodeCodePoint_spec {current rest : Bytes} {unicode : Nat}
    (decoded : decodeUnicodeCodePoint current = some (unicode, rest)) :
    unicode ≤ 0x10ffff ∧ Single unicode ∧ ∃ digits, 4 ≤ digits.length ∧ current = digits ++ rest := by
  unfold decodeUnicodeCodePoint at decoded
  obtain ⟨⟨first, after⟩, read, chosen⟩ := Option.bind_eq_some_iff.mp decoded
  obtain ⟨lt, digits, four, rfl⟩ := decodeUnicodeEscapeSequence_spec read
  dsimp only at chosen
  unfold Single
  split at chosen
  · split at chosen
    · obtain ⟨⟨second, last⟩, readSecond, same⟩ := Option.bind_eq_some_iff.mp chosen
      obtain ⟨lt', digits', four', rfl⟩ := decodeUnicodeEscapeSequence_spec readSecond
      simp only [Option.pure_def, Option.some.injEq, Prod.mk.injEq] at same
      obtain ⟨rfl, rfl⟩ := same
      refine ⟨by omega, by omega, digits ++ 92 :: 117 :: digits', ?_, by simp⟩
      rw [List.length_append]
      omega
    · cases chosen
  · rename_i single
    simp only [Option.pure_def, Option.some.injEq, Prod.mk.injEq] at chosen
    obtain ⟨rfl, rfl⟩ := chosen
    exact ⟨by omega, single, digits, by omega, rfl⟩

end MessageRepeater.Json
