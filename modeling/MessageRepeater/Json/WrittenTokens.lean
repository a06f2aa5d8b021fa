import MessageRepeater.Json.Reading
import MessageRepeater.Json.Writer
import MessageRepeater.Layer.Addresses

/-!
# The tokens that the writer writes

What `readToken` makes of a written scalar, with white space in front of it and a separator behind it.
-/

namespace MessageRepeater.Json
open Foundation

/-! ### White space -/

def Blank (spaces : Bytes) : Prop := ∀ c ∈ spaces, isSpace c = true

theorem skipSpaces_blank {spaces : Bytes} (blank : Blank spaces) (text : Bytes) :
    skipSpaces (spaces ++ text) = skipSpaces text :=
  List.dropWhile_append_of_pos blank

theorem readToken_blank {spaces : Bytes} (blank : Blank spaces) (text : Bytes) :
    readToken (spaces ++ text) = readToken text := by
  rw [readToken, skipSpaces_blank blank, readToken]

theorem skipCommentTokens_eq (text : Bytes) :
    skipCommentTokens text = if (readToken text).type = .comment then skipCommentTokens (readToken text).rest
      else readToken text := by
  unfold skipCommentTokens
  rw [loop_eq commentTurn_shrinks, commentTurn]
  split <;> rfl

theorem skipCommentTokens_blank {spaces : Bytes} (blank : Blank spaces) (text : Bytes) :
    skipCommentTokens (spaces ++ text) = skipCommentTokens text := by
  rw [skipCommentTokens_eq, readToken_blank blank, ← skipCommentTokens_eq]

theorem readToken_at {c : UInt8} (visible : isSpace c = false) (rest : Bytes) :
    readToken (c :: rest) = tokenAt c rest := by
  have kept : skipSpaces (c :: rest) = c :: rest := List.dropWhile_cons_of_neg (by simp [visible])
  rw [readToken, kept]

theorem skipCommentTokens_at {c : UInt8} {rest : Bytes} {token : Token} (visible : isSpace c = false)
    (at_ : tokenAt c rest = token) (plain : token.type ≠ .comment) : skipCommentTokens (c :: rest) = token := by
  rw [skipCommentTokens_eq, readToken_at visible, at_, if_neg plain]

/-! ### Numbers -/

/-- What the writer puts behind a value. -/
def Stops (tail : Bytes) : Prop := ∀ c, tail.head? = some c → c = 44 ∨ c = 10

theorem Stops.not_digit {tail : Bytes} (stops : Stops tail) : tail.dropWhile isDigit = tail := by
  cases tail with
  | nil => rfl
  | cons c rest =>
    apply List.dropWhile_cons_of_neg
    rcases stops c rfl with rfl | rfl <;> decide

theorem Stops.head {tail : Bytes} (stops : Stops tail) {c : UInt8} (other : c ≠ 44 ∧ c ≠ 10) :
    tail.head? ≠ some c := by
  intro same
  rcases stops c same with rfl | rfl
  · exact other.1 rfl
  · exact other.2 rfl

section Stopping
variable {tail : Bytes} (stops : Stops tail)
include stops

theorem dropDigits_append (text : Bytes) :
    (text ++ tail).dropWhile isDigit = text.dropWhile isDigit ++ tail := by
  rw [List.dropWhile_append, stops.not_digit]
  split
  · rename_i empty
    rw [List.isEmpty_iff.mp empty, List.nil_append]
  · rfl

theorem skipFraction_append (text : Bytes) : skipFraction (text ++ tail) = skipFraction text ++ tail := by
  cases text with
  | nil => exact if_neg (stops.head (by decide))
  | cons c text =>
    simp only [skipFraction, List.cons_append, List.head?_cons, List.tail_cons, Option.some.injEq]
    split
    · exact dropDigits_append stops text
    · rfl

theorem skipSign_append (text : Bytes) : skipSign (text ++ tail) = skipSign text ++ tail := by
  cases text with
  | nil => exact if_neg (not_or.mpr ⟨stops.head (by decide), stops.head (by decide)⟩)
  | cons c text =>
    simp only [skipSign, List.cons_append, List.head?_cons, List.tail_cons, Option.some.injEq]
    split <;> rfl

theorem skipExponent_append (text : Bytes) : skipExponent (text ++ tail) = skipExponent text ++ tail := by
  cases text with
  | nil => exact if_neg (not_or.mpr ⟨stops.head (by decide), stops.head (by decide)⟩)
  | cons c text =>
    simp only [skipExponent, List.cons_append, List.head?_cons, List.tail_cons, Option.some.injEq]
    split
    · rw [skipSign_append stops, dropDigits_append stops]
    · rfl

theorem readNumber_append (text : Bytes) : readNumber (text ++ tail) = readNumber text ++ tail := by
  unfold readNumber
  rw [dropDigits_append stops, skipFraction_append stops, skipExponent_append stops]

end Stopping

/-- A text that is one number. -/
def NumberText (text : Bytes) : Prop :=
  ∃ c rest, text = c :: rest ∧ (isDigit c ∨ c = 45) ∧ readNumber rest = []

theorem tokenAt_number {c : UInt8} (numeric : isDigit c ∨ c = 45) (rest : Bytes) :
    tokenAt c rest =
      { type := .number, text := c :: rest.take (rest.length - (readNumber rest).length)
        rest := readNumber rest } := by
  have other {d : UInt8} (plain : (isDigit d || d == 45) = false) : c ≠ d := by
    rintro rfl
    simp_all
  unfold tokenAt
  rw [if_neg (other (by decide)), if_neg (other (by decide)), if_neg (other (by decide)),
    if_neg (other (by decide)), if_neg (other (by decide)), if_neg (other (by decide)), if_pos numeric]

theorem numeric_visible {c : UInt8} (numeric : isDigit c ∨ c = 45) : isSpace c = false := by
  cases blank : isSpace c with
  | false => rfl
  | true =>
    unfold isSpace at blank
    simp only [Bool.or_eq_true, beq_iff_eq] at blank
    rcases blank with ((rfl | rfl) | rfl) | rfl <;> revert numeric <;> decide

theorem skipCommentTokens_number {text tail : Bytes} (number : NumberText text) (stops : Stops tail) :
    skipCommentTokens (text ++ tail) = { type := .number, text, rest := tail } := by
  obtain ⟨c, rest, rfl, numeric, whole⟩ := number
  rw [List.cons_append]
  refine skipCommentTokens_at (numeric_visible numeric) ?_ (by simp)
  rw [tokenAt_number numeric, readNumber_append stops, whole, List.nil_append, List.length_append,
    Nat.add_sub_cancel, List.take_left]

/-! ### Integers -/

/-- The value of digits behind those that stand for `value`. -/
def digitsFrom (value : Nat) (digits : Bytes) : Nat :=
  digits.foldl (fun value digit => value * 10 + (digit.toNat - 48)) value

theorem le_digitsFrom (value : Nat) (digits : Bytes) : value ≤ digitsFrom value digits := by
  induction digits generalizing value with
  | nil => exact Nat.le_refl value
  | cons digit digits ih =>
    have later := ih (value * 10 + (digit.toNat - 48))
    show value ≤ digitsFrom (value * 10 + (digit.toNat - 48)) digits
    omega

/-- Digits whose value is in range are decoded to it. -/
theorem decodeDigits_eq {maxIntegerValue : Nat} (large : 10 ≤ maxIntegerValue) {digits : Bytes}
    (all : ∀ c ∈ digits, isDigit c = true) {value : Nat} (le : digitsFrom value digits ≤ maxIntegerValue) :
    decodeDigits maxIntegerValue value digits = some (digitsFrom value digits) := by
  induction digits generalizing value with
  | nil => rfl
  | cons digit rest ih =>
    obtain ⟨first, later⟩ := List.forall_mem_cons.mp all
    have here := le_digitsFrom (value * 10 + (digit.toNat - 48)) rest
    have final : digitsFrom value (digit :: rest) = digitsFrom (value * 10 + (digit.toNat - 48)) rest := rfl
    have last : rest = [] ∨ (value * 10 + (digit.toNat - 48)) * 10 ≤ maxIntegerValue := by
      cases rest with
      | nil => exact .inl rfl
      | cons second rest =>
        have there := le_digitsFrom ((value * 10 + (digit.toNat - 48)) * 10 + (second.toNat - 48)) rest
        have final' : digitsFrom (value * 10 + (digit.toNat - 48)) (second :: rest) =
          digitsFrom ((value * 10 + (digit.toNat - 48)) * 10 + (second.toNat - 48)) rest := rfl
        exact .inr (by omega)
    rw [decodeDigits, if_neg (not_not.mpr first), if_neg, final]
    · exact ih later (final ▸ le)
    · rintro ⟨threshold, beyond | more | digit_⟩
      · omega
      · have within := last.resolve_left more
        omega
      · omega

theorem decodeNumber_nat (readDouble : ReadDouble) {n : Nat} (lt : n < 2 ^ 64) :
    decodeNumber readDouble (ascii n.repr) = some (if (n : Int) ≤ Value.maxInt then .int n else .uint n) := by
  obtain ⟨nonempty, digits, value⟩ := Layer.repr_digits n
  have unsigned : (ascii n.repr).head? ≠ some 45 := by
    intro same
    exact absurd (digits 45 (List.mem_of_head? same)) (by decide)
  have decoded : decodeDigits (2 ^ 64 - 1) 0 (ascii n.repr) = some n := by
    rw [decodeDigits_eq (by decide) digits]
    · exact congrArg some value
    · show digitsFrom 0 (ascii n.repr) ≤ 2 ^ 64 - 1
      rw [show digitsFrom 0 (ascii n.repr) = n from value]
      omega
  rw [decodeNumber, if_neg unsigned, decoded]

theorem decodeNumber_negative (readDouble : ReadDouble) {n : Nat} (le : n ≤ 2 ^ 63) :
    decodeNumber readDouble (45 :: ascii n.repr) = some (.int (-n)) := by
  obtain ⟨nonempty, digits, value⟩ := Layer.repr_digits n
  have decoded : decodeDigits (2 ^ 63) 0 (ascii n.repr) = some n := by
    rw [decodeDigits_eq (by decide) digits]
    · exact congrArg some value
    · rw [show digitsFrom 0 (ascii n.repr) = n from value]
      exact le
  rw [decodeNumber, List.head?_cons, if_pos rfl, List.tail_cons, decoded]

/-- `std::to_string` of an integer: the digits behind the sign. -/
theorem ascii_toString_int (value : Int) : ascii (toString value) =
    if 0 ≤ value then ascii value.toNat.repr else 45 :: ascii (-value).toNat.repr := by
  rw [Int.toString_eq_repr, Int.repr_eq_if]
  split
  · rfl
  · unfold ascii
    rw [String.toList_append, List.map_append]
    rfl

theorem readNumber_digits {digits : Bytes} (all : ∀ c ∈ digits, isDigit c = true) : readNumber digits = [] := by
  unfold readNumber
  rw [List.dropWhile_eq_nil_iff.mpr all]
  rfl

theorem numberText_nat (n : Nat) : NumberText (ascii n.repr) := by
  obtain ⟨nonempty, digits, _⟩ := Layer.repr_digits n
  obtain ⟨c, rest, same⟩ := List.exists_cons_of_ne_nil nonempty
  rw [same] at digits ⊢
  obtain ⟨first, later⟩ := List.forall_mem_cons.mp digits
  exact ⟨c, rest, rfl, .inl first, readNumber_digits later⟩

theorem numberText_negative (n : Nat) : NumberText (45 :: ascii n.repr) :=
  ⟨45, _, rfl, .inr rfl, readNumber_digits (Layer.repr_digits n).2.1⟩

theorem numberText_int (value : Int) : NumberText (ascii (toString value)) := by
  rw [ascii_toString_int]
  split
  · exact numberText_nat _
  · exact numberText_negative _

/-- An integer that the reader leaves is read back from its text. -/
theorem decodeNumber_int (readDouble : ReadDouble) {value : Int} (low : -2 ^ 63 ≤ value)
    (high : value ≤ Value.maxInt) : decodeNumber readDouble (ascii (toString value)) = some (.int value) := by
  have small : Value.maxInt = 2 ^ 31 - 1 := rfl
  rw [ascii_toString_int]
  split
  · rename_i positive
    rw [decodeNumber_nat readDouble (by omega), Int.toNat_of_nonneg positive, if_pos high]
  · rename_i negative
    rw [decodeNumber_negative readDouble (by omega), Int.toNat_of_nonneg (by omega), Int.neg_neg]

theorem decodeNumber_uint (readDouble : ReadDouble) {value : Nat} (low : Value.maxInt < value)
    (high : value < 2 ^ 64) : decodeNumber readDouble (ascii (toString value)) = some (.uint value) := by
  rw [show toString value = value.repr from rfl, decodeNumber_nat readDouble high, if_neg (by omega)]

/-! ### Doubles -/

/-- What holds of `>>` and `valueToString` for the doubles of a value: the text of a double is a number with
a point or an exponent, and the double is read back from it. -/
structure RereadsDoubles (readDouble doubles : ReadDouble) : Prop where
  number : ∀ {source value text}, doubles source = some (value, text) → NumberText text
  fraction : ∀ {source value text}, doubles source = some (value, text) → (46 : UInt8) ∈ text ∨ 101 ∈ text
  reread : ∀ {source value text}, doubles source = some (value, text) → readDouble text = some (value, text)

/-- A value without doubles asks nothing. -/
theorem rereadsDoubles_none (readDouble : ReadDouble) : RereadsDoubles readDouble fun _ => none := by
  constructor <;> nofun

theorem decodeDigits_fraction {maxIntegerValue value : Nat} {text : Bytes} {c : UInt8} (member : c ∈ text)
    (plain : isDigit c = false) : decodeDigits maxIntegerValue value text = none := by
  induction text generalizing value with
  | nil => cases member
  | cons first rest ih =>
    rw [decodeDigits]
    split
    · rfl
    rename_i digit
    dsimp only
    split
    · rfl
    · refine ih ((List.mem_cons.mp member).resolve_left ?_)
      rintro rfl
      simp [plain] at digit

theorem decodeNumber_real {readDouble doubles : ReadDouble} (rereads : RereadsDoubles readDouble doubles)
    {source text : Bytes} {value : Option Rat} (read_ : doubles source = some (value, text)) :
    decodeNumber readDouble text = some (.real value text) := by
  have double : decodeDouble readDouble text = some (.real value text) := by
    rw [decodeDouble, rereads.reread read_, Option.map_some]
  obtain ⟨c, member, plain, unsigned⟩ : ∃ c ∈ text, isDigit c = false ∧ c ≠ 45 := by
    rcases rereads.fraction read_ with point | exponent
    · exact ⟨46, point, rfl, by decide⟩
    · exact ⟨101, exponent, rfl, by decide⟩
  unfold decodeNumber
  split
  · rename_i sign
    obtain ⟨rest, rfl⟩ : ∃ rest, text = 45 :: rest := ⟨text.tail, (List.cons_head?_tail sign).symm⟩
    rw [List.tail_cons, decodeDigits_fraction ((List.mem_cons.mp member).resolve_left unsigned) plain]
    exact double
  · rw [decodeDigits_fraction member plain]
    exact double

end MessageRepeater.Json
