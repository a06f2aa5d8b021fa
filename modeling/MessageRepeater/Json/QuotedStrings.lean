import MessageRepeater.Json.CodePoints

/-!
# Quoted strings

`valueToQuotedStringN`, `Reader::readString` and `Reader::decodeString` of `src/json/json.cpp`. Bytes are
given by their ASCII codes; 34 is the quote and 92 the backslash.
-/

namespace MessageRepeater.Json
open Foundation

/-! ### Writing -/

def shortEscape (c : UInt8) : Option UInt8 :=
  if c = 34 then some 34
  else if c = 92 then some 92
  else if c = 8 then some 98
  else if c = 12 then some 102
  else if c = 10 then some 110
  else if c = 13 then some 114
  else if c = 9 then some 116
  else none

/-- What the writer makes of a code point. -/
def escaped (cp : Nat) : Bytes :=
  if cp < 0x80 ∧ cp ≥ 0x20 then [UInt8.ofNat cp]
  else if cp < 0x10000 then 92 :: 117 :: toHex16Bit cp
  else
    92 :: 117 :: toHex16Bit ((cp - 0x10000) / 2 ^ 10 + 0xd800) ++
      92 :: 117 :: toHex16Bit ((cp - 0x10000) % 2 ^ 10 + 0xdc00)

/-- A turn of the loop, given what has been written. -/
def quoteTurn : Bytes × Bytes → Bytes × Bytes ⊕ Bytes
  | (result, []) => .inr result
  | (result, c :: rest) =>
    match shortEscape c with
    | some letter => .inl (result ++ [92, letter], rest)
    | none => .inl (result ++ escaped (utf8ToCodepoint c rest).1, (utf8ToCodepoint c rest).2)

/-- What is written between the quotes. -/
def quoteChars (value : Bytes) : Bytes := loop (fun s => s.2.length) quoteTurn ([], value)

/-- Every character requires the loop: `isAnyCharRequiredQuoting` is true of all of them. -/
def valueToQuotedStringN (value : Bytes) : Bytes := 34 :: quoteChars value ++ [34]

/-! ### Reading -/

/-- The characters up to the closing quote, and what follows it. -/
def readString : Bytes → Option (Bytes × Bytes)
  | [] => none
  | c :: rest =>
    if c = 92 then
      match rest with
      | [] => none
      | escape :: rest => (readString rest).map fun (chars, rest) => (c :: escape :: chars, rest)
    else if c = 34 then some ([], rest)
    else (readString rest).map fun (chars, rest) => (c :: chars, rest)

def unescape (escape : UInt8) : Option UInt8 :=
  if escape = 34 then some 34
  else if escape = 47 then some 47
  else if escape = 92 then some 92
  else if escape = 98 then some 8
  else if escape = 102 then some 12
  else if escape = 110 then some 10
  else if escape = 114 then some 13
  else if escape = 116 then some 9
  else none

/-- A turn of the loop, given what has been decoded. -/
def decodeTurn : Bytes × Bytes → Bytes × Bytes ⊕ Option Bytes
  | (decoded, []) => .inr (some decoded)
  | (decoded, c :: rest) =>
    if c = 34 then .inr (some decoded)
    else if c = 92 then
      match rest with
      | [] => .inr none
      | escape :: rest =>
        if escape = 117 then
          match decodeUnicodeCodePoint rest with
          | some (unicode, rest) => .inl (decoded ++ codePointToUTF8 unicode, rest)
          | none => .inr none
        else
          match unescape escape with
          | some char => .inl (decoded ++ [char], rest)
          | none => .inr none
    else .inl (decoded ++ [c], rest)

/-- `decodeString` of the characters between the quotes, `none` where it reports an error. -/
def decodeString (chars : Bytes) : Option Bytes := loop (fun s => s.2.length) decodeTurn ([], chars)

/-! ### The loops -/

theorem utf8ToCodepoint_le (c : UInt8) (rest : Bytes) :
    (utf8ToCodepoint c rest).2.length ≤ rest.length := by
  unfold utf8ToCodepoint
  dsimp only
  repeat' split
  all_goals
    simp only [List.length_cons]
    omega

theorem quoteTurn_shrinks : Shrinks (fun s => s.2.length) quoteTurn := by
  rintro ⟨result, _ | ⟨c, rest⟩⟩ s' goesOn
  · cases goesOn
  · simp only [quoteTurn] at goesOn
    split at goesOn
    all_goals
      obtain rfl := Sum.inl.inj goesOn
      have le := utf8ToCodepoint_le c rest
      simp only [List.length_cons]
      omega

theorem decodeTurn_shrinks : Shrinks (fun s => s.2.length) decodeTurn := by
  rintro ⟨decoded, _ | ⟨c, rest⟩⟩ s' goesOn
  · cases goesOn
  · simp only [decodeTurn] at goesOn
    split at goesOn
    · cases goesOn
    split at goesOn
    · split at goesOn
      · cases goesOn
      split at goesOn
      · split at goesOn
        · rename_i read
          obtain rfl := Sum.inl.inj goesOn
          obtain ⟨_, _, digits, four, rfl⟩ := decodeUnicodeCodePoint_spec read
          simp only [List.length_cons, List.length_append]
          omega
        · cases goesOn
      · split at goesOn
        · obtain rfl := Sum.inl.inj goesOn
          simp only [List.length_cons]
          omega
        · cases goesOn
    · obtain rfl := Sum.inl.inj goesOn
      simp

/-- What has been written stays in front. -/
theorem quote_from (result value : Bytes) :
    loop (fun s => s.2.length) quoteTurn (result, value) = result ++ quoteChars value := by
  have follows : ∀ s : Bytes × Bytes, quoteTurn (result ++ s.1, s.2) =
      (quoteTurn s).map (fun s => (result ++ s.1, s.2)) (result ++ ·) := by
    rintro ⟨front, _ | ⟨c, rest⟩⟩
    · rfl
    · simp only [quoteTurn]
      split <;> simp
  have mapped := loop_map quoteTurn_shrinks quoteTurn_shrinks follows ([], value)
  simpa [quoteChars] using mapped

/-- What has been decoded stays in front. -/
theorem decode_from (decoded chars : Bytes) :
    loop (fun s => s.2.length) decodeTurn (decoded, chars) =
      (decodeString chars).map (decoded ++ ·) := by
  have follows : ∀ s : Bytes × Bytes, decodeTurn (decoded ++ s.1, s.2) =
      (decodeTurn s).map (fun s => (decoded ++ s.1, s.2)) (Option.map (decoded ++ ·)) := by
    rintro ⟨front, _ | ⟨c, rest⟩⟩
    · rfl
    · simp only [decodeTurn]
      repeat' split
      all_goals simp
  have mapped := loop_map decodeTurn_shrinks decodeTurn_shrinks follows ([], chars)
  simpa [decodeString] using mapped

theorem quoteChars_short {c letter : UInt8} (short : shortEscape c = some letter) (rest : Bytes) :
    quoteChars (c :: rest) = 92 :: letter :: quoteChars rest := by
  rw [quoteChars, loop_goesOn quoteTurn_shrinks (t := ([92, letter], rest)) (by simp [quoteTurn, short]),
    quote_from]
  rfl

theorem quoteChars_long {c : UInt8} (long : shortEscape c = none) (rest : Bytes) :
    quoteChars (c :: rest) =
      escaped (utf8ToCodepoint c rest).1 ++ quoteChars (utf8ToCodepoint c rest).2 := by
  rw [quoteChars, loop_goesOn quoteTurn_shrinks
    (t := (escaped (utf8ToCodepoint c rest).1, (utf8ToCodepoint c rest).2)) (by simp [quoteTurn, long]),
    quote_from]

theorem decodeString_plain {c : UInt8} (quote : c ≠ 34) (backslash : c ≠ 92) (rest : Bytes) :
    decodeString (c :: rest) = (decodeString rest).map (c :: ·) := by
  rw [decodeString, loop_goesOn decodeTurn_shrinks (t := ([c], rest))
    (by simp [decodeTurn, quote, backslash]), decode_from]
  rfl

theorem decodeString_escape {letter char : UInt8} (escape : unescape letter = some char) (rest : Bytes) :
    decodeString (92 :: letter :: rest) = (decodeString rest).map (char :: ·) := by
  have other : letter ≠ 117 := by
    rintro rfl
    cases escape
  rw [decodeString, loop_goesOn decodeTurn_shrinks (t := ([char], rest))
    (by simp [decodeTurn, other, escape]), decode_from]
  rfl

theorem decodeString_unicode {current rest : Bytes} {unicode : Nat}
    (decoded : decodeUnicodeCodePoint current = some (unicode, rest)) :
    decodeString (92 :: 117 :: current) = (decodeString rest).map (codePointToUTF8 unicode ++ ·) := by
  rw [decodeString, loop_goesOn decodeTurn_shrinks (t := (codePointToUTF8 unicode, rest))
    (by simp [decodeTurn, decoded]), decode_from]

/-! ### One code point, written and read back -/

theorem shortEscape_high {c : UInt8} (high : 0x80 ≤ c.toNat) : shortEscape c = none := by
  unfold shortEscape
  repeat' split
  all_goals first
    | rfl
    | rename_i same
      rw [same] at high
      exact absurd high (by decide)

theorem unescape_shortEscape {c letter : UInt8} (short : shortEscape c = some letter) :
    unescape letter = some c := by
  unfold shortEscape at short
  repeat' split at short
  all_goals cases short
  all_goals
    rename_i same
    rw [same]
    rfl

theorem shortEscape_none {c : UInt8} (long : shortEscape c = none) : c ≠ 34 ∧ c ≠ 92 := by
  constructor
  all_goals
    rintro rfl
    cases long

/-- What the writer makes of a code point that is there in UTF-8. -/
def quotedChar (cp : Nat) : Bytes :=
  match if cp ≤ 0x7f then shortEscape (UInt8.ofNat cp) else none with
  | some letter => [92, letter]
  | none => escaped (seen cp)

/-- The code points that come back. -/
def Portable (cp : Nat) : Prop :=
  cp < 0xd800 ∨ (0xdc00 ≤ cp ∧ cp < 0xdfff) ∨ cp = 0xfffd ∨ (0x10000 ≤ cp ∧ cp < 0x40000)

instance (cp : Nat) : Decidable (Portable cp) := by unfold Portable; infer_instance

theorem quoteChars_codePoint {cp : Nat} (le : cp ≤ 0x10ffff) (rest : Bytes) :
    quoteChars (codePointToUTF8 cp ++ rest) = quotedChar cp ++ quoteChars rest := by
  obtain ⟨first, tail, encoded, read⟩ := utf8ToCodepoint_codePointToUTF8 le rest
  rw [encoded, List.cons_append]
  unfold quotedChar
  by_cases ascii_ : cp ≤ 0x7f
  · have single : first = UInt8.ofNat cp ∧ tail = [] := by
      rw [codePointToUTF8, if_pos ascii_] at encoded
      simpa [eq_comm] using encoded
    obtain ⟨rfl, rfl⟩ := single
    rw [if_pos ascii_]
    split
    · rename_i short
      exact quoteChars_short short rest
    · rename_i long
      rw [quoteChars_long long, read]
  · have high := shortEscape_high (codePointToUTF8_high (by omega) encoded)
    rw [if_neg ascii_, quoteChars_long high, read]

theorem seen_portable {cp : Nat} (portable : Portable cp) : seen cp = cp := by
  unfold seen replacementCharacter
  unfold Portable at portable
  repeat' split
  all_goals omega

theorem reread_portable {cp : Nat} (portable : Portable cp) (rest : Bytes) :
    decodeString (quotedChar cp ++ rest) = (decodeString rest).map (codePointToUTF8 cp ++ ·) := by
  have basic (lt : cp < 0x10000) : decodeString (92 :: 117 :: toHex16Bit cp ++ rest) =
      (decodeString rest).map (codePointToUTF8 cp ++ ·) := by
    have alone : ¬ (0xd800 ≤ cp % 2 ^ 16 ∧ cp % 2 ^ 16 ≤ 0xdbff) := by
      unfold Portable at portable
      omega
    have decoded := decodeString_unicode (decode_basic alone rest)
    rwa [Nat.mod_eq_of_lt (by omega)] at decoded
  unfold quotedChar escaped
  rw [seen_portable portable]
  by_cases ascii_ : cp ≤ 0x7f
  · have single : codePointToUTF8 cp = [UInt8.ofNat cp] := if_pos ascii_
    rw [if_pos ascii_, single]
    split
    · rename_i short
      exact decodeString_escape (unescape_shortEscape short) rest
    · rename_i long
      obtain ⟨quote, backslash⟩ := shortEscape_none long
      by_cases printed : cp ≥ 0x20
      · rw [if_pos ⟨by omega, printed⟩]
        exact decodeString_plain quote backslash rest
      · rw [if_neg (by omega), if_pos (by omega), ← single]
        exact basic (by omega)
  · rw [if_neg ascii_]
    dsimp only
    rw [if_neg (by omega)]
    by_cases plane : cp < 0x10000
    · rw [if_pos plane]
      exact basic plane
    · have low : 0x10000 ≤ cp ∧ cp < 0x40000 := by
        unfold Portable at portable
        omega
      rw [if_neg plane]
      have decoded := decodeString_unicode (decode_pair (x := (cp - 0x10000) / 2 ^ 10 + 0xd800)
        (y := (cp - 0x10000) % 2 ^ 10 + 0xdc00) (by omega) rest)
      have value : 0x10000 + ((cp - 0x10000) / 2 ^ 10 + 0xd800) % 2 ^ 10 * 2 ^ 10 +
          ((cp - 0x10000) % 2 ^ 10 + 0xdc00) % 2 ^ 10 = cp := by omega
      rw [value] at decoded
      simpa only [List.cons_append, List.append_assoc] using decoded

/-- Another code point is read back in the place of one that is not portable. -/
theorem reread_other {cp : Nat} (le : cp ≤ 0x10ffff) (single : ¬ (0xd800 ≤ cp ∧ cp ≤ 0xdbff))
    (other : ¬ Portable cp) (rest : Bytes) :
    ∃ cp' tail, cp' ≤ 0x10ffff ∧ cp' ≠ cp ∧ decodeString (quotedChar cp ++ rest) =
      (decodeString tail).map (codePointToUTF8 cp' ++ ·) := by
  unfold Portable at other
  have long : quotedChar cp = escaped (seen cp) := by
    unfold quotedChar
    rw [if_neg (by omega)]
  rw [long]
  by_cases plane : cp ≤ 0xffff
  · have replaced : seen cp = replacementCharacter := by
      rw [seen, if_neg (by omega), if_pos plane, if_pos (by omega)]
    rw [replaced, escaped, if_neg (by decide), if_pos (by decide)]
    refine ⟨replacementCharacter, rest, by decide, ?_, ?_⟩
    · unfold replacementCharacter
      omega
    · exact decodeString_unicode (decode_basic (by decide) rest)
  · have shifted : seen cp = cp / 2 ^ 18 * 2 ^ 24 + cp % 2 ^ 18 := by
      rw [seen, if_neg (by omega), if_neg plane]
    have alone : ¬ (0xd800 ≤ ((cp / 2 ^ 18 * 2 ^ 24 + cp % 2 ^ 18 - 0x10000) / 2 ^ 10 + 0xd800) % 2 ^ 16 ∧
        ((cp / 2 ^ 18 * 2 ^ 24 + cp % 2 ^ 18 - 0x10000) / 2 ^ 10 + 0xd800) % 2 ^ 16 ≤ 0xdbff) := by
      omega
    rw [shifted, escaped, if_neg (by omega), if_neg (by omega)]
    have decoded := decodeString_unicode (decode_basic alone (92 :: 117 :: toHex16Bit
      ((cp / 2 ^ 18 * 2 ^ 24 + cp % 2 ^ 18 - 0x10000) % 2 ^ 10 + 0xdc00) ++ rest))
    refine ⟨_, _, ?_, ?_, by simpa only [List.cons_append, List.append_assoc] using decoded⟩
    all_goals omega

/-! ### A string, written and read back -/

/-- What the writer has written goes on as it would have without it. -/
def Closed (chars : Bytes) : Prop :=
  ∀ rest, readString (chars ++ rest) = (readString rest).map fun (after, rest) => (chars ++ after, rest)

theorem closed_nil : Closed [] := fun rest => by simp

theorem closed_append {front back : Bytes} (closed : Closed front) (closed' : Closed back) :
    Closed (front ++ back) := by
  intro rest
  rw [List.append_assoc, closed, closed', Option.map_map]
  simp [Function.comp_def]

theorem closed_plain {c : UInt8} (quote : c ≠ 34) (backslash : c ≠ 92) : Closed [c] := by
  intro rest
  rw [List.singleton_append, readString.eq_def]
  simp [quote, backslash]

theorem closed_escape (letter : UInt8) : Closed [92, letter] := by
  intro rest
  simp [readString]

/-- The bytes of ASCII text without control characters. -/
def IsAscii (text : Bytes) : Prop := ∀ c ∈ text, 0x20 ≤ c.toNat ∧ c.toNat < 0x80

theorem hexDigit_plain {n : Nat} (lt : n < 16) :
    hexDigit n ≠ 34 ∧ hexDigit n ≠ 92 ∧ 0x20 ≤ (hexDigit n).toNat ∧ (hexDigit n).toNat < 0x80 := by
  revert n
  decide

theorem toHex16Bit_plain (x : Nat) :
    ∀ c ∈ toHex16Bit x, c ≠ 34 ∧ c ≠ 92 ∧ 0x20 ≤ c.toNat ∧ c.toNat < 0x80 := by
  intro c member
  simp only [toHex16Bit, List.mem_cons, List.not_mem_nil, or_false] at member
  rcases member with rfl | rfl | rfl | rfl
  all_goals exact hexDigit_plain (Nat.mod_lt _ (by decide))

theorem closed_of_plain {chars : Bytes} (plain : ∀ c ∈ chars, c ≠ 34 ∧ c ≠ 92) : Closed chars := by
  induction chars with
  | nil => exact closed_nil
  | cons c chars ih =>
    obtain ⟨⟨quote, backslash⟩, plain⟩ := List.forall_mem_cons.mp plain
    exact closed_append (closed_plain quote backslash) (ih plain)

theorem closed_unicode (x : Nat) : Closed (92 :: 117 :: toHex16Bit x) :=
  closed_append (closed_escape 117) (closed_of_plain fun c member =>
    ⟨(toHex16Bit_plain x c member).1, (toHex16Bit_plain x c member).2.1⟩)

theorem ascii_unicode (x : Nat) : IsAscii (92 :: 117 :: toHex16Bit x) := by
  intro c member
  rcases List.mem_cons.mp member with rfl | member
  · decide
  rcases List.mem_cons.mp member with rfl | member
  · decide
  · exact (toHex16Bit_plain x c member).2.2

theorem ascii_append {front back : Bytes} (ascii_ : IsAscii front) (ascii' : IsAscii back) :
    IsAscii (front ++ back) := by
  intro c member
  rcases List.mem_append.mp member with member | member
  · exact ascii_ c member
  · exact ascii' c member

theorem escaped_closed {cp : Nat} (plain : cp ≠ 34 ∧ cp ≠ 92) : Closed (escaped cp) ∧ IsAscii (escaped cp) := by
  unfold escaped
  split
  · rename_i printed
    have value := toNat_byte (n := cp) (by omega)
    refine ⟨closed_plain ?_ ?_, fun c member => ?_⟩
    · intro same
      rw [same] at value
      exact plain.1 value.symm
    · intro same
      rw [same] at value
      exact plain.2 value.symm
    · rw [List.mem_singleton.mp member, value]
      exact printed.symm
  split
  · exact ⟨closed_unicode _, ascii_unicode _⟩
  · exact ⟨closed_append (closed_unicode _) (closed_unicode _), ascii_append (ascii_unicode _) (ascii_unicode _)⟩

/-- A byte that has no short escape does not stand for one that has. -/
theorem utf8ToCodepoint_plain {c : UInt8} (long : shortEscape c = none) (rest : Bytes) :
    (utf8ToCodepoint c rest).1 ≠ 34 ∧ (utf8ToCodepoint c rest).1 ≠ 92 := by
  obtain ⟨quote, backslash⟩ := shortEscape_none long
  have quote' : c.toNat ≠ 34 := fun same => quote (UInt8.toNat_inj.mp same)
  have backslash' : c.toNat ≠ 92 := fun same => backslash (UInt8.toNat_inj.mp same)
  unfold utf8ToCodepoint replacementCharacter
  dsimp only
  repeat' split
  all_goals
    simp only [ne_eq]
    omega

theorem shortEscape_ascii {c letter : UInt8} (short : shortEscape c = some letter) :
    0x20 ≤ letter.toNat ∧ letter.toNat < 0x80 := by
  unfold shortEscape at short
  repeat' split at short
  all_goals
    cases short
  all_goals decide

/-- What stands between the quotes is printed ASCII and does not close them. -/
theorem quoteChars_closed (value : Bytes) : Closed (quoteChars value) ∧ IsAscii (quoteChars value) := by
  have turns := loop_induction quoteTurn_shrinks
    (motive := fun s result => Closed s.1 ∧ IsAscii s.1 → Closed result ∧ IsAscii result) ?_ ?_ ([], value)
  · exact turns ⟨closed_nil, fun c member => absurd member List.not_mem_nil⟩
  · rintro ⟨result, _ | ⟨c, rest⟩⟩ out ends before
    · obtain rfl := Sum.inr.inj ends
      exact before
    · simp only [quoteTurn] at ends
      split at ends <;> cases ends
  · rintro ⟨result, _ | ⟨c, rest⟩⟩ s' out goesOn after ⟨closed, ascii_⟩
    · cases goesOn
    · apply after
      simp only [quoteTurn] at goesOn
      split at goesOn
      · rename_i short
        obtain rfl := Sum.inl.inj goesOn
        refine ⟨closed_append closed (closed_escape _), ascii_append ascii_ ?_⟩
        intro c member
        simp only [List.mem_cons, List.not_mem_nil, or_false] at member
        rcases member with rfl | rfl
        · decide
        · exact shortEscape_ascii short
      · rename_i long
        obtain rfl := Sum.inl.inj goesOn
        obtain ⟨closed', ascii'⟩ := escaped_closed (utf8ToCodepoint_plain long rest)
        exact ⟨closed_append closed closed', ascii_append ascii_ ascii'⟩

theorem readString_quote (rest : Bytes) : readString (34 :: rest) = some ([], rest) := by
  rw [readString.eq_def]
  simp

/-- The reader finds the quote that the writer has put at the end. -/
theorem readString_quoteChars (value rest : Bytes) :
    readString (quoteChars value ++ 34 :: rest) = some (quoteChars value, rest) := by
  rw [(quoteChars_closed value).1, readString_quote]
  simp

/-- A text in UTF-8 whose code points come from `good`. -/
def Utf8 (good : Nat → Prop) (text : Bytes) : Prop :=
  ∃ cps : List Nat, (∀ cp ∈ cps, cp ≤ 0x10ffff ∧ good cp) ∧ text = cps.flatMap codePointToUTF8

theorem utf8_append {good : Nat → Prop} {front : Bytes} (text : Utf8 good front) {cp : Nat}
    (le : cp ≤ 0x10ffff) (good_ : good cp) : Utf8 good (front ++ codePointToUTF8 cp) := by
  obtain ⟨cps, all, rfl⟩ := text
  refine ⟨cps ++ [cp], ?_, by simp⟩
  intro cp' member
  rcases List.mem_append.mp member with member | member
  · exact all cp' member
  · rw [List.mem_singleton.mp member]
    exact ⟨le, good_⟩

theorem utf8_ascii {good : Nat → Prop} {front : Bytes} (text : Utf8 good front) {c : UInt8}
    (lt : c.toNat < 0x80) (good_ : good c.toNat) : Utf8 good (front ++ [c]) := by
  have single : codePointToUTF8 c.toNat = [c] := by
    rw [codePointToUTF8, if_pos (by omega), UInt8.ofNat_toNat]
  rw [← single]
  exact utf8_append text (by omega) good_

theorem single_ascii {c : UInt8} (lt : c.toNat < 0x80) : Single c.toNat := by
  unfold Single
  omega

theorem unescape_ascii {escape char : UInt8} (known : unescape escape = some char) : char.toNat < 0x80 := by
  unfold unescape at known
  repeat' split at known
  all_goals
    cases known
  all_goals decide

/-- What is decoded from ASCII is UTF-8 without the first halves of surrogate pairs. -/
theorem decodeString_utf8 {chars out : Bytes} (ascii_ : IsAscii chars) (decoded : decodeString chars = some out) :
    Utf8 Single out := by
  have turns := loop_induction decodeTurn_shrinks
    (motive := fun s result => Utf8 Single s.1 → IsAscii s.2 → ∀ out, result = some out → Utf8 Single out)
    ?_ ?_ ([], chars)
  · exact turns ⟨[], by simp, rfl⟩ ascii_ out decoded
  · rintro ⟨before, _ | ⟨c, rest⟩⟩ result ends text ascii_ out rfl
    · obtain rfl := Option.some.inj (Sum.inr.inj ends)
      exact text
    · simp only [decodeTurn] at ends
      repeat' split at ends
      all_goals
        cases ends
      exact text
  · rintro ⟨before, _ | ⟨c, rest⟩⟩ s' result goesOn after text ascii_ out done
    · cases goesOn
    · obtain ⟨⟨_, lt⟩, ascii_⟩ := List.forall_mem_cons.mp ascii_
      refine after ?_ ?_ out done
      all_goals
        simp only [decodeTurn] at goesOn
        split at goesOn
        · cases goesOn
        split at goesOn
        · split at goesOn
          · cases goesOn
          obtain ⟨_, ascii_⟩ := List.forall_mem_cons.mp ascii_
          split at goesOn
          · split at goesOn
            · rename_i read
              obtain rfl := Sum.inl.inj goesOn
              obtain ⟨le, single, digits, _, rfl⟩ := decodeUnicodeCodePoint_spec read
              first
                | exact utf8_append text le single
                | exact fun b member => ascii_ b (List.mem_append_right _ member)
            · cases goesOn
          · split at goesOn
            · rename_i known
              obtain rfl := Sum.inl.inj goesOn
              first
                | exact utf8_ascii text (unescape_ascii known) (single_ascii (unescape_ascii known))
                | exact ascii_
            · cases goesOn
        · obtain rfl := Sum.inl.inj goesOn
          first
            | exact utf8_ascii text lt (single_ascii lt)
            | exact ascii_

theorem codePointToUTF8_length (cp : Nat) : (codePointToUTF8 cp).length ≤ 4 := by
  unfold codePointToUTF8
  repeat' split
  all_goals simp

/-- Decoding makes no string longer. -/
theorem decodeString_length {chars out : Bytes} (decoded : decodeString chars = some out) :
    out.length ≤ chars.length := by
  have turns := loop_induction decodeTurn_shrinks
    (motive := fun s result => ∀ out, result = some out → out.length ≤ s.1.length + s.2.length)
    ?_ ?_ ([], chars) out decoded
  · simpa using turns
  · rintro ⟨before, _ | ⟨c, rest⟩⟩ result ends out rfl
    · obtain rfl := Option.some.inj (Sum.inr.inj ends)
      exact Nat.le_refl _
    · simp only [decodeTurn] at ends
      repeat' split at ends
      all_goals
        cases ends
      exact Nat.le_add_right _ _
  · rintro ⟨before, _ | ⟨c, rest⟩⟩ s' result goesOn ih out done
    · cases goesOn
    · refine (ih out done).trans ?_
      simp only [decodeTurn] at goesOn
      split at goesOn
      · cases goesOn
      split at goesOn
      · split at goesOn
        · cases goesOn
        split at goesOn
        · split at goesOn
          · rename_i unicode _ read
            obtain rfl := Sum.inl.inj goesOn
            obtain ⟨_, _, digits, four, rfl⟩ := decodeUnicodeCodePoint_spec read
            have le := codePointToUTF8_length unicode
            simp only [List.length_append, List.length_cons]
            omega
          · cases goesOn
        · split at goesOn
          · obtain rfl := Sum.inl.inj goesOn
            simp only [List.length_append, List.length_cons, List.length_nil]
            omega
          · cases goesOn
      · obtain rfl := Sum.inl.inj goesOn
        simp only [List.length_append, List.length_cons, List.length_nil]
        omega

theorem decode_quoteChars {value : Bytes} (text : Utf8 Portable value) :
    decodeString (quoteChars value) = some value := by
  obtain ⟨cps, good, rfl⟩ := text
  induction cps with
  | nil => rfl
  | cons cp cps ih =>
    obtain ⟨⟨le, portable⟩, good⟩ := List.forall_mem_cons.mp good
    rw [List.flatMap_cons, quoteChars_codePoint le, reread_portable portable, ih good, Option.map_some]

theorem portable_of_decoded {cps : List Nat} (good : ∀ cp ∈ cps, cp ≤ 0x10ffff ∧ Single cp)
    (decoded : decodeString (quoteChars (cps.flatMap codePointToUTF8)) = some (cps.flatMap codePointToUTF8)) :
    ∀ cp ∈ cps, cp ≤ 0x10ffff ∧ Portable cp := by
  induction cps with
  | nil => exact fun cp member => absurd member List.not_mem_nil
  | cons cp cps ih =>
    obtain ⟨⟨le, single⟩, good⟩ := List.forall_mem_cons.mp good
    rw [List.flatMap_cons, quoteChars_codePoint le] at decoded
    by_cases portable : Portable cp
    · rw [reread_portable portable, Option.map_eq_some_iff] at decoded
      obtain ⟨out, decoded, same⟩ := decoded
      obtain rfl := List.append_cancel_left same
      exact List.forall_mem_cons.mpr ⟨⟨le, portable⟩, ih good decoded⟩
    · obtain ⟨cp', tail, le', different, reread⟩ := reread_other le single portable
        (quoteChars (cps.flatMap codePointToUTF8))
      rw [reread, Option.map_eq_some_iff] at decoded
      obtain ⟨out, _, same⟩ := decoded
      exact absurd (codePointToUTF8_inj le' le same) different

/-- A string comes back from its quotes exactly if it is UTF-8 without the first halves of surrogate pairs,
U+DFFF to U+FFFF other than the replacement character, and what lies beyond U+3FFFF. -/
theorem decode_quoteChars_iff (value : Bytes) :
    decodeString (quoteChars value) = some value ↔ Utf8 Portable value := by
  refine ⟨fun decoded => ?_, decode_quoteChars⟩
  obtain ⟨cps, good, rfl⟩ := decodeString_utf8 (quoteChars_closed value).2 decoded
  exact ⟨cps, portable_of_decoded good decoded, rfl⟩

end MessageRepeater.Json
