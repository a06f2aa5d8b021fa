import MessageRepeater.Json.Reader

/-!
# What the reader leaves

Every reading moves forward. Whatever it leaves is a value that is nested no deeper than the stack limit,
with the members of each object in order and its strings decoded from pieces of the text; and it throws only
for a text that opens as many arrays and objects as the limit allows.
-/

namespace MessageRepeater.Json
open Foundation

/-! ### Tokens -/

theorem readCStyleComment_suffix (text : Bytes) : (readCStyleComment text).2 <:+ text := by
  induction text with
  | nil => exact List.suffix_refl []
  | cons c text ih =>
    cases text with
    | nil => exact List.nil_suffix
    | cons d rest =>
      rw [readCStyleComment]
      split
      · exact (List.suffix_cons d rest).trans (List.suffix_cons c _)
      · exact ih.trans (List.suffix_cons c _)

theorem readCppStyleComment_suffix (text : Bytes) : readCppStyleComment text <:+ text := by
  induction text with
  | nil => exact List.suffix_refl []
  | cons c rest ih =>
    rw [readCppStyleComment]
    split
    · exact List.suffix_cons c rest
    split
    · split
      · exact (List.tail_suffix rest).trans (List.suffix_cons c rest)
      · exact List.suffix_cons c rest
    · exact ih.trans (List.suffix_cons c rest)

theorem readComment_suffix (text : Bytes) : (readComment text).2 <:+ text := by
  cases text with
  | nil => exact List.suffix_refl []
  | cons c rest =>
    rw [readComment]
    split
    · exact (readCStyleComment_suffix rest).trans (List.suffix_cons c rest)
    split
    · exact (readCppStyleComment_suffix rest).trans (List.suffix_cons c rest)
    · exact List.suffix_cons c rest

theorem readNumber_suffix (text : Bytes) : readNumber text <:+ text := by
  have fraction (text : Bytes) : skipFraction text <:+ text := by
    unfold skipFraction
    split
    · exact (List.dropWhile_suffix _).trans (List.tail_suffix text)
    · exact List.suffix_refl text
  have sign (text : Bytes) : skipSign text <:+ text := by
    unfold skipSign
    split
    · exact List.tail_suffix text
    · exact List.suffix_refl text
  have exponent (text : Bytes) : skipExponent text <:+ text := by
    unfold skipExponent
    split
    · exact (List.dropWhile_suffix _).trans ((sign _).trans (List.tail_suffix text))
    · exact List.suffix_refl text
  exact (exponent _).trans ((fraction _).trans (List.dropWhile_suffix _))

theorem matchText_suffix {pattern text rest : Bytes} (matches_ : matchText pattern text = some rest) :
    rest <:+ text := by
  unfold matchText at matches_
  split at matches_
  · obtain rfl := Option.some.inj matches_
    exact List.drop_suffix _ _
  · cases matches_

theorem readString_eq {text chars rest : Bytes} (read : readString text = some (chars, rest)) :
    text = chars ++ 34 :: rest := by
  induction text using readString.induct generalizing chars with
  | case1 => cases read
  | case2 => cases read
  | case3 escape after ih =>
    rw [readString.eq_def] at read
    simp only [if_true, Option.map_eq_some_iff, Prod.mk.injEq, Prod.exists] at read
    obtain ⟨chars, _, read, rfl, rfl⟩ := read
    rw [ih read]
    rfl
  | case4 after _ =>
    rw [readString_quote, Option.some.injEq, Prod.mk.injEq] at read
    obtain ⟨rfl, rfl⟩ := read
    rfl
  | case5 c after backslash quote ih =>
    rw [readString.eq_def] at read
    simp only [if_neg backslash, if_neg quote, Option.map_eq_some_iff, Prod.mk.injEq, Prod.exists] at read
    obtain ⟨chars, _, read, rfl, rfl⟩ := read
    rw [ih read]
    rfl

/-- How many arrays and objects a text opens at most. -/
def openings (text : Bytes) : Nat := text.countP fun c => c == 91 || c == 123

theorem openings_suffix {text rest : Bytes} (suffix : rest <:+ text) : openings rest ≤ openings text :=
  suffix.sublist.countP_le

/-- The text holds what a comment starts with, be it inside of a string. -/
def Commented (text : Bytes) : Prop := ([47, 42] : Bytes) <:+: text ∨ ([47, 47] : Bytes) <:+: text

instance (text : Bytes) : Decidable (Commented text) := inferInstanceAs (Decidable (_ ∨ _))

theorem readComment_found {rest : Bytes} (found : (readComment rest).1 = true) : Commented (47 :: rest) := by
  cases rest with
  | nil => cases found
  | cons c rest =>
    rw [readComment] at found
    split at found
    · rename_i star
      exact .inl (star ▸ ⟨[], rest, rfl⟩)
    split at found
    · rename_i slash
      exact .inr (slash ▸ ⟨[], rest, rfl⟩)
    · cases found

/-- What a token says about the text that it was read from. -/
structure TokenOf (text : Bytes) (token : Token) : Prop where
  suffix : token.rest <:+ text
  within : token.text <:+: text
  forward : token.type = .endOfStream ∨ token.rest.length < text.length
  opens : token.type = .objectBegin ∨ token.type = .arrayBegin → openings token.rest < openings text
  comment : token.type = .comment → Commented text

/-- Most tokens are their first character, or leave less of the text still. -/
theorem tokenOf_suffix {c : UInt8} {rest rest' : Bytes} {type : TokenType} (suffix : rest' <:+ rest)
    (plain : type ≠ .objectBegin ∧ type ≠ .arrayBegin ∧ type ≠ .comment) :
    TokenOf (c :: rest) { type, rest := rest' } where
  suffix := suffix.trans (List.suffix_cons c rest)
  within := List.nil_infix
  forward := by
    have := suffix.length_le
    exact .inr (by dsimp only [List.length_cons]; omega)
  opens opening := opening.elim (absurd · plain.1) (absurd · plain.2.1)
  comment comment := absurd comment plain.2.2

theorem literalToken_of {c : UInt8} {type : TokenType} (pattern rest : Bytes)
    (plain : type ≠ .objectBegin ∧ type ≠ .arrayBegin ∧ type ≠ .comment) :
    TokenOf (c :: rest) (literalToken type pattern rest) := by
  unfold literalToken
  split
  · rename_i matches_
    exact tokenOf_suffix (matchText_suffix matches_) plain
  · exact tokenOf_suffix (List.suffix_refl rest) (by simp)

theorem opening_of {c : UInt8} (rest : Bytes) {type : TokenType} (plain : type ≠ .comment)
    (opening : c = 91 ∨ c = 123) : TokenOf (c :: rest) { type, rest } where
  suffix := List.suffix_cons c rest
  within := List.nil_infix
  forward := .inr (by simp)
  opens _ := by
    unfold openings
    rw [List.countP_cons_of_pos (by simpa using opening)]
    exact Nat.lt_succ_self _
  comment comment := absurd comment plain

theorem tokenAt_of (c : UInt8) (rest : Bytes) : TokenOf (c :: rest) (tokenAt c rest) := by
  have single {type : TokenType} (plain : type ≠ .objectBegin ∧ type ≠ .arrayBegin ∧ type ≠ .comment) :
      TokenOf (c :: rest) { type, rest } := tokenOf_suffix (List.suffix_refl rest) plain
  unfold tokenAt
  refine iteInduction (fun brace => opening_of rest (by simp) (.inr brace)) fun _ => ?_
  refine iteInduction (fun _ => single (by simp)) fun _ => ?_
  refine iteInduction (fun bracket => opening_of rest (by simp) (.inl bracket)) fun _ => ?_
  refine iteInduction (fun _ => single (by simp)) fun _ => ?_
  refine iteInduction (fun _ => ?_) fun _ => ?_
  · split
    · rename_i chars rest' read
      obtain rfl := readString_eq read
      refine ⟨?_, ?_, .inr ?_, by simp, by simp⟩
      · exact (List.suffix_cons 34 rest').trans ((List.suffix_append chars _).trans (List.suffix_cons c _))
      · exact ⟨[c], 34 :: rest', by simp⟩
      · simp only [List.length_cons, List.length_append]
        omega
    · exact tokenOf_suffix List.nil_suffix (by simp)
  refine iteInduction (fun slash => ?_) fun _ => ?_
  · have suffix := readComment_suffix rest
    split
    · rename_i found
      refine ⟨suffix.trans (List.suffix_cons c rest), List.nil_infix, .inr ?_, by simp, fun _ => ?_⟩
      · exact Nat.lt_succ_of_le suffix.length_le
      · exact slash ▸ readComment_found found
    · exact tokenOf_suffix suffix (by simp)
  refine iteInduction (fun _ => ?_) fun _ => ?_
  · have suffix := readNumber_suffix rest
    refine ⟨suffix.trans (List.suffix_cons c rest), ?_, .inr ?_, by simp, by simp⟩
    · exact (List.cons_prefix_cons.mpr ⟨rfl, List.take_prefix _ rest⟩).isInfix
    · have := suffix.length_le
      dsimp only [List.length_cons]
      omega
  refine iteInduction (fun _ => literalToken_of _ rest (by simp)) fun _ => ?_
  refine iteInduction (fun _ => literalToken_of _ rest (by simp)) fun _ => ?_
  refine iteInduction (fun _ => literalToken_of _ rest (by simp)) fun _ => ?_
  refine iteInduction (fun _ => single (by simp)) fun _ => ?_
  refine iteInduction (fun _ => single (by simp)) fun _ => ?_
  exact iteInduction (fun _ => single (by simp)) fun _ => single (by simp)

/-- A token of what follows some of the text is a token of the text. -/
theorem TokenOf.behind {text rest : Bytes} {token : Token} (of_ : TokenOf rest token) (suffix : rest <:+ text) :
    TokenOf text token where
  suffix := of_.suffix.trans suffix
  within := of_.within.trans suffix.isInfix
  forward := of_.forward.imp_right fun lt => Nat.lt_of_lt_of_le lt suffix.length_le
  opens opening := Nat.lt_of_lt_of_le (of_.opens opening) (openings_suffix suffix)
  comment comment := (of_.comment comment).imp (·.trans suffix.isInfix) (·.trans suffix.isInfix)

theorem readToken_of (text : Bytes) : TokenOf text (readToken text) := by
  have spaces : skipSpaces text <:+ text := List.dropWhile_suffix _
  unfold readToken
  split
  · exact ⟨List.nil_suffix, List.nil_infix, .inl rfl, by simp, by simp⟩
  · rename_i c rest same
    exact (tokenAt_of c rest).behind (same ▸ spaces)

theorem commentTurn_shrinks : Shrinks List.length commentTurn := by
  intro text text' goesOn
  unfold commentTurn at goesOn
  split at goesOn
  · rename_i comment
    obtain rfl := Sum.inl.inj goesOn
    exact (readToken_of text).forward.resolve_left (by simp [comment])
  · cases goesOn

theorem skipCommentTokens_of (text : Bytes) : TokenOf text (skipCommentTokens text) := by
  refine loop_induction commentTurn_shrinks ?_ ?_ text
  · intro text token ends
    unfold commentTurn at ends
    split at ends
    · cases ends
    · obtain rfl := Sum.inr.inj ends
      exact readToken_of text
  · intro text text' token goesOn of_
    unfold commentTurn at goesOn
    split at goesOn
    · obtain rfl := Sum.inl.inj goesOn
      exact of_.behind (readToken_of text).suffix
    · cases goesOn

/-! ### Turns of the loops -/

/-- Reading a value moves forward. -/
def Forward (read : ReadValue) : Prop :=
  ∀ {text slot value rest}, read text slot = .ok (value, some rest) →
    rest <:+ text ∧ rest.length < text.length

theorem elementTurn_goesOn {read : ReadValue} {s s' : List Value × Bytes}
    (goesOn : elementTurn read s = .inl s') :
    ∃ value rest, read s.2 .null = .ok (value, some rest) ∧ s'.1 = s.1 ++ [value] ∧ s'.2 <:+ rest := by
  obtain ⟨elements, text⟩ := s
  simp only [elementTurn] at goesOn
  split at goesOn
  · cases goesOn
  · cases goesOn
  · rename_i value rest read_
    split at goesOn
    · obtain rfl := Sum.inl.inj goesOn
      exact ⟨value, rest, read_, rfl, (skipCommentTokens_of rest).suffix⟩
    · split at goesOn <;> cases goesOn

theorem elementTurn_ends {read : ReadValue} {s : List Value × Bytes} {result : Reading (List Value)}
    (ends : elementTurn read s = .inr result) :
    (∃ what, read s.2 .null = .error what ∧ result = .error what) ∨
      ∃ value rest rest', read s.2 .null = .ok (value, rest) ∧ result = .ok (s.1 ++ [value], rest') ∧
        ∀ r, rest' = some r → ∃ r₀, rest = some r₀ ∧ r <:+ r₀ := by
  obtain ⟨elements, text⟩ := s
  simp only [elementTurn] at ends
  split at ends
  · rename_i what thrown
    exact .inl ⟨what, thrown, (Sum.inr.inj ends).symm⟩
  · rename_i value read_
    exact .inr ⟨value, none, none, read_, (Sum.inr.inj ends).symm, by simp⟩
  · rename_i value rest read_
    split at ends
    · cases ends
    split at ends
    · refine .inr ⟨value, some rest, _, read_, (Sum.inr.inj ends).symm, ?_⟩
      rintro r ⟨⟩
      exact ⟨rest, rfl, (skipCommentTokens_of rest).suffix⟩
    · exact .inr ⟨value, some rest, none, read_, (Sum.inr.inj ends).symm, by simp⟩

theorem elementTurn_shrinks {read : ReadValue} (forward : Forward read) :
    Shrinks (fun s => s.2.length) (elementTurn read) := by
  intro s s' goesOn
  obtain ⟨value, rest, read_, _, suffix⟩ := elementTurn_goesOn goesOn
  have shorter := (forward read_).2
  have le := suffix.length_le
  show s'.2.length < s.2.length
  omega

/-- What a turn of the loop over the members reads: a name, and a value behind it. -/
structure MemberRead (read : ReadValue) (s : ObjectState) (name : Bytes) (reading : Reading Value) : Prop where
  named : ∃ chars, chars <:+: s.text ∧ decodeString chars = some name
  valued : ∃ text, text <:+ s.text ∧ read text ((s.members.lookup name).getD .null) = reading

theorem memberRead (read : ReadValue) {s : ObjectState} {name : Bytes}
    (named : decodeString (skipCommentTokens s.text).text = some name) :
    MemberRead read s name
      (read (readToken (skipCommentTokens s.text).rest).rest ((s.members.lookup name).getD .null)) := by
  have token := skipCommentTokens_of s.text
  exact ⟨⟨_, token.within, named⟩, _, (readToken_of _).suffix.trans token.suffix, rfl⟩

theorem memberTurn_goesOn {read : ReadValue} {s s' : ObjectState} (goesOn : memberTurn read s = .inl s') :
    ∃ value rest, MemberRead read s s'.name (.ok (value, some rest)) ∧
      s'.members = insertMember s'.name value s.members ∧ s'.text <:+ rest := by
  simp only [memberTurn] at goesOn
  split at goesOn
  · cases goesOn
  split at goesOn
  rotate_left
  · cases goesOn
  split at goesOn
  · cases goesOn
  rename_i name named
  split at goesOn
  rotate_left
  · cases goesOn
  have reading := memberRead read named
  split at goesOn
  · cases goesOn
  · cases goesOn
  rename_i value rest read_
  rw [read_] at reading
  split at goesOn
  · cases goesOn
  split at goesOn
  · obtain rfl := Sum.inl.inj goesOn
    exact ⟨value, rest, reading, rfl, (readToken_of rest).suffix⟩
  split at goesOn
  · split at goesOn
    · cases goesOn
    · obtain rfl := Sum.inl.inj goesOn
      exact ⟨value, rest, reading, rfl, (skipCommentTokens_of _).suffix.trans (readToken_of rest).suffix⟩
  · cases goesOn

theorem memberTurn_ends {read : ReadValue} {s : ObjectState} {result : Reading (List (Bytes × Value))}
    (ends : memberTurn read s = .inr result) :
    (∃ rest, result = .ok (s.members, rest) ∧ ∀ r, rest = some r → r <:+ s.text) ∨
      (∃ name what, MemberRead read s name (.error what) ∧ result = .error what) ∨
      ∃ name value rest rest', MemberRead read s name (.ok (value, rest)) ∧
        result = .ok (insertMember name value s.members, rest') ∧
        ∀ r, rest' = some r → ∃ r₀, rest = some r₀ ∧ r <:+ r₀ := by
  simp only [memberTurn] at ends
  split at ends
  · refine .inl ⟨_, (Sum.inr.inj ends).symm, ?_⟩
    rintro r ⟨⟩
    exact (skipCommentTokens_of s.text).suffix
  split at ends
  rotate_left
  · exact .inl ⟨none, (Sum.inr.inj ends).symm, by simp⟩
  split at ends
  · exact .inl ⟨none, (Sum.inr.inj ends).symm, by simp⟩
  rename_i name named
  split at ends
  rotate_left
  · exact .inl ⟨none, (Sum.inr.inj ends).symm, by simp⟩
  have reading := memberRead read named
  refine .inr ?_
  split at ends
  · rename_i what thrown
    rw [thrown] at reading
    exact .inl ⟨name, what, reading, (Sum.inr.inj ends).symm⟩
  · rename_i value read_
    rw [read_] at reading
    exact .inr ⟨name, value, none, none, reading, (Sum.inr.inj ends).symm, by simp⟩
  rename_i value rest read_
  rw [read_] at reading
  refine .inr ⟨name, value, some rest, ?_⟩
  split at ends
  · refine ⟨_, reading, (Sum.inr.inj ends).symm, ?_⟩
    rintro r ⟨⟩
    exact ⟨rest, rfl, (readToken_of rest).suffix⟩
  split at ends
  · cases ends
  split at ends
  · split at ends
    · refine ⟨_, reading, (Sum.inr.inj ends).symm, ?_⟩
      rintro r ⟨⟩
      exact ⟨rest, rfl, (skipCommentTokens_of _).suffix.trans (readToken_of rest).suffix⟩
    · cases ends
  · exact ⟨none, reading, (Sum.inr.inj ends).symm, by simp⟩

theorem memberTurn_shrinks {read : ReadValue} (forward : Forward read) :
    Shrinks (fun s => s.text.length) (memberTurn read) := by
  intro s s' goesOn
  obtain ⟨value, rest, reading, _, suffix⟩ := memberTurn_goesOn goesOn
  obtain ⟨text, within, read_⟩ := reading.valued
  have shorter := (forward read_).2
  have le := suffix.length_le
  have le' := within.length_le
  show s'.text.length < s.text.length
  omega

/-! ### Moving forward -/

theorem readArray_forward {read : ReadValue} (forward : Forward read) {text rest : Bytes} {elements : List Value}
    (done : readArray read text = .ok (elements, some rest)) : rest <:+ text := by
  unfold readArray at done
  split at done
  · obtain ⟨_, same⟩ := Prod.mk.inj (Except.ok.inj done)
    obtain rfl := Option.some.inj same
    exact (readToken_of text).suffix
  · refine loop_induction (elementTurn_shrinks forward)
      (motive := fun s result => ∀ elements rest, result = .ok (elements, some rest) → rest <:+ s.2)
      ?_ ?_ ([], text) elements rest done
    · rintro s result ends elements rest rfl
      rcases elementTurn_ends ends with ⟨what, _, same⟩ | ⟨value, before, after, read_, same, within⟩
      · cases same
      · obtain ⟨_, rfl⟩ := Prod.mk.inj (Except.ok.inj same)
        obtain ⟨r, rfl, suffix⟩ := within rest rfl
        exact suffix.trans (forward read_).1
    · intro s s' result goesOn ih elements rest done
      obtain ⟨value, before, read_, _, suffix⟩ := elementTurn_goesOn goesOn
      exact (ih elements rest done).trans (suffix.trans (forward read_).1)

theorem readObject_forward {read : ReadValue} (forward : Forward read) {text rest : Bytes}
    {members : List (Bytes × Value)} (done : readObject read text = .ok (members, some rest)) :
    rest <:+ text := by
  refine loop_induction (memberTurn_shrinks forward)
    (motive := fun s result => ∀ members rest, result = .ok (members, some rest) → rest <:+ s.text)
    ?_ ?_ { text } members rest done
  · rintro s result ends members rest rfl
    rcases memberTurn_ends ends with ⟨_, same, within⟩ | ⟨_, _, _, same⟩ | ⟨_, _, _, _, reading, same, within⟩
    · obtain ⟨_, rfl⟩ := Prod.mk.inj (Except.ok.inj same)
      exact within rest rfl
    · cases same
    · obtain ⟨_, rfl⟩ := Prod.mk.inj (Except.ok.inj same)
      obtain ⟨text, suffix, read_⟩ := reading.valued
      obtain ⟨r, rfl, suffix'⟩ := within rest rfl
      exact suffix'.trans ((forward read_).1.trans suffix)
  · intro s s' result goesOn ih members rest done
    obtain ⟨value, before, reading, _, suffix⟩ := memberTurn_goesOn goesOn
    obtain ⟨text, suffix', read_⟩ := reading.valued
    exact (ih members rest done).trans (suffix.trans ((forward read_).1.trans suffix'))

theorem map_ok {Result Result' : Type} {f : Result → Result'} {result : Except Bytes Result} {done : Result'}
    (mapped : result.map f = .ok done) : ∃ before, result = .ok before ∧ f before = done := by
  cases result with
  | error what => cases mapped
  | ok before => exact ⟨before, rfl, Except.ok.inj mapped⟩

theorem readValue_forward (readDouble : ReadDouble) (levels : Nat) : Forward (readValue readDouble levels) := by
  induction levels with
  | zero =>
    intro text slot value rest read_
    cases read_
  | succ levels ih =>
    intro text slot value rest read_
    have token := skipCommentTokens_of text
    have behind (some_ : (skipCommentTokens text).type ≠ .endOfStream)
        (suffix : rest <:+ (skipCommentTokens text).rest) : rest <:+ text ∧ rest.length < text.length :=
      ⟨suffix.trans token.suffix, Nat.lt_of_le_of_lt suffix.length_le (token.forward.resolve_left some_)⟩
    simp only [readValue] at read_
    split at read_
    · rename_i type
      obtain ⟨⟨members, after⟩, done, same⟩ := map_ok read_
      obtain ⟨_, rfl⟩ := Prod.mk.inj same
      exact behind (by simp [type]) (readObject_forward ih done)
    · rename_i type
      obtain ⟨⟨elements, after⟩, done, same⟩ := map_ok read_
      obtain ⟨_, rfl⟩ := Prod.mk.inj same
      exact behind (by simp [type]) (readArray_forward ih done)
    all_goals rename_i type
    all_goals try split at read_
    all_goals
      obtain ⟨_, same⟩ := Prod.mk.inj (Except.ok.inj read_)
      cases same
    all_goals exact behind (by simp [type]) (List.suffix_refl _)

/-! ### What is left -/

/-- A value that a reading can leave: nested at most `levels` deep, its integers and doubles as numbers are
read, the members of its objects in order and its strings `good`. -/
inductive Canonical (readDouble : ReadDouble) (good : Bytes → Prop) : Nat → Value → Prop
  | null {levels} : Canonical readDouble good (levels + 1) .null
  | int {levels value} : -2 ^ 63 ≤ value → value ≤ Value.maxInt →
      Canonical readDouble good (levels + 1) (.int value)
  | uint {levels} {value : Nat} : Value.maxInt < value → value < 2 ^ 64 →
      Canonical readDouble good (levels + 1) (.uint value)
  | real {levels source value text} : readDouble source = some (value, text) →
      Canonical readDouble good (levels + 1) (.real value text)
  | string {levels text} : good text → Canonical readDouble good (levels + 1) (.string text)
  | boolean {levels value} : Canonical readDouble good (levels + 1) (.boolean value)
  | array {levels elements} : (∀ element ∈ elements, Canonical readDouble good levels element) →
      Canonical readDouble good (levels + 1) (.array elements)
  | object {levels} {members : List (Bytes × Value)} : (members.map Prod.fst).Pairwise (· < ·) →
      (∀ member ∈ members, good member.1) →
      (∀ member ∈ members, Canonical readDouble good levels member.2) →
      Canonical readDouble good (levels + 1) (.object members)

theorem canonical_null {readDouble : ReadDouble} {good : Bytes → Prop} {levels : Nat} (pos : 0 < levels) :
    Canonical readDouble good levels .null := by
  obtain ⟨levels, rfl⟩ := Nat.exists_eq_add_one.mpr pos
  exact .null

theorem decodeDigits_le {maxIntegerValue value n : Nat} {text : Bytes} (le : value ≤ maxIntegerValue)
    (decoded : decodeDigits maxIntegerValue value text = some n) : n ≤ maxIntegerValue := by
  induction text generalizing value with
  | nil =>
    obtain rfl := Option.some.inj decoded
    exact le
  | cons c rest ih =>
    simp only [decodeDigits] at decoded
    split at decoded
    · cases decoded
    rename_i digit
    split at decoded
    · cases decoded
    refine ih ?_ decoded
    have digit : 48 ≤ c.toNat ∧ c.toNat ≤ 57 := by
      simpa [isDigit, UInt8.le_iff_toNat_le] using digit
    omega

theorem decodeNumber_canonical {readDouble : ReadDouble} {good : Bytes → Prop} {levels : Nat} {text : Bytes}
    {value : Value} (decoded : decodeNumber readDouble text = some value) :
    Canonical readDouble good (levels + 1) value := by
  have double {value : Value} (decoded : decodeDouble readDouble text = some value) :
      Canonical readDouble good (levels + 1) value := by
    obtain ⟨⟨number, shown⟩, read_, rfl⟩ := Option.map_eq_some_iff.mp decoded
    exact .real read_
  unfold decodeNumber at decoded
  split at decoded
  · split at decoded
    · rename_i n digits
      obtain rfl := Option.some.inj decoded
      have le := decodeDigits_le (Nat.zero_le _) digits
      exact .int (by omega) (by unfold Value.maxInt; omega)
    · exact double decoded
  · split at decoded
    · rename_i n digits
      obtain rfl := Option.some.inj decoded
      have le := decodeDigits_le (Nat.zero_le _) digits
      split
      · rename_i small
        exact .int (by omega) small
      · rename_i large
        exact .uint (by omega) (by omega)
    · exact double decoded

theorem mem_insertMember {name : Bytes} {value : Value} {members : List (Bytes × Value)}
    {member : Bytes × Value} (mem : member ∈ insertMember name value members) :
    member = (name, value) ∨ member ∈ members := by
  induction members with
  | nil => exact .inl (List.mem_singleton.mp mem)
  | cons first rest ih =>
    simp only [insertMember] at mem
    split at mem
    · exact (List.mem_cons.mp mem).imp_right (List.mem_cons_of_mem _)
    split at mem
    · exact List.mem_cons.mp mem
    · rcases List.mem_cons.mp mem with same | later
      · exact .inr (same ▸ List.mem_cons_self)
      · exact (ih later).imp_right (List.mem_cons_of_mem _)

theorem insertMember_sorted {name : Bytes} {value : Value} {members : List (Bytes × Value)}
    (sorted : (members.map Prod.fst).Pairwise (· < ·)) :
    ((insertMember name value members).map Prod.fst).Pairwise (· < ·) := by
  induction members with
  | nil => exact List.pairwise_singleton _ _
  | cons first rest ih =>
    obtain ⟨below, later⟩ := List.pairwise_cons.mp sorted
    simp only [insertMember]
    split
    · rename_i same
      rw [same]
      exact sorted
    rename_i other
    split
    · rename_i before
      refine List.pairwise_cons.mpr ⟨fun other member => ?_, sorted⟩
      rcases List.mem_cons.mp member with rfl | member
      · exact before
      · exact List.lt_trans before (below other member)
    · rename_i behind
      have after : first.1 < name := by
        by_contra neither
        exact other (List.le_antisymm (List.not_lt.mp neither) (List.not_lt.mp behind))
      refine List.pairwise_cons.mpr ⟨fun other member => ?_, ih later⟩
      obtain ⟨entry, mem, rfl⟩ := List.mem_map.mp member
      rcases mem_insertMember mem with rfl | mem
      · exact after
      · exact below entry.1 (List.mem_map_of_mem mem)

/-- What can come of a reading: it throws for a text that opens enough, or leaves something good. -/
def Outcome {Slot : Type} (good : Slot → Prop) (levels : Nat) (text : Bytes) : Reading Slot → Prop
  | .error what => what = exceededStackLimit ∧ levels ≤ openings text
  | .ok (slot, _) => good slot

theorem Outcome.behind {Slot : Type} {good : Slot → Prop} {levels : Nat} {text rest : Bytes}
    {reading : Reading Slot} (outcome : Outcome good levels rest reading) (suffix : rest <:+ text) :
    Outcome good levels text reading := by
  cases reading with
  | error what => exact ⟨outcome.1, outcome.2.trans (openings_suffix suffix)⟩
  | ok left => exact outcome

/-- The strings that can be decoded from pieces of a text are good. -/
def Decodes (good : Bytes → Prop) (text : Bytes) : Prop :=
  ∀ chars out, chars <:+: text → decodeString chars = some out → good out

theorem Decodes.behind {good : Bytes → Prop} {text rest : Bytes} (decodes : Decodes good text)
    (suffix : rest <:+ text) : Decodes good rest :=
  fun chars out within decoded => decodes chars out (within.trans suffix.isInfix) decoded

/-- What a reading of a value comes to. -/
def Sound (readDouble : ReadDouble) (good : Bytes → Prop) (levels : Nat) (read : ReadValue) : Prop :=
  ∀ text slot, Decodes good text → (0 < levels → Canonical readDouble good levels slot) →
    Outcome (Canonical readDouble good levels) levels text (read text slot)

section Values
variable {readDouble : ReadDouble} {good : Bytes → Prop} {levels : Nat} {read : ReadValue}

theorem readArray_outcome (forward : Forward read) (sound : Sound readDouble good levels read) {text : Bytes}
    (decodes : Decodes good text) :
    Outcome (fun elements => ∀ element ∈ elements, Canonical readDouble good levels element) levels text
      (readArray read text) := by
  have appended {elements : List Value} {value : Value}
      (before : ∀ element ∈ elements, Canonical readDouble good levels element)
      (canonical : Canonical readDouble good levels value) :
      ∀ element ∈ elements ++ [value], Canonical readDouble good levels element := by
    intro element member
    rcases List.mem_append.mp member with old | new
    · exact before element old
    · exact List.mem_singleton.mp new ▸ canonical
  unfold readArray
  split
  · exact fun element member => absurd member List.not_mem_nil
  · refine loop_induction (elementTurn_shrinks forward)
      (motive := fun s result => Decodes good s.2 → (∀ element ∈ s.1, Canonical readDouble good levels element) →
        Outcome _ levels s.2 result)
      ?_ ?_ ([], text) decodes fun element member => absurd member List.not_mem_nil
    · intro s result ends decodes before
      have outcome := sound s.2 .null decodes canonical_null
      rcases elementTurn_ends ends with ⟨what, read_, rfl⟩ | ⟨value, _, _, read_, rfl, _⟩
      · rw [read_] at outcome
        exact outcome
      · rw [read_] at outcome
        exact appended before outcome
    · intro s s' result goesOn ih decodes before
      obtain ⟨value, rest, read_, elements, suffix⟩ := elementTurn_goesOn goesOn
      have outcome := sound s.2 .null decodes canonical_null
      rw [read_] at outcome
      have behind := suffix.trans (forward read_).1
      exact (ih (decodes.behind behind) (elements ▸ appended before outcome)).behind behind

/-- What holds of the members of an object. -/
structure MembersCanonical (readDouble : ReadDouble) (good : Bytes → Prop) (levels : Nat)
    (members : List (Bytes × Value)) : Prop where
  sorted : (members.map Prod.fst).Pairwise (· < ·)
  names : ∀ member ∈ members, good member.1
  values : ∀ member ∈ members, Canonical readDouble good levels member.2

theorem MembersCanonical.insert {members : List (Bytes × Value)} {name : Bytes} {value : Value}
    (canonical : MembersCanonical readDouble good levels members) (good_ : good name)
    (value_ : Canonical readDouble good levels value) :
    MembersCanonical readDouble good levels (insertMember name value members) where
  sorted := insertMember_sorted canonical.sorted
  names member mem := by
    rcases mem_insertMember mem with rfl | old
    · exact good_
    · exact canonical.names member old
  values member mem := by
    rcases mem_insertMember mem with rfl | old
    · exact value_
    · exact canonical.values member old

/-- The slot of a member that is there already keeps its value. -/
theorem MembersCanonical.slot {members : List (Bytes × Value)}
    (canonical : MembersCanonical readDouble good levels members) (name : Bytes) (pos : 0 < levels) :
    Canonical readDouble good levels ((members.lookup name).getD .null) := by
  cases found : members.lookup name with
  | none => exact canonical_null pos
  | some value =>
    obtain ⟨before, after, rfl, _⟩ := List.lookup_eq_some_iff.mp found
    exact canonical.values (name, value) (by simp)

theorem readObject_outcome (forward : Forward read) (sound : Sound readDouble good levels read) {text : Bytes}
    (decodes : Decodes good text) :
    Outcome (MembersCanonical readDouble good levels) levels text (readObject read text) := by
  have named {s : ObjectState} {name : Bytes} {reading : Reading Value} (decodes : Decodes good s.text)
      (canonical : MembersCanonical readDouble good levels s.members) (read_ : MemberRead read s name reading) :
      good name ∧ Outcome (Canonical readDouble good levels) levels s.text reading := by
    obtain ⟨⟨chars, within, decoded⟩, text, suffix, rfl⟩ := read_
    exact ⟨decodes chars name within decoded,
      (sound text _ (decodes.behind suffix) (canonical.slot name)).behind suffix⟩
  refine loop_induction (memberTurn_shrinks forward)
    (motive := fun s result => Decodes good s.text → MembersCanonical readDouble good levels s.members →
      Outcome _ levels s.text result)
    ?_ ?_ { text } decodes ⟨.nil, by simp, by simp⟩
  · intro s result ends decodes canonical
    rcases memberTurn_ends ends with ⟨_, rfl, _⟩ | ⟨name, what, read_, rfl⟩ | ⟨name, value, _, _, read_, rfl, _⟩
    · exact canonical
    · exact (named decodes canonical read_).2
    · obtain ⟨good_, value_⟩ := named decodes canonical read_
      exact canonical.insert good_ value_
  · intro s s' result goesOn ih decodes canonical
    obtain ⟨value, rest, read_, members, suffix⟩ := memberTurn_goesOn goesOn
    obtain ⟨good_, value_⟩ := named decodes canonical read_
    obtain ⟨text, suffix', valued⟩ := read_.valued
    have behind := suffix.trans ((forward valued).1.trans suffix')
    exact (ih (decodes.behind behind) (members ▸ canonical.insert good_ value_)).behind behind

theorem readValue_sound (levels : Nat) : Sound readDouble good levels (readValue readDouble levels) := by
  induction levels with
  | zero => exact fun text slot _ _ => ⟨rfl, Nat.zero_le _⟩
  | succ levels ih =>
    intro text slot decodes canonical
    have forward : Forward (readValue readDouble levels) := readValue_forward readDouble levels
    have token := skipCommentTokens_of text
    simp only [readValue]
    split
    · rename_i type
      have outcome := readObject_outcome forward ih (decodes.behind token.suffix)
      have opens := token.opens (.inl type)
      cases read_ : readObject (readValue readDouble levels) (skipCommentTokens text).rest with
      | error what =>
        rw [read_] at outcome
        exact ⟨outcome.1, Nat.lt_of_le_of_lt outcome.2 opens⟩
      | ok left =>
        rw [read_] at outcome
        exact .object outcome.sorted outcome.names outcome.values
    · rename_i type
      have outcome := readArray_outcome forward ih (decodes.behind token.suffix)
      have opens := token.opens (.inr type)
      cases read_ : readArray (readValue readDouble levels) (skipCommentTokens text).rest with
      | error what =>
        rw [read_] at outcome
        exact ⟨outcome.1, Nat.lt_of_le_of_lt outcome.2 opens⟩
      | ok left =>
        rw [read_] at outcome
        exact .array outcome
    · split
      · rename_i decoded
        exact decodeNumber_canonical decoded
      · exact canonical (Nat.succ_pos levels)
    · split
      · rename_i decoded
        exact .string (decodes _ _ token.within decoded)
      · exact canonical (Nat.succ_pos levels)
    · exact .boolean
    · exact .boolean
    · exact .null
    · exact canonical (Nat.succ_pos levels)

end Values

/-- Whatever a document is, the value that the reader leaves for it is canonical, also if the reading fails;
and it throws only if the document opens a thousand arrays and objects. -/
theorem parse_outcome (readDouble : ReadDouble) {good : Bytes → Prop} {document : Bytes}
    (decodes : Decodes good document) :
    match parse readDouble document .null with
    | .error what => what = exceededStackLimit ∧ stackLimit ≤ openings document
    | .ok (value, _) => Canonical readDouble good stackLimit value := by
  have sound : Sound readDouble good stackLimit (readValue readDouble stackLimit) := readValue_sound stackLimit
  have outcome := sound document .null decodes canonical_null
  unfold parse
  cases read_ : readValue readDouble stackLimit document .null with
  | error what =>
    rw [read_] at outcome
    exact outcome
  | ok left =>
    rw [read_] at outcome
    exact outcome

/-! ### The stack limit -/

theorem skipSpaces_replicate {rest : Bytes} (open_ : (skipSpaces rest).head? ≠ some 93) (levels : Nat) :
    (skipSpaces (List.replicate levels 91 ++ rest)).head? ≠ some 93 := by
  cases levels with
  | zero => exact open_
  | succ levels =>
    rw [List.replicate_succ, List.cons_append, skipSpaces, List.dropWhile_cons_of_neg (by decide), List.head?_cons]
    decide

/-- Arrays that are opened as deep as there are levels throw. -/
theorem readValue_deep (readDouble : ReadDouble) {rest : Bytes} (open_ : (skipSpaces rest).head? ≠ some 93)
    (levels : Nat) (slot : Value) :
    readValue readDouble levels (List.replicate levels 91 ++ rest) slot = .error exceededStackLimit := by
  induction levels generalizing slot with
  | zero => rfl
  | succ levels ih =>
    have at_ : readToken (List.replicate (levels + 1) 91 ++ rest) =
        { type := .arrayBegin, rest := List.replicate levels 91 ++ rest } := rfl
    have token : skipCommentTokens (List.replicate (levels + 1) 91 ++ rest) =
        { type := .arrayBegin, rest := List.replicate levels 91 ++ rest } := by
      apply loop_ends commentTurn_shrinks
      rw [commentTurn, at_, if_neg (by simp)]
    have thrown : elementTurn (readValue readDouble levels) ([], List.replicate levels 91 ++ rest) =
        .inr (.error exceededStackLimit) := by
      simp only [elementTurn, ih]
    have elements : readArray (readValue readDouble levels) (List.replicate levels 91 ++ rest) =
        .error exceededStackLimit := by
      rw [readArray, if_neg (skipSpaces_replicate open_ levels)]
      exact loop_ends (elementTurn_shrinks (readValue_forward readDouble levels)) thrown
    rw [readValue]
    simp only [token, elements]
    rfl

/-- Whatever a document is, the value that the reader leaves for it is canonical, also if it refuses the
document: nested no deeper than the stack limit, with its members in order, and no string of it is longer
than the document. The reader throws only for a document that opens as many arrays and objects as the limit
allows, and it does for one that starts by opening so many arrays. -/
theorem parse_leaves (readDouble : ReadDouble) :
    (∀ document, match parse readDouble document .null with
      | .error what => what = exceededStackLimit ∧ stackLimit ≤ openings document
      | .ok (value, _) => Canonical readDouble (fun text => text.length ≤ document.length) stackLimit value) ∧
    ∀ rest, (skipSpaces rest).head? ≠ some 93 →
      parse readDouble (List.replicate stackLimit 91 ++ rest) .null = .error exceededStackLimit := by
  constructor
  · intro document
    exact parse_outcome readDouble fun chars out within decoded =>
      (decodeString_length decoded).trans within.length_le
  · intro rest open_
    rw [parse, readValue_deep readDouble open_]
    rfl

end MessageRepeater.Json
