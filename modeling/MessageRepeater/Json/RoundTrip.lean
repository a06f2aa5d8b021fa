import MessageRepeater.Json.WrittenTokens

/-!
# Documents, written and read back

A value that the reader can leave, its strings portable, is read back from what the writer makes of it,
wherever it stands and whatever has been in its slot.
-/

namespace MessageRepeater.Json
open Foundation

/-! ### Values behind white space -/

theorem readValue_blank (readDouble : ReadDouble) (levels : Nat) {spaces : Bytes} (blank : Blank spaces)
    (text : Bytes) (slot : Value) :
    readValue readDouble levels (spaces ++ text) slot = readValue readDouble levels text slot := by
  cases levels with
  | zero => rfl
  | succ levels => simp only [readValue, skipCommentTokens_blank blank]

/-- A text that a value is read from does not go on with the end of an array. -/
theorem readValue_not_arrayEnd {readDouble : ReadDouble} {levels : Nat} {text rest : Bytes} {slot value : Value}
    (read_ : readValue readDouble levels text slot = .ok (value, some rest)) :
    (skipSpaces text).head? ≠ some 93 := by
  intro bracket
  cases levels with
  | zero => cases read_
  | succ levels =>
    have token : skipCommentTokens text = { type := .arrayEnd, rest := (skipSpaces text).tail } := by
      have at_ : readToken text = { type := .arrayEnd, rest := (skipSpaces text).tail } := by
        unfold readToken
        split
        · rename_i empty
          rw [empty] at bracket
          cases bracket
        · rename_i c after same
          rw [same] at bracket ⊢
          obtain rfl := Option.some.inj bracket
          rfl
      rw [skipCommentTokens_eq, at_, if_neg (by simp)]
    simp only [readValue, token] at read_
    cases read_

/-! ### The loops over what has been written -/

/-- A text of a value is read, whatever was in the slot, if the writer goes on behind it. -/
def ReadsBack (read : ReadValue) (text : Bytes) (value : Value) : Prop :=
  ∀ tail slot, Stops tail → read (text ++ tail) slot = .ok (value, some tail)

theorem stops_separator (rest : Bytes) : Stops (44 :: rest) := fun _ head => .inl (Option.some.inj head).symm

theorem stops_newline (rest : Bytes) : Stops (10 :: rest) := fun _ head => .inr (Option.some.inj head).symm

theorem blank_newline {indentString : Bytes} (blank : Blank indentString) : Blank (10 :: indentString) := by
  intro c member
  rcases List.mem_cons.mp member with rfl | member
  · rfl
  · exact blank c member

section Loops
variable {read : ReadValue} {indentString indentString' : Bytes}

theorem elementTurn_separator {elements : List Value} {text rest : Bytes} {value : Value}
    (read_ : read text .null = .ok (value, some (44 :: rest))) :
    elementTurn read (elements, text) = .inl (elements ++ [value], rest) := by
  have token : skipCommentTokens (44 :: rest) = { type := .arraySeparator, rest } :=
    skipCommentTokens_at rfl rfl (by simp)
  simp [elementTurn, read_, token]

theorem elementTurn_end {elements : List Value} {text tail : Bytes} {value : Value} (blank : Blank indentString)
    (read_ : read text .null = .ok (value, some (10 :: indentString ++ 93 :: tail))) :
    elementTurn read (elements, text) = .inr (.ok (elements ++ [value], some tail)) := by
  have token : skipCommentTokens (93 :: tail) = { type := .arrayEnd, rest := tail } :=
    skipCommentTokens_at rfl rfl (by simp)
  rw [← skipCommentTokens_blank (blank_newline blank)] at token
  simp only [elementTurn, read_, token]
  rfl

/-- The loop over written elements, behind those that have been read. -/
theorem loop_elements (forward : Forward read)
    (skips : ∀ {spaces}, Blank spaces → ∀ text slot, read (spaces ++ text) slot = read text slot)
    (blank : Blank indentString) (blank' : Blank indentString') (tail : Bytes) {elements : List Value}
    (nonempty : elements ≠ [])
    (back : ∀ element ∈ elements, ReadsBack read (writeValue indentString true element) element)
    (before : List Value) :
    loop (fun s => s.2.length) (elementTurn read)
        (before, writeElements indentString elements ++ (10 :: indentString' ++ 93 :: tail)) =
      .ok (before ++ elements, some tail) := by
  induction elements generalizing before with
  | nil => exact absurd rfl nonempty
  | cons element elements ih =>
    obtain ⟨first, later⟩ := List.forall_mem_cons.mp back
    by_cases last : elements = []
    · subst last
      have read_ := first (10 :: indentString' ++ 93 :: tail) .null (stops_newline _)
      rw [← skips (blank_newline blank)] at read_
      apply loop_ends (elementTurn_shrinks forward)
      apply elementTurn_end blank'
      simpa [writeElements, writeWithIndent] using read_
    · have read_ := first (44 :: (writeElements indentString elements ++ (10 :: indentString' ++ 93 :: tail))) .null
        (stops_separator _)
      rw [← skips (blank_newline blank)] at read_
      rw [loop_goesOn (elementTurn_shrinks forward) (t := (before ++ [element], _)) (elementTurn_separator _)]
      · rw [ih last later, List.append_assoc]
        rfl
      · simpa [writeElements, writeWithIndent, last] using read_

theorem readArray_back (forward : Forward read)
    (skips : ∀ {spaces}, Blank spaces → ∀ text slot, read (spaces ++ text) slot = read text slot)
    (proper : ∀ {text slot value rest}, read text slot = .ok (value, some rest) →
      (skipSpaces text).head? ≠ some 93)
    (blank : Blank indentString) (blank' : Blank indentString') (tail : Bytes) {elements : List Value}
    (nonempty : elements ≠ [])
    (back : ∀ element ∈ elements, ReadsBack read (writeValue indentString true element) element) :
    readArray read (writeElements indentString elements ++ (10 :: indentString' ++ 93 :: tail)) =
      .ok (elements, some tail) := by
  have first : (skipSpaces (writeElements indentString elements ++
      (10 :: indentString' ++ 93 :: tail))).head? ≠ some 93 := by
    obtain ⟨element, rest, rfl⟩ := List.exists_cons_of_ne_nil nonempty
    have read_ := back element List.mem_cons_self ((if rest.isEmpty then [] else [44]) ++
      writeElements indentString rest ++ (10 :: indentString' ++ 93 :: tail)) .null (by
        cases rest with
        | nil => exact stops_newline _
        | cons => exact stops_separator _)
    rw [← skips (blank_newline blank)] at read_
    have head := proper read_
    simpa [writeElements, writeWithIndent] using head
  rw [readArray, if_neg first]
  exact loop_elements forward skips blank blank' tail nonempty back []

/-! ### The members of an object -/

theorem insertMember_last {name : Bytes} {value : Value} {members : List (Bytes × Value)}
    (behind : ∀ member ∈ members, member.1 < name) :
    insertMember name value members = members ++ [(name, value)] := by
  induction members with
  | nil => rfl
  | cons first rest ih =>
    obtain ⟨below, later⟩ := List.forall_mem_cons.mp behind
    have other : name ≠ first.1 := by
      rintro rfl
      exact List.lt_irrefl _ below
    have after : ¬ name < first.1 := fun before => List.lt_irrefl _ (List.lt_trans before below)
    rw [insertMember, if_neg other, if_neg after, ih later]
    rfl

theorem lookup_behind {name : Bytes} {members : List (Bytes × Value)}
    (behind : ∀ member ∈ members, member.1 < name) : members.lookup name = none := by
  rw [List.lookup_eq_none_iff]
  intro member mem
  rw [bne_iff_ne]
  rintro rfl
  exact List.lt_irrefl _ (behind member mem)

theorem tokenAt_quoted (value rest : Bytes) :
    tokenAt 34 (quoteChars value ++ 34 :: rest) =
      { type := .string, text := quoteChars value, rest } := by
  have found := readString_quoteChars value rest
  unfold tokenAt
  simp [found]

theorem name_behind {before members : List (Bytes × Value)} {name : Bytes} {value : Value}
    (sorted : ((before ++ (name, value) :: members).map Prod.fst).Pairwise (· < ·)) :
    ∀ member ∈ before, member.1 < name := by
  intro member mem
  rw [List.map_append, List.pairwise_append] at sorted
  exact sorted.2.2 member.1 (List.mem_map_of_mem mem) name (by simp)

/-- A member as it is written, up to the separator. -/
theorem memberTurn_written {members : List (Bytes × Value)} (before : Bytes) {name text tail : Bytes}
    {value : Value}
    (skips : ∀ {spaces}, Blank spaces → ∀ text slot, read (spaces ++ text) slot = read text slot)
    (blank : Blank indentString) (decoded : decodeString (quoteChars name) = some name)
    (behind : ∀ member ∈ members, member.1 < name)
    (read_ : read (text ++ tail) .null = .ok (value, some tail)) :
    let s : ObjectState :=
      { members, name := before
        text := 10 :: indentString ++ valueToQuotedStringN name ++ ascii " : " ++ text ++ tail }
    let comma := readToken tail
    (comma.type = .objectEnd →
      memberTurn read s = .inr (.ok (members ++ [(name, value)], some comma.rest))) ∧
    (comma.type = .arraySeparator →
      memberTurn read s = .inl { members := members ++ [(name, value)], name, text := comma.rest }) := by
  intro s comma
  have start : s.text =
      (10 :: indentString) ++ 34 :: (quoteChars name ++ 34 :: (32 :: 58 :: 32 :: (text ++ tail))) := by
    show 10 :: indentString ++ valueToQuotedStringN name ++ ascii " : " ++ text ++ tail = _
    simp [valueToQuotedStringN, ascii]
  have tokenName : skipCommentTokens s.text =
      { type := .string, text := quoteChars name, rest := 32 :: 58 :: 32 :: (text ++ tail) } := by
    rw [start, skipCommentTokens_blank (blank_newline blank)]
    exact skipCommentTokens_at rfl (tokenAt_quoted name _) (by simp)
  have space : Blank [32] := by
    intro c member
    rw [List.mem_singleton.mp member]
    rfl
  have colon : readToken (32 :: 58 :: 32 :: (text ++ tail)) =
      { type := .memberSeparator, rest := 32 :: (text ++ tail) } := rfl
  have slot : (s.members.lookup name).getD .null = .null := by
    rw [show s.members.lookup name = none from lookup_behind behind, Option.getD_none]
  have valued : read (32 :: (text ++ tail)) .null = .ok (value, some tail) := (skips space _ _).trans read_
  have inserted : insertMember name value s.members = members ++ [(name, value)] := insertMember_last behind
  constructor
  all_goals
    intro type
    simp [memberTurn, tokenName, decoded, colon, slot, valued, inserted, show (readToken tail).type = _ from type,
      comma]

theorem readObject_back (forward : Forward read)
    (skips : ∀ {spaces}, Blank spaces → ∀ text slot, read (spaces ++ text) slot = read text slot)
    (blank : Blank indentString) (blank' : Blank indentString') (tail : Bytes) {members : List (Bytes × Value)}
    (nonempty : members ≠ [])
    (back : ∀ member ∈ members, decodeString (quoteChars member.1) = some member.1 ∧
      ReadsBack read (writeValue indentString false member.2) member.2)
    (before : List (Bytes × Value)) (name : Bytes)
    (sorted : ((before ++ members).map Prod.fst).Pairwise (· < ·)) :
    loop (fun s => s.text.length) (memberTurn read)
        { members := before, name
          text := writeMembers indentString members ++ (10 :: indentString' ++ 125 :: tail) } =
      .ok (before ++ members, some tail) := by
  induction members generalizing before name with
  | nil => exact absurd rfl nonempty
  | cons member members ih =>
    obtain ⟨key, value⟩ := member
    obtain ⟨⟨decoded, first⟩, later⟩ := List.forall_mem_cons.mp back
    have behind := name_behind sorted
    by_cases last : members = []
    · subst last
      have closing : readToken (10 :: indentString' ++ 125 :: tail) = { type := .objectEnd, rest := tail } := by
        rw [readToken_blank (blank_newline blank')]
        rfl
      have turn := (memberTurn_written name skips blank decoded behind
        (first (10 :: indentString' ++ 125 :: tail) .null (stops_newline _))).1 (by rw [closing])
      apply loop_ends (memberTurn_shrinks forward)
      rw [closing] at turn
      simpa [writeMembers, writeWithIndent] using turn
    · have turn := (memberTurn_written name skips blank decoded behind
        (first (44 :: (writeMembers indentString members ++ (10 :: indentString' ++ 125 :: tail))) .null
          (stops_separator _))).2 rfl
      rw [loop_goesOn (memberTurn_shrinks forward)
        (t := { members := before ++ [(key, value)], name := key, text := _ })
        (by simpa [writeMembers, writeWithIndent, last] using turn)]
      have rest := ih last later (before ++ [(key, value)]) key (by simpa using sorted)
      rw [List.append_assoc] at rest
      exact rest

/-- The loop over written members with a separator behind them goes on behind the separator. -/
theorem loop_members_cut (forward : Forward read)
    (skips : ∀ {spaces}, Blank spaces → ∀ text slot, read (spaces ++ text) slot = read text slot)
    (blank : Blank indentString) (tail : Bytes) {members : List (Bytes × Value)} (nonempty : members ≠ [])
    (back : ∀ member ∈ members, decodeString (quoteChars member.1) = some member.1 ∧
      ReadsBack read (writeValue indentString false member.2) member.2)
    (before : List (Bytes × Value)) (name : Bytes)
    (sorted : ((before ++ members).map Prod.fst).Pairwise (· < ·)) :
    ∃ last, loop (fun s => s.text.length) (memberTurn read)
        { members := before, name, text := writeMembers indentString members ++ 44 :: tail } =
      loop (fun s => s.text.length) (memberTurn read)
        { members := before ++ members, name := last, text := tail } := by
  have shrinks : Shrinks _ (memberTurn read) := memberTurn_shrinks forward
  induction members generalizing before name with
  | nil => exact absurd rfl nonempty
  | cons member members ih =>
    obtain ⟨key, value⟩ := member
    obtain ⟨⟨decoded, first⟩, later⟩ := List.forall_mem_cons.mp back
    have behind := name_behind sorted
    by_cases last : members = []
    · subst last
      have turn := (memberTurn_written name skips blank decoded behind
        (first (44 :: tail) .null (stops_separator _))).2 rfl
      have comma : (readToken (44 :: tail)).rest = tail := rfl
      rw [comma] at turn
      refine ⟨key, loop_goesOn shrinks ?_⟩
      simpa [writeMembers, writeWithIndent] using turn
    · have turn := (memberTurn_written name skips blank decoded behind
        (first (44 :: (writeMembers indentString members ++ 44 :: tail)) .null (stops_separator _))).2 rfl
      rw [loop_goesOn shrinks
        (t := { members := before ++ [(key, value)], name := key, text := _ })
        (by simpa [writeMembers, writeWithIndent, last] using turn)]
      have rest := ih last later (before ++ [(key, value)]) key (by simpa using sorted)
      rwa [List.append_assoc] at rest

end Loops

/-! ### Values -/

theorem blank_indent {indentString : Bytes} (blank : Blank indentString) : Blank (indent indentString) := by
  intro c member
  rcases List.mem_append.mp member with member | member
  · exact blank c member
  · rw [List.mem_singleton.mp member]
    rfl

/-- The bracket that opens an array or an object, on the line or on one of its own. -/
theorem writeWithIndent_blank {indentString : Bytes} (blank : Blank indentString) (indented : Bool)
    (text : Bytes) :
    ∃ spaces, Blank spaces ∧ writeWithIndent indentString indented text = spaces ++ text := by
  cases indented with
  | false => exact ⟨10 :: indentString, blank_newline blank, rfl⟩
  | true => exact ⟨[], fun c member => absurd member List.not_mem_nil, rfl⟩

theorem readValue_number {readDouble : ReadDouble} {levels : Nat} {text tail : Bytes} {slot value : Value}
    (number : NumberText text) (decoded : decodeNumber readDouble text = some value) (stops : Stops tail) :
    readValue readDouble (levels + 1) (text ++ tail) slot = .ok (value, some tail) := by
  simp only [readValue, skipCommentTokens_number number stops, decoded]

theorem readValue_back {readDouble doubles : ReadDouble} (rereads : RereadsDoubles readDouble doubles)
    {levels : Nat} {value : Value} (canonical : Canonical doubles (Utf8 Portable) levels value)
    {indentString : Bytes} (blank : Blank indentString) (indented : Bool) :
    ReadsBack (readValue readDouble levels) (writeValue indentString indented value) value := by
  induction canonical generalizing indentString indented with
  | @null levels =>
    intro tail slot _
    have token : skipCommentTokens (ascii "null" ++ tail) = { type := .null, rest := tail } :=
      skipCommentTokens_at rfl rfl (by simp)
    simp only [readValue, writeValue, token]
  | int low high =>
    intro tail slot stops
    rw [writeValue]
    exact readValue_number (numberText_int _) (decodeNumber_int readDouble low high) stops
  | uint low high =>
    intro tail slot stops
    rw [writeValue]
    exact readValue_number (numberText_nat _) (decodeNumber_uint readDouble low high) stops
  | real read_ =>
    intro tail slot stops
    rw [writeValue]
    exact readValue_number (rereads.number read_) (decodeNumber_real rereads read_) stops
  | @string levels text good =>
    intro tail slot _
    have token : skipCommentTokens (valueToQuotedStringN text ++ tail) =
        { type := .string, text := quoteChars text, rest := tail } := by
      rw [show valueToQuotedStringN text ++ tail = 34 :: (quoteChars text ++ 34 :: tail) by
        simp [valueToQuotedStringN]]
      exact skipCommentTokens_at rfl (tokenAt_quoted text tail) (by simp)
    simp only [readValue, writeValue, token, decode_quoteChars good]
  | @boolean levels value =>
    intro tail slot _
    cases value with
    | false =>
      have token : skipCommentTokens (ascii "false" ++ tail) = { type := .false, rest := tail } :=
        skipCommentTokens_at rfl rfl (by simp)
      simp only [readValue, writeValue, Bool.false_eq_true, if_false, token]
    | true =>
      have token : skipCommentTokens (ascii "true" ++ tail) = { type := .true, rest := tail } :=
        skipCommentTokens_at rfl rfl (by simp)
      simp only [readValue, writeValue, if_true, token]
  | @array levels elements _ ih =>
    intro tail slot _
    by_cases empty : elements = []
    · subst empty
      have token : skipCommentTokens (91 :: 93 :: tail) = { type := .arrayBegin, rest := 93 :: tail } :=
        skipCommentTokens_at rfl rfl (by simp)
      have text : writeValue indentString indented (.array []) ++ tail = 91 :: 93 :: tail := rfl
      rw [text]
      simp only [readValue, token]
      rfl
    · obtain ⟨spaces, skipped, opening⟩ := writeWithIndent_blank blank indented [91]
      have token : skipCommentTokens (91 :: (writeElements (indent indentString) elements ++
          (10 :: indentString ++ 93 :: tail))) =
          { type := .arrayBegin, rest := writeElements (indent indentString) elements ++
            (10 :: indentString ++ 93 :: tail) } := skipCommentTokens_at rfl rfl (by simp)
      have text : writeValue indentString indented (.array elements) ++ tail =
          spaces ++ 91 :: (writeElements (indent indentString) elements ++
            (10 :: indentString ++ 93 :: tail)) := by
        have closing : writeWithIndent indentString false [93] = 10 :: indentString ++ [93] := rfl
        simp [writeValue, opening, closing, empty]
      have elements_ := readArray_back (readValue_forward readDouble levels)
        (readValue_blank readDouble levels) readValue_not_arrayEnd (blank_indent blank) blank tail empty
        fun element member => ih element member (blank_indent blank) true
      rw [text, readValue_blank readDouble _ skipped]
      simp only [readValue, token, elements_]
      rfl
  | @object levels members sorted names _ ih =>
    intro tail slot _
    by_cases empty : members = []
    · subst empty
      have token : skipCommentTokens (123 :: 125 :: tail) = { type := .objectBegin, rest := 125 :: tail } :=
        skipCommentTokens_at rfl rfl (by simp)
      have text : writeValue indentString indented (.object []) ++ tail = 123 :: 125 :: tail := rfl
      have closing : readObject (readValue readDouble levels) (125 :: tail) = .ok ([], some tail) := by
        have brace : skipCommentTokens (125 :: tail) = { type := .objectEnd, rest := tail } :=
          skipCommentTokens_at rfl rfl (by simp)
        apply loop_ends (memberTurn_shrinks (readValue_forward readDouble levels))
        simp [memberTurn, brace]
      rw [text]
      simp only [readValue, token, closing]
      rfl
    · obtain ⟨spaces, skipped, opening⟩ := writeWithIndent_blank blank indented [123]
      have token : skipCommentTokens (123 :: (writeMembers (indent indentString) members ++
          (10 :: indentString ++ 125 :: tail))) =
          { type := .objectBegin, rest := writeMembers (indent indentString) members ++
            (10 :: indentString ++ 125 :: tail) } := skipCommentTokens_at rfl rfl (by simp)
      have text : writeValue indentString indented (.object members) ++ tail =
          spaces ++ 123 :: (writeMembers (indent indentString) members ++
            (10 :: indentString ++ 125 :: tail)) := by
        have closing : writeWithIndent indentString false [125] = 10 :: indentString ++ [125] := rfl
        simp [writeValue, opening, closing, empty]
      have members_ := readObject_back (readValue_forward readDouble levels)
        (readValue_blank readDouble levels) (blank_indent blank) blank tail empty
        (fun member mem => ⟨decode_quoteChars (names member mem), ih member mem (blank_indent blank) false⟩)
        [] [] sorted
      rw [text, readValue_blank readDouble _ skipped]
      simp only [readValue, token, readObject, members_]
      rfl

/-- A value that the reader can leave is read back from the document that the writer makes of it, whatever
was in the root. -/
theorem parse_writeString {readDouble doubles : ReadDouble} (rereads : RereadsDoubles readDouble doubles)
    {value : Value} (canonical : Canonical doubles (Utf8 Portable) stackLimit value) (root : Value) :
    parse readDouble (writeString value) root = .ok (value, true) := by
  have unindented : Blank [] := fun c member => absurd member List.not_mem_nil
  have back := readValue_back rereads canonical unindented true [] root (fun c head => by cases head)
  rw [List.append_nil] at back
  rw [parse, writeString, back]
  rfl

/-! ### What is written holds no NUL -/

theorem mem_dropWhile {p : UInt8 → Bool} {c : UInt8} {text : Bytes} (kept : p c = false) (member : c ∈ text) :
    c ∈ text.dropWhile p := by
  rw [← List.takeWhile_append_dropWhile (p := p) (l := text)] at member
  apply (List.mem_append.mp member).resolve_left
  intro dropped
  exact absurd (List.mem_takeWhile_imp dropped) (by simp [kept])

theorem mem_tail {c d : UInt8} {text : Bytes} (head : text.head? = some d) (other : c ≠ d) (member : c ∈ text) :
    c ∈ text.tail := by
  cases text with
  | nil => cases member
  | cons first rest =>
    obtain rfl := Option.some.inj head
    exact (List.mem_cons.mp member).resolve_left other

theorem readNumber_zero {text : Bytes} (zero : (0 : UInt8) ∈ text) : (0 : UInt8) ∈ readNumber text := by
  have digits {text : Bytes} (zero : (0 : UInt8) ∈ text) : (0 : UInt8) ∈ text.dropWhile isDigit :=
    mem_dropWhile (by decide) zero
  have fraction {text : Bytes} (zero : (0 : UInt8) ∈ text) : (0 : UInt8) ∈ skipFraction text := by
    unfold skipFraction
    split
    · rename_i dot
      exact digits (mem_tail dot (by decide) zero)
    · exact zero
  have sign {text : Bytes} (zero : (0 : UInt8) ∈ text) : (0 : UInt8) ∈ skipSign text := by
    unfold skipSign
    split
    · rename_i signed
      rcases signed with plus | minus
      · exact mem_tail plus (by decide) zero
      · exact mem_tail minus (by decide) zero
    · exact zero
  unfold readNumber skipExponent
  split
  · rename_i exponent
    rcases exponent with small | capital
    · exact digits (sign (mem_tail small (by decide) (fraction (digits zero))))
    · exact digits (sign (mem_tail capital (by decide) (fraction (digits zero))))
  · exact fraction (digits zero)

theorem NumberText.nonzero {text : Bytes} (number : NumberText text) : (0 : UInt8) ∉ text := by
  obtain ⟨c, rest, rfl, numeric, whole⟩ := number
  rintro (_ | zero)
  · revert numeric
    decide
  · have left := readNumber_zero ‹_›
    rw [whole] at left
    cases left

theorem valueToQuotedStringN_nonzero (value : Bytes) : (0 : UInt8) ∉ valueToQuotedStringN value := by
  intro zero
  simp only [valueToQuotedStringN, List.cons_append, List.mem_cons, List.mem_append, List.not_mem_nil,
    or_false] at zero
  rcases zero with zero | zero | zero
  · cases zero
  · exact absurd ((quoteChars_closed value).2 0 zero).1 (by decide)
  · cases zero

section Nonzero
variable {indentString : Bytes}

theorem writeWithIndent_nonzero (nonzero : (0 : UInt8) ∉ indentString) {indented : Bool} {text : Bytes}
    (written : (0 : UInt8) ∉ text) : (0 : UInt8) ∉ writeWithIndent indentString indented text := by
  cases indented <;> simp [writeWithIndent, nonzero, written]

theorem writeElements_nonzero (nonzero : (0 : UInt8) ∉ indentString) {elements : List Value}
    (all : ∀ element ∈ elements, (0 : UInt8) ∉ writeValue indentString true element) :
    (0 : UInt8) ∉ writeElements indentString elements := by
  induction elements with
  | nil => exact List.not_mem_nil
  | cons element elements ih =>
    obtain ⟨first, later⟩ := List.forall_mem_cons.mp all
    have comma : (0 : UInt8) ∉ (if elements.isEmpty then [] else [(44 : UInt8)]) := by
      split <;> decide
    simp only [writeElements, List.mem_append, not_or]
    exact ⟨⟨⟨writeWithIndent_nonzero nonzero List.not_mem_nil, first⟩, comma⟩, ih later⟩

theorem writeMembers_nonzero (nonzero : (0 : UInt8) ∉ indentString) {members : List (Bytes × Value)}
    (all : ∀ member ∈ members, (0 : UInt8) ∉ writeValue indentString false member.2) :
    (0 : UInt8) ∉ writeMembers indentString members := by
  induction members with
  | nil => exact List.not_mem_nil
  | cons member members ih =>
    obtain ⟨first, later⟩ := List.forall_mem_cons.mp all
    have comma : (0 : UInt8) ∉ (if members.isEmpty then [] else [(44 : UInt8)]) := by
      split <;> decide
    simp only [writeMembers, List.mem_append, not_or]
    exact ⟨⟨⟨⟨writeWithIndent_nonzero nonzero (valueToQuotedStringN_nonzero member.1), by decide⟩, first⟩, comma⟩,
      ih later⟩

theorem indent_nonzero (nonzero : (0 : UInt8) ∉ indentString) : (0 : UInt8) ∉ indent indentString := by
  simp [indent, nonzero]

end Nonzero

/-- Whatever the strings of a value are, its text is a C string. -/
theorem writeValue_nonzero {readDouble doubles : ReadDouble} (rereads : RereadsDoubles readDouble doubles)
    {good : Bytes → Prop} {levels : Nat} {value : Value} (canonical : Canonical doubles good levels value)
    {indentString : Bytes} (nonzero : (0 : UInt8) ∉ indentString) (indented : Bool) :
    (0 : UInt8) ∉ writeValue indentString indented value := by
  induction canonical generalizing indentString indented with
  | null =>
    rw [writeValue]
    decide
  | int =>
    rw [writeValue]
    exact (numberText_int _).nonzero
  | uint =>
    rw [writeValue]
    exact (numberText_nat _).nonzero
  | real read_ =>
    rw [writeValue]
    exact (rereads.number read_).nonzero
  | string =>
    rw [writeValue]
    exact valueToQuotedStringN_nonzero _
  | boolean =>
    rw [writeValue]
    split <;> decide
  | array _ ih =>
    rw [writeValue]
    split
    · decide
    · have elements := writeElements_nonzero (indent_nonzero nonzero)
        fun element member => ih element member (indent_nonzero nonzero) true
      simp only [List.mem_append, not_or]
      exact ⟨⟨writeWithIndent_nonzero nonzero (by decide), elements⟩, writeWithIndent_nonzero nonzero (by decide)⟩
  | object _ _ _ ih =>
    rw [writeValue]
    split
    · decide
    · have members := writeMembers_nonzero (indent_nonzero nonzero)
        fun member mem => ih member mem (indent_nonzero nonzero) false
      simp only [List.mem_append, not_or]
      exact ⟨⟨writeWithIndent_nonzero nonzero (by decide), members⟩, writeWithIndent_nonzero nonzero (by decide)⟩

/-! ### Which values come back -/

/-- All strings of a value and the names of its members are good. -/
inductive StringsOf (good : Bytes → Prop) : Value → Prop
  | null : StringsOf good .null
  | int {value} : StringsOf good (.int value)
  | uint {value} : StringsOf good (.uint value)
  | real {value text} : StringsOf good (.real value text)
  | string {text} : good text → StringsOf good (.string text)
  | boolean {value} : StringsOf good (.boolean value)
  | array {elements} : (∀ element ∈ elements, StringsOf good element) → StringsOf good (.array elements)
  | object {members : List (Bytes × Value)} : (∀ member ∈ members, good member.1) →
      (∀ member ∈ members, StringsOf good member.2) → StringsOf good (.object members)

theorem Canonical.strings {readDouble : ReadDouble} {good good' : Bytes → Prop} {levels : Nat} {value : Value}
    (canonical : Canonical readDouble good levels value) (strings : StringsOf good' value) :
    Canonical readDouble good' levels value := by
  induction canonical with
  | null => exact .null
  | int low high => exact .int low high
  | uint low high => exact .uint low high
  | real read_ => exact .real read_
  | string =>
    cases strings with
    | string good_ => exact .string good_
  | boolean => exact .boolean
  | array _ ih =>
    cases strings with
    | array all => exact .array fun element member => ih element member (all element member)
  | object sorted _ _ ih =>
    cases strings with
    | object names all => exact .object sorted names fun member mem => ih member mem (all member mem)

/-- Whatever the reader has left of a document without comments, also of one that it refuses, is written and
read back unchanged if its strings are portable. No comment is met anywhere in such a document, so the value
has none that would be written with it. -/
theorem rewritten {readDouble : ReadDouble} (rereads : RereadsDoubles readDouble readDouble) {document : Bytes}
    (uncommented : ¬ Commented document) {value : Value} {successful : Bool}
    (left : parse readDouble document .null = .ok (value, successful))
    (strings : StringsOf (Utf8 Portable) value) (root : Value) :
    (∀ rest, rest <:+ document → (readToken rest).type ≠ .comment) ∧
      parse readDouble (writeString value) root = .ok (value, true) := by
  constructor
  · intro rest behind comment
    exact uncommented (((readToken_of rest).behind behind).comment comment)
  · have decodes : Decodes (fun _ => True) document := fun _ _ _ _ => trivial
    have outcome := parse_outcome readDouble decodes
    rw [left] at outcome
    exact parse_writeString rereads (outcome.strings strings) root

/-- A reader of doubles, as far as the document below needs it. -/
def readHalf : ReadDouble := fun text =>
  if text = ascii "0.50" ∨ text = ascii "0.5" then some (some (1 / 2), ascii "0.5") else none

theorem readHalf_rereads : RereadsDoubles readHalf readHalf := by
  have half {source text : Bytes} {value : Option Rat} (read : readHalf source = some (value, text)) :
      value = some (1 / 2) ∧ text = ascii "0.5" := by
    unfold readHalf at read
    split at read <;> cases read
    exact ⟨rfl, rfl⟩
  refine ⟨fun read => ?_, fun read => ?_, fun read => ?_⟩
  · obtain ⟨_, rfl⟩ := half read
    exact ⟨48, [46, 53], by decide, by decide, by decide⟩
  · obtain ⟨_, rfl⟩ := half read
    decide
  · obtain ⟨rfl, rfl⟩ := half read
    decide +kernel

/-- A document with an escape that the writer does not use, and a double that it writes shorter. -/
theorem rewritten_half :
    parse readHalf (writeString (.array [.string (ascii "T"), .real (some (1 / 2)) (ascii "0.5")])) .null =
      .ok (.array [.string (ascii "T"), .real (some (1 / 2)) (ascii "0.5")], true) := by
  obtain ⟨levels, limit⟩ : ∃ levels, stackLimit = levels + 2 := Nat.exists_eq_add_of_le' (by decide)
  have shrinks : Shrinks _ (elementTurn (readValue readHalf (levels + 1))) :=
    elementTurn_shrinks (readValue_forward readHalf (levels + 1))
  have opening : skipCommentTokens (ascii "[\"\\u0054\",0.50]") =
      { type := .arrayBegin, rest := ascii "\"\\u0054\",0.50]" } := by decide +kernel
  have token : skipCommentTokens (ascii "\"\\u0054\",0.50]") =
      { type := .string, text := ascii "\\u0054", rest := ascii ",0.50]" } := by decide +kernel
  have separator : skipCommentTokens (ascii ",0.50]") = { type := .arraySeparator, rest := ascii "0.50]" } := by
    decide +kernel
  have number : skipCommentTokens (ascii "0.50]") =
      { type := .number, text := ascii "0.50", rest := ascii "]" } := by decide +kernel
  have closing : skipCommentTokens (ascii "]") = { type := .arrayEnd, rest := [] } := by decide +kernel
  have decoded : decodeString (ascii "\\u0054") = some (ascii "T") := by decide +kernel
  have half : decodeNumber readHalf (ascii "0.50") = some (.real (some (1 / 2)) (ascii "0.5")) := rfl
  have open_ : ¬ (skipSpaces (ascii "\"\\u0054\",0.50]")).head? = some 93 := by decide +kernel
  have elements : readArray (readValue readHalf (levels + 1)) (ascii "\"\\u0054\",0.50]") =
      .ok ([.string (ascii "T"), .real (some (1 / 2)) (ascii "0.5")], some []) := by
    rw [readArray, if_neg open_, loop_goesOn shrinks (t := ([.string (ascii "T")], ascii "0.50]"))]
    · apply loop_ends shrinks
      simp [elementTurn, readValue, number, half, closing]
    · simp [elementTurn, readValue, token, decoded, separator]
  have left : parse readHalf (ascii "[\"\\u0054\",0.50]") .null =
      .ok (.array [.string (ascii "T"), .real (some (1 / 2)) (ascii "0.5")], true) := by
    rw [parse, limit, readValue]
    simp only [opening, elements]
    rfl
  refine (rewritten readHalf_rereads (by decide +kernel) left (.array ?_) .null).2
  simp only [List.forall_mem_cons]
  exact ⟨.string ⟨[84], by decide, by decide⟩, .real, by simp⟩

/-- A string document comes back exactly if its string is portable: UTF-8 without the first halves of
surrogate pairs, U+DFFF to U+FFFF other than the replacement character, and what lies beyond U+3FFFF. -/
theorem string_comes_back_iff (readDouble : ReadDouble) (text : Bytes) (root : Value) :
    parse readDouble (writeString (.string text)) root = .ok (.string text, true) ↔ Utf8 Portable text := by
  rw [← decode_quoteChars_iff]
  have document : writeString (.string text) = 34 :: (quoteChars text ++ 34 :: []) := by
    simp [writeString, writeValue, valueToQuotedStringN]
  have token : skipCommentTokens (writeString (.string text)) =
      { type := .string, text := quoteChars text, rest := [] } := by
    rw [document]
    exact skipCommentTokens_at rfl (tokenAt_quoted text []) (by simp)
  rw [parse, stackLimit, readValue]
  simp only [token]
  cases decoded : decodeString (quoteChars text) with
  | none => simp [Except.map]
  | some out => simp [Except.map]

end MessageRepeater.Json
