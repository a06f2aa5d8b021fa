import MessageRepeater.Ingress.FrameSizes
import MessageRepeater.Json.RoundTrip
import MessageRepeater.Subscriber.RequestAcceptance

/-!
# Subscribe requests as text

The texts of subscribe requests with the JSON library in its place: what `parseSubscribeTopics` makes of a
text, the body that a layer connection sends, and the one that the example client puts together itself.
-/

namespace MessageRepeater.Ingress
open Foundation Combiner Config Connection Subscriber Publisher Json

/-! ### The reader's value, as the handler goes on with it -/

mutual

def jsonValue : Value → JsonValue
  | .null => .null
  | .int value => .scalar (ascii (toString value))
  | .uint value => .scalar (ascii (toString value))
  | .real _ text => .scalar text
  | .string text => .scalar text
  | .boolean value => .scalar (if value then ascii "true" else ascii "false")
  | .array elements => .array (jsonElements elements)
  | .object members => .object (jsonMembers members)

def jsonElements : List Value → List JsonValue
  | [] => []
  | element :: elements => jsonValue element :: jsonElements elements

def jsonMembers : List (Bytes × Value) → List (Bytes × JsonValue)
  | [] => []
  | (name, value) :: members => (name, jsonValue value) :: jsonMembers members

end

theorem jsonElements_eq (elements : List Value) : jsonElements elements = elements.map jsonValue := by
  induction elements with
  | nil => rfl
  | cons element elements ih => rw [jsonElements, ih, List.map_cons]

theorem jsonMembers_lookup (key : Bytes) (members : List (Bytes × Value)) :
    (jsonMembers members).lookup key = (members.lookup key).map jsonValue := by
  induction members with
  | nil => rfl
  | cons member members ih =>
    obtain ⟨name, value⟩ := member
    rw [jsonMembers, List.lookup_cons, List.lookup_cons, ih]
    split <;> rfl

/-- The handler converts a value as the library does. -/
theorem jsonValue_asString (value : Value) : (jsonValue value).asString = value.asString.toOption := by
  cases value <;> rfl

/-- The JSON library at work: an exception leaves nothing. -/
def jsonOutcome (readDouble : ReadDouble) (text : Bytes) : ParseOutcome :=
  match Json.parse readDouble text .null with
  | .error _ => .threw
  | .ok (root, successful) => .returned successful (jsonValue root)

def jsonParse (readDouble : ReadDouble) (text : Bytes) : JsonValue := (jsonOutcome readDouble text).root

/-! ### The strings of a request -/

/-- A plain name is UTF-8 as it should be. -/
theorem portable_topics : Utf8 Portable (ascii "topics") :=
  ⟨[116, 111, 112, 105, 99, 115], by decide, by decide⟩

theorem nat_text_length {n : Nat} (lt : n < 2 ^ 64) : (ascii n.repr).length ≤ 20 := by
  have short : n.repr.length ≤ 20 := (Nat.length_repr_le_iff (by decide)).mpr (by omega)
  rw [ascii, List.length_map, String.length_toList]
  exact short

/-- A string is no longer than the limit, and what a number or a boolean is converted to than 64 bytes. -/
def ShownWithin (limit : Nat) : Value → Prop
  | .string text => text.length ≤ limit
  | value => ∀ text, value.asString = .ok text → text.length ≤ 64

theorem ShownWithin.asString {limit : Nat} {value : Value} {text : Bytes} (within : ShownWithin limit value)
    (string : (jsonValue value).asString = some text) : text.length ≤ max limit 64 := by
  cases value with
  | string chars =>
    cases string
    exact le_max_of_le_left within
  | array | object => cases string
  | _ =>
    cases string
    exact le_max_of_le_right (within _ rfl)

theorem canonical_shown {readDouble : ReadDouble} {limit levels : Nat} {value : Value}
    (shown : ∀ {source value text}, readDouble source = some (value, text) → text.length ≤ 64)
    (canonical : Canonical readDouble (fun text => text.length ≤ limit) levels value) :
    ShownWithin limit value := by
  cases canonical with
  | null =>
    rintro text ⟨⟩
    exact Nat.zero_le _
  | @int _ value low high =>
    rintro text ⟨⟩
    have small : Value.maxInt = 2 ^ 31 - 1 := rfl
    rw [ascii_toString_int]
    split
    · have le := nat_text_length (n := value.toNat) (by omega)
      omega
    · have le := nat_text_length (n := (-value).toNat) (by omega)
      rw [List.length_cons]
      omega
  | uint low high =>
    rintro text ⟨⟩
    have le := nat_text_length high
    show (ascii (Nat.repr _)).length ≤ _
    omega
  | real read =>
    rintro text ⟨⟩
    exact shown read
  | string short => exact short
  | @boolean _ value =>
    rintro text ⟨⟩
    cases value <;> decide
  | array =>
    rintro text ⟨⟩
  | object =>
    rintro text ⟨⟩

theorem parse_strings_short (readDouble : ReadDouble) (text : Bytes) :
    match Json.parse readDouble text .null with
    | .error what => what = exceededStackLimit ∧ stackLimit ≤ openings text
    | .ok (root, _) => Canonical readDouble (fun out => out.length ≤ text.length) stackLimit root :=
  parse_outcome readDouble fun _ _ within decoded => (decodeString_length decoded).trans within.length_le

theorem jsonParse_strings {readDouble : ReadDouble}
    (shown : ∀ {source value text}, readDouble source = some (value, text) → text.length ≤ 64) :
    StringsBounded (jsonParse readDouble) := by
  intro text element value member string
  refine ⟨text, List.infix_refl text, ?_⟩
  have outcome := parse_strings_short readDouble text
  unfold jsonParse jsonOutcome at member
  split at member
  · cases member
  rename_i root successful read
  rw [read] at outcome
  cases outcome with
  | object sorted names values =>
    simp only [ParseOutcome.root, jsonValue, JsonValue.topics, jsonMembers_lookup] at member
    split at member
    · rename_i elements held
      obtain ⟨topics, held, same⟩ := Option.map_eq_some_iff.mp held
      obtain ⟨before, after, rfl, _⟩ := List.lookup_eq_some_iff.mp held
      have canonical := values (ascii "topics", topics) (by simp)
      cases canonical with
      | array all =>
        obtain rfl := JsonValue.array.inj same
        rw [jsonElements_eq] at member
        obtain ⟨value', mem, rfl⟩ := List.mem_map.mp member
        exact (canonical_shown shown (all value' mem)).asString string
      | _ => cases same
    · cases member
  | _ => cases member

/-- Every topic that is found in a subscribe request is a string no longer than the request, or is converted
from a number or a boolean to at most 64 bytes: what the sizes of the relay's frames rest on. -/
theorem jsonParse_bounded {readDouble : ReadDouble}
    (shown : ∀ {source value text}, readDouble source = some (value, text) → text.length ≤ 64) :
    (∀ text root successful elements, Json.parse readDouble text .null = .ok (root, successful) →
      root.member (ascii "topics") = .ok (.array elements) →
        ∀ element ∈ elements, ShownWithin text.length element) ∧
      StringsBounded (jsonParse readDouble) := by
  refine ⟨?_, jsonParse_strings shown⟩
  intro text root successful elements read held element member
  have outcome := parse_strings_short readDouble text
  rw [read] at outcome
  cases outcome with
  | @object _ members sorted names values =>
    cases found : members.lookup (ascii "topics") with
    | none => simp [Value.member, found] at held
    | some topics =>
      simp only [Value.member, found, Option.getD_some, Except.ok.injEq] at held
      obtain ⟨before, after, rfl, _⟩ := List.lookup_eq_some_iff.mp found
      have canonical := values (ascii "topics", topics) (by simp)
      rw [held] at canonical
      cases canonical with
      | array all => exact canonical_shown shown (all element member)
  | _ => cases held

/-- A request that names one half and a string. -/
def halfRequest : Value :=
  .object [(ascii "topics", .array [.real (some (1 / 2)) (ascii "0.5"), .string (ascii "T")])]

theorem jsonParse_bounded_half :
    ShownWithin (writeString halfRequest).length (.real (some (1 / 2)) (ascii "0.5")) ∧
      StringsBounded (jsonParse readHalf) := by
  have shown : ∀ {source value text}, readHalf source = some (value, text) → text.length ≤ 64 := by
    intro source value text read
    unfold readHalf at read
    split at read <;> cases read
    decide
  have half : readHalf (ascii "0.50") = some (some (1 / 2), ascii "0.5") := rfl
  have canonical : Canonical readHalf (Utf8 Portable) stackLimit halfRequest := by
    refine .object (List.pairwise_singleton _ _) ?_ ?_
    · intro member mem
      rw [List.mem_singleton.mp mem]
      exact portable_topics
    · intro member mem
      rw [List.mem_singleton.mp mem]
      refine .array ?_
      simp only [List.forall_mem_cons]
      exact ⟨.real half, .string ⟨[84], by decide, by decide⟩, by simp⟩
  have bounded := @jsonParse_bounded readHalf shown
  refine ⟨bounded.1 _ _ _ _ (parse_writeString readHalf_rereads canonical .null) rfl _ ?_, bounded.2⟩
  exact List.mem_cons_self

/-! ### The request of a layer connection -/

/-- `body_json`: without a topic it stays null. -/
def bodyJson (topics : List Topic) : Value :=
  if topics = [] then .null else .object [(ascii "topics", .array (topics.map .string))]

/-- `serialize_json_value` of it. -/
def serializeTopics (topics : List Topic) : Bytes := writeString (bodyJson topics)

theorem bodyJson_canonical (readDouble : ReadDouble) {topics : List Topic}
    (portable : ∀ topic ∈ topics, Utf8 Portable topic) :
    Canonical readDouble (Utf8 Portable) stackLimit (bodyJson topics) := by
  unfold bodyJson
  split
  · exact .null
  · refine .object (List.pairwise_singleton _ _) ?_ ?_
    · intro member mem
      rw [List.mem_singleton.mp mem]
      exact portable_topics
    · intro member mem
      rw [List.mem_singleton.mp mem]
      refine .array fun element mem => ?_
      obtain ⟨topic, named, rfl⟩ := List.mem_map.mp mem
      exact .string (portable topic named)

theorem bodyJson_topics (topics : List Topic) :
    (jsonValue (bodyJson topics)).topics = topics.map .scalar := by
  unfold bodyJson
  split
  · rename_i empty
    rw [empty]
    rfl
  · simp only [jsonValue, JsonValue.topics, jsonMembers_lookup, List.lookup_cons, beq_self_eq_true,
      Option.map_some, jsonElements_eq, List.map_map]
    rfl

/-- The upstream reads the topics of a layer connection as they are. -/
theorem jsonParse_layer (readDouble : ReadDouble) {topics : List Topic}
    (portable : ∀ topic ∈ topics, Utf8 Portable topic) :
    (jsonParse readDouble (serializeTopics topics)).topics = topics.map .scalar := by
  unfold jsonParse jsonOutcome serializeTopics
  rw [parse_writeString (rereadsDoubles_none readDouble) (bodyJson_canonical _ portable)]
  exact bodyJson_topics topics

/-- The text of a layer connection's request holds no NUL. -/
theorem serializeTopics_nonzero {topics : List Topic} (portable : ∀ topic ∈ topics, Utf8 Portable topic) :
    (0 : UInt8) ∉ serializeTopics topics :=
  writeValue_nonzero (rereadsDoubles_none fun _ => none) (bodyJson_canonical _ portable) List.not_mem_nil true

/-- A request whose text is read as an array of strings gets exactly those of them that may be subscribed. -/
theorem request_subscribes {site : Site} {topics : List Topic} {text : Bytes} (nonzero : (0 : UInt8) ∉ text)
    (named : (site.parse text).topics = topics.map .scalar) (fits : text.length ≤ maxMessageSize) (rest : Bytes) :
    ∃ subscribed : List Topic,
      decode site (.clientFrame (encodeSocketFrame messageOpSubscribe text ++ rest)) =
        some (.reader (.request (.subscribe subscribed))) ∧
      subscribed.Pairwise (· < ·) ∧
      ∀ topic, topic ∈ subscribed ↔ topic ∈ topics ∧ subscribable site.context topic = true := by
  refine ⟨parseSubscribeTopics site.context site.parse text, ?_, collectTopics_sorted .nil, fun topic => ?_⟩
  · have short : messageOpSubscribe.length + 1 < 2 ^ 32 := by decide
    have received : receive (encodeSocketFrame messageOpSubscribe text ++ rest) = _ := receive_encode short fits
    have whole : cString (text ++ [0]) = text := by
      rw [cString_append_nul]
      exact cString_eq_self.mpr nonzero
    have op : cString (messageOpSubscribe ++ [0]) = messageOpSubscribe := by decide
    simp only [decode, received, requestOf, whole, op]
    rfl
  · have convertible : (topics.map JsonValue.scalar).takeWhile JsonValue.convertible =
        topics.map JsonValue.scalar := by
      rw [List.takeWhile_eq_self_iff]
      intro element member
      obtain ⟨text, _, rfl⟩ := List.mem_map.mp member
      rfl
    rw [parseSubscribeTopics, named, mem_collectTopics_iff, convertible]
    simp only [List.not_mem_nil, false_or, List.mem_map]
    constructor
    · rintro ⟨passes, _, ⟨text, member, rfl⟩, same⟩
      obtain rfl := Option.some.inj same
      exact ⟨member, passes⟩
    · rintro ⟨member, passes⟩
      exact ⟨passes, _, ⟨topic, member, rfl⟩, rfl⟩

/-- What the upstream makes of a layer connection's request: exactly the topics of the layer that it lets
be subscribed. -/
theorem layerRequest_subscribes {readDouble : ReadDouble} {site : Site}
    (library : site.parse = jsonParse readDouble) {topics : List Topic}
    (portable : ∀ topic ∈ topics, Utf8 Portable topic)
    (fits : (serializeTopics topics).length ≤ maxMessageSize) (rest : Bytes) :
    ∃ subscribed : List Topic,
      decode site (.clientFrame (encodeSocketFrame messageOpSubscribe (serializeTopics topics) ++ rest)) =
        some (.reader (.request (.subscribe subscribed))) ∧
      subscribed.Pairwise (· < ·) ∧
      ∀ topic, topic ∈ subscribed ↔ topic ∈ topics ∧ subscribable site.context topic = true :=
  request_subscribes (serializeTopics_nonzero portable) (library ▸ jsonParse_layer readDouble portable) fits rest

/-- A site that lets `T` in, with the library in its place. -/
def jsonSite : Site where
  deployment := { sample false with config := { allownTopics := [ascii "T"] } }
  parse := jsonParse readHalf

theorem layerRequest_subscribes_two :
    ∃ subscribed : List Topic,
      decode jsonSite (.clientFrame (encodeSocketFrame messageOpSubscribe
        (serializeTopics [ascii "U", ascii "T"]) ++ [])) = some (.reader (.request (.subscribe subscribed))) ∧
      subscribed.Pairwise (· < ·) ∧
      ∀ topic, topic ∈ subscribed ↔
        topic ∈ [ascii "U", ascii "T"] ∧ subscribable jsonSite.context topic = true := by
  refine layerRequest_subscribes rfl ?_ (by decide +kernel) []
  intro topic member
  simp only [List.mem_cons, List.not_mem_nil, or_false] at member
  rcases member with rfl | rfl
  · exact ⟨[85], by decide, by decide⟩
  · exact ⟨[84], by decide, by decide⟩

/-! ### The request of the example client -/

/-- The elements of `topics_json`, each in quotes as it is. -/
def quotedTopics : List Topic → Bytes
  | [] => []
  | topic :: topics => [34] ++ topic ++ [34] ++ (if topics.isEmpty then [] else [44]) ++ quotedTopics topics

/-- The `message` of `RepeaterSubscriber::subscribe`. -/
def clientRequest (topics : List Topic) : Bytes :=
  [123, 34] ++ ascii "topics" ++ [34, 58, 91] ++ quotedTopics topics ++ [93, 125]

/-- A topic that needs no escape: it holds no quote, no backslash and no NUL. -/
def PlainTopic (topic : Topic) : Prop := ∀ c ∈ topic, c ≠ 34 ∧ c ≠ 92 ∧ c ≠ 0

theorem decodeString_whole {chars : Bytes} (plain : ∀ c ∈ chars, c ≠ 34 ∧ c ≠ 92) :
    decodeString chars = some chars := by
  induction chars with
  | nil => rfl
  | cons c chars ih =>
    obtain ⟨⟨quote, backslash⟩, plain⟩ := List.forall_mem_cons.mp plain
    rw [decodeString_plain quote backslash, ih plain, Option.map_some]

theorem tokenAt_plain {chars : Bytes} (plain : ∀ c ∈ chars, c ≠ 34 ∧ c ≠ 92) (rest : Bytes) :
    tokenAt 34 (chars ++ 34 :: rest) = { type := .string, text := chars, rest } := by
  have found : readString (chars ++ 34 :: rest) = some (chars, rest) := by
    rw [closed_of_plain plain, readString_quote]
    simp
  unfold tokenAt
  simp [found]

theorem readValue_plain (readDouble : ReadDouble) (levels : Nat) {chars : Bytes}
    (plain : ∀ c ∈ chars, c ≠ 34 ∧ c ≠ 92) (rest : Bytes) (slot : Value) :
    readValue readDouble (levels + 1) (34 :: (chars ++ 34 :: rest)) slot = .ok (.string chars, some rest) := by
  have token : skipCommentTokens (34 :: (chars ++ 34 :: rest)) = { type := .string, text := chars, rest } :=
    skipCommentTokens_at rfl (tokenAt_plain plain rest) (by simp)
  simp only [readValue, token, decodeString_whole plain]

/-- The loop over quoted topics, behind those that have been read. -/
theorem loop_quotedTopics (readDouble : ReadDouble) (levels : Nat) (tail : Bytes) {topics : List Topic}
    (nonempty : topics ≠ []) (plain : ∀ topic ∈ topics, ∀ c ∈ topic, c ≠ 34 ∧ c ≠ 92) (before : List Value) :
    loop (fun s => s.2.length) (elementTurn (readValue readDouble (levels + 1)))
        (before, quotedTopics topics ++ 93 :: tail) =
      .ok (before ++ topics.map .string, some tail) := by
  have shrinks : Shrinks _ (elementTurn (readValue readDouble (levels + 1))) :=
    elementTurn_shrinks (readValue_forward readDouble (levels + 1))
  induction topics generalizing before with
  | nil => exact absurd rfl nonempty
  | cons topic topics ih =>
    obtain ⟨first, later⟩ := List.forall_mem_cons.mp plain
    by_cases last : topics = []
    · subst last
      have closing : skipCommentTokens (93 :: tail) = { type := .arrayEnd, rest := tail } :=
        skipCommentTokens_at rfl rfl (by simp)
      apply loop_ends shrinks
      simp [elementTurn, quotedTopics, readValue_plain readDouble levels first, closing]
    · have separator : skipCommentTokens (44 :: (quotedTopics topics ++ 93 :: tail)) =
          { type := .arraySeparator, rest := quotedTopics topics ++ 93 :: tail } :=
        skipCommentTokens_at rfl rfl (by simp)
      rw [loop_goesOn shrinks
        (t := (before ++ [.string topic], quotedTopics topics ++ 93 :: tail))
        (by simp [elementTurn, quotedTopics, last, readValue_plain readDouble levels first, separator]),
        ih last later]
      simp

theorem readValue_quotedTopics (readDouble : ReadDouble) (levels : Nat) (tail : Bytes) {topics : List Topic}
    (nonempty : topics ≠ []) (plain : ∀ topic ∈ topics, ∀ c ∈ topic, c ≠ 34 ∧ c ≠ 92) (slot : Value) :
    readValue readDouble (levels + 2) (91 :: (quotedTopics topics ++ 93 :: tail)) slot =
      .ok (.array (topics.map .string), some tail) := by
  have token : skipCommentTokens (91 :: (quotedTopics topics ++ 93 :: tail)) =
      { type := .arrayBegin, rest := quotedTopics topics ++ 93 :: tail } := skipCommentTokens_at rfl rfl (by simp)
  have first : (skipSpaces (quotedTopics topics ++ 93 :: tail)).head? ≠ some 93 := by
    obtain ⟨topic, topics, rfl⟩ := List.exists_cons_of_ne_nil nonempty
    have quote : skipSpaces (quotedTopics (topic :: topics) ++ 93 :: tail) =
        quotedTopics (topic :: topics) ++ 93 :: tail := List.dropWhile_cons_of_neg (by decide)
    rw [quote]
    simp [quotedTopics]
  have elements : readArray (readValue readDouble (levels + 1)) (quotedTopics topics ++ 93 :: tail) =
      .ok (topics.map .string, some tail) := by
    rw [readArray, if_neg first]
    exact loop_quotedTopics readDouble levels tail nonempty plain []
  rw [readValue]
  simp only [token, elements]
  rfl

theorem parse_clientRequest (readDouble : ReadDouble) {topics : List Topic} (nonempty : topics ≠ [])
    (plain : ∀ topic ∈ topics, PlainTopic topic) (root : Value) :
    Json.parse readDouble (clientRequest topics) root =
      .ok (.object [(ascii "topics", .array (topics.map .string))], true) := by
  obtain ⟨levels, limit⟩ : ∃ levels, stackLimit = levels + 3 := Nat.exists_eq_add_of_le' (by decide)
  have array := readValue_quotedTopics readDouble levels [125] nonempty
    (fun topic member c within => ⟨(plain topic member c within).1, (plain topic member c within).2.1⟩) .null
  have text : clientRequest topics = 123 :: 34 :: (ascii "topics" ++ 34 :: 58 :: 91 ::
      (quotedTopics topics ++ 93 :: [125])) := by
    simp [clientRequest]
  have opening : skipCommentTokens (clientRequest topics) =
      { type := .objectBegin
        rest := 34 :: (ascii "topics" ++ 34 :: 58 :: 91 :: (quotedTopics topics ++ 93 :: [125])) } := by
    rw [text]
    exact skipCommentTokens_at rfl rfl (by simp)
  have tokenName : skipCommentTokens (34 :: (ascii "topics" ++ 34 :: 58 :: 91 ::
      (quotedTopics topics ++ 93 :: [125]))) =
      { type := .string, text := ascii "topics", rest := 58 :: 91 :: (quotedTopics topics ++ 93 :: [125]) } :=
    skipCommentTokens_at rfl (tokenAt_plain (by decide +kernel) _) (by simp)
  have name : decodeString (ascii "topics") = some (ascii "topics") := decodeString_whole (by decide +kernel)
  have colon : readToken (58 :: 91 :: (quotedTopics topics ++ 93 :: [125])) =
      { type := .memberSeparator, rest := 91 :: (quotedTopics topics ++ 93 :: [125]) } := rfl
  have closing : readToken [125] = { type := .objectEnd, rest := [] } := rfl
  have members : readObject (readValue readDouble (levels + 2))
      (34 :: (ascii "topics" ++ 34 :: 58 :: 91 :: (quotedTopics topics ++ 93 :: [125]))) =
      .ok ([(ascii "topics", .array (topics.map .string))], some []) := by
    apply loop_ends (memberTurn_shrinks (readValue_forward readDouble (levels + 2)))
    simp [memberTurn, tokenName, name, colon, array, closing, insertMember]
  have read : readValue readDouble stackLimit (clientRequest topics) root =
      .ok (.object [(ascii "topics", .array (topics.map .string))], some []) := by
    rw [limit, readValue]
    simp only [opening, members]
    rfl
  rw [Json.parse, read]
  rfl

theorem clientRequest_nonzero {topics : List Topic} (plain : ∀ topic ∈ topics, PlainTopic topic) :
    (0 : UInt8) ∉ clientRequest topics := by
  have quoted : (0 : UInt8) ∉ quotedTopics topics := by
    induction topics with
    | nil => exact List.not_mem_nil
    | cons topic topics ih =>
      obtain ⟨first, later⟩ := List.forall_mem_cons.mp plain
      have comma : (0 : UInt8) ∉ (if topics.isEmpty then [] else [(44 : UInt8)]) := by
        split <;> decide
      simp only [quotedTopics, List.mem_append, not_or]
      exact ⟨⟨⟨⟨by decide, fun zero => (first 0 zero).2.2 rfl⟩, by decide⟩, comma⟩, ih later⟩
  simp only [clientRequest, List.mem_append, not_or]
  exact ⟨⟨⟨⟨by decide, by decide⟩, by decide⟩, quoted⟩, by decide⟩

/-- The example client escapes nothing. For topics without quotes and backslashes its request does what a
layer connection's does, whatever other bytes they hold. -/
theorem clientRequest_subscribes {readDouble : ReadDouble} {site : Site}
    (library : site.parse = jsonParse readDouble) {topics : List Topic} (nonempty : topics ≠ [])
    (plain : ∀ topic ∈ topics, PlainTopic topic) (fits : (clientRequest topics).length ≤ maxMessageSize)
    (rest : Bytes) :
    ∃ subscribed : List Topic,
      decode site (.clientFrame (encodeSocketFrame messageOpSubscribe (clientRequest topics) ++ rest)) =
        some (.reader (.request (.subscribe subscribed))) ∧
      subscribed.Pairwise (· < ·) ∧
      ∀ topic, topic ∈ subscribed ↔ topic ∈ topics ∧ subscribable site.context topic = true := by
  refine request_subscribes (clientRequest_nonzero plain) ?_ fits rest
  rw [library, jsonParse, jsonOutcome, parse_clientRequest readDouble nonempty plain]
  have body : Value.object [(ascii "topics", .array (topics.map .string))] = bodyJson topics := by
    rw [bodyJson, if_neg nonempty]
  rw [body]
  exact bodyJson_topics topics

theorem clientRequest_subscribes_two :
    ∃ subscribed : List Topic,
      decode jsonSite (.clientFrame (encodeSocketFrame messageOpSubscribe
        (clientRequest [ascii "U", ascii "T"]) ++ [])) = some (.reader (.request (.subscribe subscribed))) ∧
      subscribed.Pairwise (· < ·) ∧
      ∀ topic, topic ∈ subscribed ↔
        topic ∈ [ascii "U", ascii "T"] ∧ subscribable jsonSite.context topic = true := by
  refine clientRequest_subscribes rfl (by simp) ?_ (by decide +kernel) []
  intro topic member
  simp only [List.mem_cons, List.not_mem_nil, or_false] at member
  rcases member with rfl | rfl <;> unfold PlainTopic <;> decide +kernel

end MessageRepeater.Ingress
