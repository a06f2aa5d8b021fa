import MessageRepeater.Combiner.GlobalContext

/-!
# Layer addresses

How `layer_replay_work` of `src/layer/layer_connector.cpp` reads an address, and the filter of
`GlobalContext::init` that keeps a repeater from subscribing to itself.
-/

namespace MessageRepeater.Layer
open Foundation Combiner Config

/-! ### Parsing -/

/-- `splitStr` for a delimiter of one byte, behind the begun piece. An empty last piece is dropped. -/
def splitFrom (delim : UInt8) (piece : Bytes) : Bytes → List Bytes
  | [] => if piece = [] then [] else [piece]
  | byte :: rest =>
    if byte = delim then piece :: splitFrom delim [] rest else splitFrom delim (piece ++ [byte]) rest

def splitStr (str : Bytes) (delim : UInt8) : List Bytes := splitFrom delim [] str

def isSpace (byte : UInt8) : Bool := byte == 32 || (9 ≤ byte && byte ≤ 13)
def isDigit (byte : UInt8) : Bool := 48 ≤ byte && byte ≤ 57

def decimal (digits : Bytes) : Nat := digits.foldl (fun value digit => value * 10 + (digit.toNat - 48)) 0

inductive StoiException where
  | invalidArgument
  | outOfRange
  deriving DecidableEq, Repr

/-- The sign in front of the digits, and what follows it. -/
def takeSign : Bytes → Int × Bytes
  | 45 :: rest => (-1, rest)
  | 43 :: rest => (1, rest)
  | text => (1, text)

/-- `std::stoi`: white space, a sign and digits; what follows them is left. -/
def stoi (str : Bytes) : Except StoiException Int :=
  let (sign, text) := takeSign ((cString str).dropWhile isSpace)
  let digits := text.takeWhile isDigit
  if digits = [] then .error .invalidArgument
  else
    let value := sign * (decimal digits : Int)
    if -2 ^ 31 ≤ value ∧ value < 2 ^ 31 then .ok value else .error .outOfRange

/-- The loop of `inet_pton` for IPv4: the octets that are complete and the one begun. -/
def inetPtonLoop (octets : List Nat) (begun : Option Nat) : Bytes → Option (List Nat)
  | [] =>
    match begun with
    | some octet => if octets.length = 3 then some (octets ++ [octet]) else none
    | none => none
  | byte :: rest =>
    if isDigit byte then
      match begun with
      | none => inetPtonLoop octets (some (byte.toNat - 48)) rest
      | some octet =>
        if octet = 0 ∨ octet * 10 + (byte.toNat - 48) > 255 then none
        else inetPtonLoop octets (some (octet * 10 + (byte.toNat - 48))) rest
    else
      match begun with
      | some octet =>
        if byte = 46 ∧ octets.length < 3 then inetPtonLoop (octets ++ [octet]) none rest else none
      | none => none

/-- `inet_pton(AF_INET, str.c_str(), …)`. -/
def inetPton (str : Bytes) : Option (List Nat) := inetPtonLoop [] none (cString str)

def htons (port : Int) : Nat := (port % 2 ^ 16).toNat

/-- What becomes of an address: the thread returns, an exception leaves it, or it connects. -/
inductive AddressUse where
  | refused
  | thrown (exception : StoiException)
  | connects (octets : List Nat) (port : Nat)
  deriving DecidableEq, Repr

def parseAddress (subscribeAddress : Bytes) : AddressUse :=
  match splitStr subscribeAddress 58 with
  | [serverIp, portText] =>
    match stoi portText with
    | .error exception => .thrown exception
    | .ok serverPort =>
      match inetPton serverIp with
      | none => .refused
      | some octets => .connects octets (htons serverPort)
  | _ => .refused

/-- The endpoint that a bootstrap binds to. -/
def Binds (address : Bytes) (listenPort : Int) (octets : List Nat) (port : Nat) : Prop :=
  inetPton address = some octets ∧ port = htons listenPort

/-! ### The written address of a listener -/

theorem splitFrom_append {delim : UInt8} {text : Bytes} (free : delim ∉ text) (piece rest : Bytes) :
    splitFrom delim piece (text ++ delim :: rest) = (piece ++ text) :: splitFrom delim [] rest := by
  induction text generalizing piece with
  | nil => simp [splitFrom]
  | cons byte text ih =>
    obtain ⟨other, free⟩ : delim ≠ byte ∧ delim ∉ text := by simpa using free
    rw [List.cons_append, splitFrom, if_neg (Ne.symm other), ih free, List.append_assoc]
    rfl

theorem splitFrom_free {delim : UInt8} {text : Bytes} (free : delim ∉ text) (piece : Bytes) :
    splitFrom delim piece text = if piece ++ text = [] then [] else [piece ++ text] := by
  induction text generalizing piece with
  | nil => simp only [splitFrom, List.append_nil]
  | cons byte text ih =>
    obtain ⟨other, free⟩ : delim ≠ byte ∧ delim ∉ text := by simpa using free
    rw [splitFrom, if_neg (Ne.symm other), ih free, List.append_assoc]
    rfl

theorem splitFrom_nil {delim : UInt8} {text : Bytes} : splitFrom delim [] text = [] ↔ text = [] := by
  by_cases member : delim ∈ text
  · obtain ⟨front, back, rfl, free⟩ := List.eq_append_cons_of_mem member
    rw [splitFrom_append free]
    simp
  · rw [splitFrom_free member, List.nil_append]
    by_cases empty : text = [] <;> simp [empty]

theorem splitFrom_one {delim : UInt8} {text piece : Bytes} : splitFrom delim [] text = [piece] ↔
    delim ∉ piece ∧ (piece ≠ [] ∧ text = piece ∨ text = piece ++ [delim]) := by
  by_cases member : delim ∈ text
  · obtain ⟨front, back, rfl, free⟩ := List.eq_append_cons_of_mem member
    rw [splitFrom_append free, List.nil_append, List.cons.injEq, splitFrom_nil]
    constructor
    · rintro ⟨rfl, rfl⟩
      exact ⟨free, .inr rfl⟩
    · rintro ⟨free', ⟨_, rfl⟩ | same⟩
      · exact absurd member free'
      · obtain ⟨rfl, _, rfl⟩ := (List.append_cons_inj_of_notMem free' List.not_mem_nil).mp same.symm
        exact ⟨rfl, rfl⟩
  · rw [splitFrom_free member, List.nil_append]
    by_cases empty : text = []
    · rw [if_pos empty]
      refine iff_of_false nofun ?_
      rintro ⟨_, ⟨some_, same⟩ | same⟩
      · exact some_ (same.symm.trans empty)
      · simp [empty] at same
    · rw [if_neg empty, List.cons.injEq, and_iff_left rfl]
      constructor
      · rintro rfl
        exact ⟨member, .inl ⟨empty, rfl⟩⟩
      · rintro ⟨_, ⟨_, same⟩ | same⟩
        · exact same
        · exact absurd (same ▸ List.mem_append_right _ List.mem_cons_self) member

theorem splitStr_two {delim : UInt8} {text first second : Bytes} : splitStr text delim = [first, second] ↔
    delim ∉ first ∧ ∃ back, text = first ++ delim :: back ∧ splitFrom delim [] back = [second] := by
  unfold splitStr
  constructor
  · intro pieces
    by_cases member : delim ∈ text
    · obtain ⟨front, back, rfl, free⟩ := List.eq_append_cons_of_mem member
      rw [splitFrom_append free, List.nil_append, List.cons.injEq] at pieces
      obtain ⟨rfl, rest⟩ := pieces
      exact ⟨free, back, rfl, rest⟩
    · rw [splitFrom_free member] at pieces
      split at pieces <;> cases pieces
  · rintro ⟨free, back, rfl, rest⟩
    rw [splitFrom_append free, rest, List.nil_append]

theorem digit_byte {c : Char} (digit : c.isDigit = true) :
    isDigit (UInt8.ofNat c.toNat) = true ∧ (UInt8.ofNat c.toNat).toNat = c.toNat := by
  obtain ⟨low, high⟩ : 48 ≤ c.toNat ∧ c.toNat ≤ 57 := by
    simp only [Char.isDigit, Bool.and_eq_true, decide_eq_true_eq] at digit
    exact ⟨digit.1, digit.2⟩
  have value : (UInt8.ofNat c.toNat).toNat = c.toNat := by
    rw [UInt8.toNat_ofNat']
    omega
  refine ⟨?_, value⟩
  simp only [isDigit, Bool.and_eq_true, decide_eq_true_eq, UInt8.le_iff_toNat_le, value]
  exact ⟨low, high⟩

theorem decimal_digits {digits : List Char} (all : ∀ c ∈ digits, c.isDigit = true) (value : Nat) :
    (digits.map fun c => UInt8.ofNat c.toNat).foldl
        (fun value digit => value * 10 + (digit.toNat - 48)) value =
      Nat.ofDigitChars 10 digits value := by
  induction digits generalizing value with
  | nil => rfl
  | cons c digits ih =>
    obtain ⟨first, rest⟩ := List.forall_mem_cons.mp all
    rw [List.map_cons, List.foldl_cons, ih rest, Nat.ofDigitChars_cons, (digit_byte first).2]
    rw [Nat.mul_comm]
    rfl

theorem digit_plain {byte : UInt8} (digit : isDigit byte = true) :
    byte ≠ 0 ∧ byte ≠ 43 ∧ byte ≠ 45 ∧ byte ≠ 58 ∧ isSpace byte = false := by
  simp only [isDigit, Bool.and_eq_true, decide_eq_true_eq, UInt8.le_iff_toNat_le] at digit
  obtain ⟨low, high⟩ := digit
  have distinct : ∀ other : UInt8, other.toNat < 48 ∨ 57 < other.toNat → byte ≠ other := by
    rintro other outside rfl
    have low' : 48 ≤ byte.toNat := low
    have high' : byte.toNat ≤ 57 := high
    omega
  refine ⟨distinct 0 (by decide), distinct 43 (by decide), distinct 45 (by decide),
    distinct 58 (by decide), ?_⟩
  simp only [isSpace, Bool.or_eq_false_iff, beq_eq_false_iff_ne, Bool.and_eq_false_iff,
    decide_eq_false_iff_not, UInt8.le_iff_toNat_le]
  refine ⟨distinct 32 (by decide), .inr fun le => ?_⟩
  have low' : 48 ≤ byte.toNat := low
  have le' : byte.toNat ≤ 13 := le
  omega

theorem repr_digits (n : Nat) :
    ascii n.repr ≠ [] ∧ (∀ byte ∈ ascii n.repr, isDigit byte = true) ∧ decimal (ascii n.repr) = n := by
  have digits : ∀ c ∈ Nat.toDigits 10 n, c.isDigit = true := fun c member =>
    Nat.isDigit_of_mem_toDigits (by decide) (by decide) member
  unfold ascii decimal
  rw [Nat.toList_repr]
  refine ⟨?_, ?_, ?_⟩
  · rw [ne_eq, List.map_eq_nil_iff]
    exact Nat.toDigits_ne_nil
  · intro byte member
    obtain ⟨c, written, rfl⟩ := List.mem_map.mp member
    exact (digit_byte (digits c written)).1
  · rw [decimal_digits digits]
    exact Nat.ofDigitChars_ten_toDigits

theorem dropWhile_append {p : UInt8 → Bool} {front back : Bytes} (all : ∀ byte ∈ front, p byte = true)
    (stops : ∀ byte ∈ back.head?, p byte = false) : (front ++ back).dropWhile p = back := by
  rw [List.dropWhile_append_of_pos all]
  cases back with
  | nil => rfl
  | cons byte back =>
    rw [List.dropWhile_cons, stops byte rfl]
    rfl

theorem takeWhile_append {p : UInt8 → Bool} {front back : Bytes} (all : ∀ byte ∈ front, p byte = true)
    (stops : ∀ byte ∈ back.head?, p byte = false) : (front ++ back).takeWhile p = front := by
  rw [List.takeWhile_append_of_pos all]
  cases back with
  | nil => simp
  | cons byte back =>
    rw [List.takeWhile_cons, stops byte rfl]
    simp

theorem takeSign_cases (text : Bytes) :
    ∃ written, text = written ++ (takeSign text).2 ∧
      ((written = [] ∨ written = [43]) ∧ (takeSign text).1 = 1 ∨
        written = [45] ∧ (takeSign text).1 = -1) := by
  unfold takeSign
  split
  · exact ⟨[45], rfl, .inr ⟨rfl, rfl⟩⟩
  · exact ⟨[43], rfl, .inl ⟨.inr rfl, rfl⟩⟩
  · exact ⟨[], rfl, .inl ⟨.inl rfl, rfl⟩⟩

/-- White space, at most one sign and digits whose value fits into an `int`; anything may follow. -/
def Readable (text : Bytes) : Prop :=
  ∃ space sign digits rest, cString text = space ++ (sign ++ (digits ++ rest)) ∧
    (∀ byte ∈ space, isSpace byte = true) ∧ (sign = [] ∨ sign = [43] ∨ sign = [45]) ∧ digits ≠ [] ∧
    (∀ byte ∈ digits, isDigit byte = true) ∧ (∀ byte ∈ rest.head?, isDigit byte = false) ∧
    if sign = [45] then decimal digits ≤ 2 ^ 31 else decimal digits < 2 ^ 31

section
variable {digits : Bytes} (some_ : digits ≠ []) (all : ∀ byte ∈ digits, isDigit byte = true)
include some_ all

theorem stoi_signed {str text rest : Bytes} {sign : Int} (front : (cString str).dropWhile isSpace = text)
    (signed : takeSign text = (sign, digits ++ rest))
    (stops : ∀ byte ∈ rest.head?, isDigit byte = false)
    (fits : -2 ^ 31 ≤ sign * (decimal digits : Int) ∧ sign * (decimal digits : Int) < 2 ^ 31) :
    stoi str = .ok (sign * (decimal digits : Int)) := by
  unfold stoi
  rw [front, signed]
  dsimp only
  rw [takeWhile_append all stops, if_neg some_, if_pos fits]

theorem takeSign_digits (rest : Bytes) :
    takeSign (digits ++ rest) = (1, digits ++ rest) ∧
      ∀ byte ∈ (digits ++ rest).head?, isSpace byte = false := by
  obtain ⟨first, others, rfl⟩ := List.exists_cons_of_ne_nil some_
  obtain ⟨-, plus, minus, -, space⟩ := digit_plain (all first List.mem_cons_self)
  constructor
  · rw [List.cons_append]
    unfold takeSign
    split
    · rename_i same
      exact absurd (List.cons.inj same).1 minus
    · rename_i same
      exact absurd (List.cons.inj same).1 plus
    · rfl
  · rintro byte ⟨⟩
    exact space

end

/-- The text that `std::stoi` reads as `value`: white space, at most one sign and digits; anything may
follow. -/
def Reads (text : Bytes) (value : Int) : Prop :=
  ∃ space sign digits rest, cString text = space ++ (sign ++ (digits ++ rest)) ∧
    (∀ byte ∈ space, isSpace byte = true) ∧ (sign = [] ∨ sign = [43] ∨ sign = [45]) ∧ digits ≠ [] ∧
    (∀ byte ∈ digits, isDigit byte = true) ∧ (∀ byte ∈ rest.head?, isDigit byte = false) ∧
    (value = if sign = [45] then -(decimal digits : Int) else decimal digits) ∧
    -2 ^ 31 ≤ value ∧ value < 2 ^ 31

theorem reads_of_stoi {text : Bytes} {value : Int} (read : stoi text = .ok value) : Reads text value := by
  obtain ⟨written, signed, sign⟩ := takeSign_cases ((cString text).dropWhile isSpace)
  unfold stoi at read
  dsimp only at read
  split at read
  · cases read
  rename_i some_
  split at read
  swap
  · cases read
  rename_i fits
  cases read
  refine ⟨(cString text).takeWhile isSpace, written, _,
    (takeSign ((cString text).dropWhile isSpace)).2.dropWhile isDigit, ?_,
    fun byte member => List.mem_takeWhile_imp member, ?_, some_,
    fun byte member => List.mem_takeWhile_imp member, ?_, ?_, fits⟩
  · rw [List.takeWhile_append_dropWhile, ← signed, List.takeWhile_append_dropWhile]
  · rcases sign with ⟨plain, -⟩ | ⟨minus, -⟩
    · exact plain.elim .inl fun plus => .inr (.inl plus)
    · exact .inr (.inr minus)
  · intro byte first
    have head := List.head?_dropWhile_not isDigit (takeSign ((cString text).dropWhile isSpace)).2
    rw [first] at head
    simpa using head
  · rcases sign with ⟨plain, positive⟩ | ⟨rfl, negative⟩
    · have other : written ≠ [45] := by
        rcases plain with rfl | rfl <;> decide
      rw [positive, if_neg other, Int.one_mul]
    · rw [negative, if_pos rfl, Int.neg_one_mul]

theorem stoi_reads {text : Bytes} {value : Int} : stoi text = .ok value ↔ Reads text value := by
  refine ⟨reads_of_stoi, ?_⟩
  rintro ⟨space, sign, digits, rest, shape, spaces, signs, some_, all, stops, rfl, fits⟩
  obtain ⟨signed, first⟩ := takeSign_digits some_ all rest
  rcases signs with rfl | rfl | rfl
  · have front : (cString text).dropWhile isSpace = digits ++ rest := by
      rw [shape]
      exact dropWhile_append spaces first
    rw [if_neg (by decide), ← Int.one_mul (decimal digits : Int)] at fits ⊢
    exact stoi_signed some_ all front signed stops fits
  · have front : (cString text).dropWhile isSpace = 43 :: (digits ++ rest) := by
      rw [shape]
      exact dropWhile_append spaces (by rintro byte ⟨⟩; rfl)
    rw [if_neg (by decide), ← Int.one_mul (decimal digits : Int)] at fits ⊢
    have read : takeSign (43 :: (digits ++ rest)) = (1, digits ++ rest) := rfl
    exact stoi_signed some_ all front read stops fits
  · have front : (cString text).dropWhile isSpace = 45 :: (digits ++ rest) := by
      rw [shape]
      exact dropWhile_append spaces (by rintro byte ⟨⟩; rfl)
    rw [if_pos rfl, ← Int.neg_one_mul (decimal digits : Int)] at fits ⊢
    have read : takeSign (45 :: (digits ++ rest)) = (-1, digits ++ rest) := rfl
    exact stoi_signed some_ all front read stops fits

/-- `std::stoi` throws on just the texts that are not readable. -/
theorem stoi_ok_iff {text : Bytes} : (∃ value, stoi text = .ok value) ↔ Readable text := by
  simp only [stoi_reads]
  constructor
  · rintro ⟨value, space, sign, digits, rest, shape, spaces, signs, some_, all, stops, rfl, fits⟩
    refine ⟨space, sign, digits, rest, shape, spaces, signs, some_, all, stops, ?_⟩
    split_ifs at fits ⊢ <;> omega
  · rintro ⟨space, sign, digits, rest, shape, spaces, signs, some_, all, stops, fits⟩
    refine ⟨_, space, sign, digits, rest, shape, spaces, signs, some_, all, stops, rfl, ?_⟩
    split_ifs at fits ⊢ <;> omega

theorem stoi_digits {sign digits : Bytes} (signs : sign = [] ∨ sign = [45]) (some_ : digits ≠ [])
    (all : ∀ byte ∈ digits, isDigit byte = true) {value : Int}
    (same : value = if sign = [45] then -(decimal digits : Int) else decimal digits)
    (fits : -2 ^ 31 ≤ value ∧ value < 2 ^ 31) : stoi (sign ++ digits) = .ok value := by
  have clean : (0 : UInt8) ∉ sign ++ digits := by
    rw [List.mem_append]
    rintro (zero | zero)
    · rcases signs with rfl | rfl
      · cases zero
      · exact absurd zero (by decide)
    · exact (digit_plain (all 0 zero)).1 rfl
  refine stoi_reads.mpr ⟨[], sign, digits, [], ?_, nofun, ?_, some_, all, nofun, same, fits⟩
  · rw [cString_eq_self.mpr clean, List.append_nil, List.nil_append]
  · exact signs.imp_right .inr

/-- `std::stoi` reads back what `std::to_string` has written. -/
theorem stoi_toString {port : Int} (low : -2 ^ 31 ≤ port) (high : port < 2 ^ 31) :
    stoi (ascii (toString port)) = .ok port := by
  rw [Int.toString_eq_repr, Int.repr_eq_if]
  split
  · rename_i positive
    obtain ⟨some_, all, value⟩ := repr_digits port.toNat
    refine @stoi_digits [] _ (.inl rfl) some_ all _ ?_ ⟨low, high⟩
    rw [value, if_neg (by decide), Int.toNat_of_nonneg positive]
  · rename_i negative
    obtain ⟨some_, all, value⟩ := repr_digits (-port).toNat
    have text : ascii ("-" ++ (-port).toNat.repr) = [45] ++ ascii (-port).toNat.repr := by
      unfold ascii
      rw [String.toList_append, List.map_append]
      rfl
    rw [text]
    refine stoi_digits (.inr rfl) some_ all ?_ ⟨low, high⟩
    rw [value, if_pos rfl, Int.toNat_of_nonneg (by omega), Int.neg_neg]

theorem toString_plain (port : Int) :
    ascii (toString port) ≠ [] ∧ (58 : UInt8) ∉ ascii (toString port) := by
  have colonFree : ∀ n : Nat, (58 : UInt8) ∉ ascii n.repr := fun n colon =>
    (digit_plain ((repr_digits n).2.1 58 colon)).2.2.2.1 rfl
  rw [Int.toString_eq_repr, Int.repr_eq_if]
  split
  · exact ⟨(repr_digits _).1, colonFree _⟩
  · have text : ascii ("-" ++ (-port).toNat.repr) = 45 :: ascii (-port).toNat.repr := by
      unfold ascii
      rw [String.toList_append, List.map_append]
      rfl
    rw [text]
    exact ⟨List.cons_ne_nil _ _, fun colon => (List.mem_cons.mp colon).elim nofun (colonFree _)⟩

/-- A listener's written address falls into its two parts, also with a colon behind it. -/
theorem splitStr_listenAddress {address : Bytes} (colonFree : (58 : UInt8) ∉ address) (listenPort : Int) :
    splitStr (GlobalContext.listenAddress address listenPort) 58 =
      [address, ascii (toString listenPort)] ∧
    splitStr (GlobalContext.listenAddress address listenPort ++ ascii ":") 58 =
      [address, ascii (toString listenPort)] := by
  obtain ⟨some_, portFree⟩ := toString_plain listenPort
  unfold GlobalContext.listenAddress
  rw [List.append_assoc, List.append_assoc, splitStr_two, splitStr_two]
  constructor
  · exact ⟨colonFree, _, rfl, splitFrom_one.mpr ⟨portFree, .inl ⟨some_, rfl⟩⟩⟩
  · exact ⟨colonFree, _, rfl, splitFrom_one.mpr ⟨portFree, .inr rfl⟩⟩

theorem parse_connects {text : Bytes} {octets : List Nat} {port : Nat} :
    parseAddress text = .connects octets port ↔ ∃ host portText value,
      splitStr text 58 = [host, portText] ∧ stoi portText = .ok value ∧ inetPton host = some octets ∧
        port = htons value := by
  unfold parseAddress
  constructor
  · intro read
    split at read
    · rename_i host portText pieces
      split at read
      · cases read
      · rename_i value port
        split at read <;> cases read
        rename_i host
        exact ⟨_, _, value, pieces, port, host, rfl⟩
    · cases read
  · rintro ⟨host, portText, value, pieces, port, host, rfl⟩
    simp only [pieces, port, host]

/-- The address that the filter compares with is read as the listener's own endpoint. -/
theorem parse_listenAddress {address : Bytes} {listenPort : Int} {octets : List Nat}
    (colonFree : (58 : UInt8) ∉ address) (binds : inetPton address = some octets)
    (low : -2 ^ 31 ≤ listenPort) (high : listenPort < 2 ^ 31) :
    parseAddress (GlobalContext.listenAddress address listenPort) =
      .connects octets (htons listenPort) :=
  parse_connects.mpr ⟨address, _, listenPort, (splitStr_listenAddress colonFree listenPort).1,
    stoi_toString low high, binds, rfl⟩

/-! ### The filter -/

theorem init_layerAddresses (config : RepeaterConfig) :
    (GlobalContext.init config).layerSubscribeAddresses = config.layerSubscribeAddresses.filter
      fun address =>
        address ≠ GlobalContext.listenAddress config.publisherListenAddress config.publisherListenPort ∧
          address ≠
            GlobalContext.listenAddress config.subscriberListenAddress config.subscriberListenPort := by
  have folded : ∀ (addresses : List Bytes) (context : GlobalContext),
      (addresses.foldl (GlobalContext.initLayerAddress config) context).layerSubscribeAddresses =
        context.layerSubscribeAddresses ++ addresses.filter fun address =>
          address ≠ GlobalContext.listenAddress config.publisherListenAddress
            config.publisherListenPort ∧
          address ≠ GlobalContext.listenAddress config.subscriberListenAddress
            config.subscriberListenPort := by
    intro addresses
    induction addresses with
    | nil => simp
    | cons address addresses ih =>
      intro context
      rw [List.foldl_cons, ih, List.filter_cons]
      unfold GlobalContext.initLayerAddress
      split
      · rename_i other
        simp [other]
      · rename_i own
        simp [own]
  unfold GlobalContext.init
  rw [folded]
  refine (congrArg (· ++ _) ?_).trans (List.nil_append _)
  refine List.foldlRecOn (motive := fun context : GlobalContext => context.layerSubscribeAddresses = [])
    config.layerSubscribeTopics _ ?_ fun context none_ topic _ => ?_
  · refine List.foldlRecOn (motive := fun context : GlobalContext =>
      context.layerSubscribeAddresses = []) config.allownTopics _ rfl fun context none_ topic _ => ?_
    unfold GlobalContext.initAllown
    split
    · exact none_
    · split <;> exact none_
  · unfold GlobalContext.initLayerTopic
    split <;> exact none_

/-- The connector would connect to one of the repeater's own listeners. -/
def LeadsToSelf (config : RepeaterConfig) (address : Bytes) : Prop :=
  ∃ octets port, parseAddress address = .connects octets port ∧
    (Binds config.publisherListenAddress config.publisherListenPort octets port ∨
      Binds config.subscriberListenAddress config.subscriberListenPort octets port)

/-- A spelling of a listener's endpoint: a host that `inet_pton` reads as the listen address, a colon and
a port text that `std::stoi` reads as the listen port or another one modulo 2^16, and no further colon but
one at the end. -/
def Spells (listenAddress : Bytes) (listenPort : Int) (text : Bytes) : Prop :=
  ∃ host portText value octets,
    (text = host ++ ascii ":" ++ portText ∨ text = host ++ ascii ":" ++ portText ++ ascii ":") ∧
    (58 : UInt8) ∉ host ∧ (58 : UInt8) ∉ portText ∧
    inetPton host = some octets ∧ inetPton listenAddress = some octets ∧
    Reads portText value ∧ value % 2 ^ 16 = listenPort % 2 ^ 16

theorem htons_eq {port port' : Int} : htons port = htons port' ↔ port % 2 ^ 16 = port' % 2 ^ 16 := by
  unfold htons
  omega

/-- The connector goes to a listener's endpoint on just the spellings of it. -/
theorem binds_iff {listenAddress text : Bytes} {listenPort : Int} :
    (∃ octets port, parseAddress text = .connects octets port ∧ Binds listenAddress listenPort octets port) ↔
      Spells listenAddress listenPort text := by
  unfold Binds Spells
  constructor
  · rintro ⟨octets, port, read, binds, own⟩
    obtain ⟨host, portText, value, pieces, port, reads, rfl⟩ := parse_connects.mp read
    obtain ⟨hostFree, back, rfl, rest⟩ := splitStr_two.mp pieces
    obtain ⟨portFree, shape⟩ := splitFrom_one.mp rest
    refine ⟨host, portText, value, octets, ?_, hostFree, portFree, reads, binds, stoi_reads.mp port,
      htons_eq.mp own⟩
    rcases shape with ⟨_, rfl⟩ | rfl
    · exact .inl (by simp [ascii])
    · exact .inr (by simp [ascii])
  · rintro ⟨host, portText, value, octets, shape, hostFree, portFree, reads, binds, port, same⟩
    refine ⟨octets, htons value, ?_, binds, htons_eq.mpr same⟩
    refine parse_connects.mpr ⟨host, portText, value, ?_, stoi_reads.mpr port, reads, rfl⟩
    have some_ : portText ≠ [] := by
      rintro rfl
      cases stoi_reads.mpr port
    rcases shape with rfl | rfl
    · rw [List.append_assoc]
      exact splitStr_two.mpr ⟨hostFree, _, rfl, splitFrom_one.mpr ⟨portFree, .inl ⟨some_, rfl⟩⟩⟩
    · rw [List.append_assoc, List.append_assoc]
      exact splitStr_two.mpr ⟨hostFree, _, rfl, splitFrom_one.mpr ⟨portFree, .inr rfl⟩⟩

theorem leadsToSelf_iff {config : RepeaterConfig} {address : Bytes} : LeadsToSelf config address ↔
    Spells config.publisherListenAddress config.publisherListenPort address ∨
      Spells config.subscriberListenAddress config.subscriberListenPort address := by
  rw [← binds_iff, ← binds_iff]
  simp only [LeadsToSelf, and_or_left, exists_or]

/-- A colon behind a listener's written address is enough to pass the filter. -/
theorem trailing_colon_passes (config : RepeaterConfig) {octets : List Nat}
    (colonFree : (58 : UInt8) ∉ config.publisherListenAddress)
    (binds : inetPton config.publisherListenAddress = some octets)
    (low : -2 ^ 31 ≤ config.publisherListenPort) (high : config.publisherListenPort < 2 ^ 31)
    (configured : GlobalContext.listenAddress config.publisherListenAddress config.publisherListenPort ++
      ascii ":" ∈ config.layerSubscribeAddresses) :
    LeadsToSelf config (GlobalContext.listenAddress config.publisherListenAddress
        config.publisherListenPort ++ ascii ":") ∧
      GlobalContext.listenAddress config.publisherListenAddress config.publisherListenPort ++ ascii ":" ∈
        (GlobalContext.init config).layerSubscribeAddresses := by
  have pieces := (splitStr_listenAddress colonFree config.publisherListenPort).2
  constructor
  · exact ⟨octets, _, parse_connects.mpr ⟨_, _, _, pieces, stoi_toString low high, binds, rfl⟩,
      .inl ⟨binds, rfl⟩⟩
  · rw [init_layerAddresses, List.mem_filter]
    refine ⟨configured, decide_eq_true ⟨fun same => ?_, fun same => ?_⟩⟩
    · have lengths := congrArg List.length same
      rw [List.length_append] at lengths
      simp [ascii] at lengths
    · obtain ⟨subscriberSome, subscriberFree⟩ := toString_plain config.subscriberListenPort
      have last := congrArg List.getLast? same
      unfold GlobalContext.listenAddress at last
      rw [List.getLast?_append_of_ne_nil _ (by decide),
        List.getLast?_append_of_ne_nil _ subscriberSome] at last
      exact subscriberFree (List.mem_of_getLast? last.symm)

/-- The filter leaves out the addresses that lead to the repeater itself, save for the spellings other than
the listen address, a colon and the listen port in decimal. -/
theorem self_address_filtered_iff (config : RepeaterConfig) {address : Bytes}
    (configured : address ∈ config.layerSubscribeAddresses) :
    (LeadsToSelf config address → address ∉ (GlobalContext.init config).layerSubscribeAddresses) ↔
      (¬ Spells config.publisherListenAddress config.publisherListenPort address ∧
        ¬ Spells config.subscriberListenAddress config.subscriberListenPort address) ∨
      address = config.publisherListenAddress ++ ascii ":" ++
          ascii (toString config.publisherListenPort) ∨
        address = config.subscriberListenAddress ++ ascii ":" ++
          ascii (toString config.subscriberListenPort) := by
  have excluded : address ∉ (GlobalContext.init config).layerSubscribeAddresses ↔
      address = GlobalContext.listenAddress config.publisherListenAddress config.publisherListenPort ∨
        address =
          GlobalContext.listenAddress config.subscriberListenAddress config.subscriberListenPort := by
    rw [init_layerAddresses, List.mem_filter, decide_eq_true_iff]
    constructor
    · intro kept
      by_contra neither
      exact kept ⟨configured, not_or.mp neither⟩
    · rintro (own | own) ⟨-, other⟩
      · exact other.1 own
      · exact other.2 own
  rw [excluded, leadsToSelf_iff, ← not_or, ← imp_iff_not_or]
  rfl

/-- The publisher's address as it is written in the log lines. -/
theorem self_address_filtered_plain :
    ascii "127.0.0.1:10001" ∉ (GlobalContext.init
      { layerSubscribeAddresses := [ascii "127.0.0.1:10001"]
        publisherListenAddress := ascii "127.0.0.1"
        publisherListenPort := 10001 }).layerSubscribeAddresses := by
  refine (self_address_filtered_iff
    { layerSubscribeAddresses := [ascii "127.0.0.1:10001"]
      publisherListenAddress := ascii "127.0.0.1"
      publisherListenPort := 10001 } List.mem_cons_self).mpr (.inr (.inl rfl)) ?_
  exact ⟨[127, 0, 0, 1], 10001, by decide, .inl ⟨by decide, by decide⟩⟩

/-- A port with a zero in front passes the filter and leads to the publisher. -/
theorem self_address_passes :
    LeadsToSelf
      { layerSubscribeAddresses := [ascii "127.0.0.1:010001"]
        publisherListenAddress := ascii "127.0.0.1"
        publisherListenPort := 10001 } (ascii "127.0.0.1:010001") ∧
    ascii "127.0.0.1:010001" ∈ (GlobalContext.init
      { layerSubscribeAddresses := [ascii "127.0.0.1:010001"]
        publisherListenAddress := ascii "127.0.0.1"
        publisherListenPort := 10001 }).layerSubscribeAddresses :=
  ⟨⟨[127, 0, 0, 1], 10001, by decide, .inl ⟨by decide, by decide⟩⟩, by decide⟩

end MessageRepeater.Layer
