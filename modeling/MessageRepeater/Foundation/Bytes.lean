import Mathlib.Algebra.Group.Int.Defs
import Mathlib.Algebra.Group.Nat.Defs
import Mathlib.Data.List.TakeWhile

/-!
# Bytes, machine words and length-prefixed fields

Byte strings are lists of `UInt8`; machine integers are naturals with the wrap written out.
-/

namespace Foundation

abbrev Bytes := List UInt8

instance : LawfulBEq Bytes := inferInstance

/-- The bytes of an ASCII literal. -/
def ascii (text : String) : Bytes := text.toList.map fun c => UInt8.ofNat c.toNat

/-- `a - b` in 64-bit unsigned arithmetic. -/
def sub64 (a b : Nat) : Nat := (a + (2 ^ 64 - b)) % 2 ^ 64

/-- `a + b` in 64-bit unsigned arithmetic. -/
def add64 (a b : Nat) : Nat := (a + b) % 2 ^ 64

theorem sub64_of_le {a b : Nat} (le : b ≤ a) (lt : a < 2 ^ 64) : sub64 a b = a - b := by
  unfold sub64; omega

theorem add64_of_lt {a b : Nat} (lt : a + b < 2 ^ 64) : add64 a b = a + b := Nat.mod_eq_of_lt lt

/-- A signed integer converted to a 64-bit unsigned one. -/
def toUnsigned64 (n : Int) : Nat := (n % 2 ^ 64).toNat

/-! ### Big-endian 32-bit words -/

/-- The four bytes of a 32-bit word in network byte order. -/
def be32 (n : Nat) : Bytes :=
  [UInt8.ofNat (n / 2 ^ 24), UInt8.ofNat (n / 2 ^ 16), UInt8.ofNat (n / 2 ^ 8), UInt8.ofNat n]

/-- The number that bytes in network byte order stand for. -/
def ofBe (bytes : Bytes) : Nat := bytes.foldl (fun acc byte => acc * 256 + byte.toNat) 0

@[simp] theorem be32_length (n : Nat) : (be32 n).length = 4 := rfl

theorem ofBe_be32 {n : Nat} (lt : n < 2 ^ 32) : ofBe (be32 n) = n := by
  simp only [ofBe, be32, List.foldl_cons, List.foldl_nil, UInt8.toNat_ofNat']
  omega

theorem be32_ofBe {bytes : Bytes} (four : bytes.length = 4) : be32 (ofBe bytes) = bytes := by
  match bytes, four with
  | [a, b, c, d], _ =>
    have ha := a.toNat_lt
    have hb := b.toNat_lt
    have hc := c.toNat_lt
    have hd := d.toNat_lt
    simp only [ofBe, be32, List.foldl_cons, List.foldl_nil, List.cons.injEq, and_true]
    refine ⟨?_, ?_, ?_, ?_⟩
    all_goals
      apply UInt8.toNat_inj.mp
      rw [UInt8.toNat_ofNat']
      omega

theorem ofBe_lt {bytes : Bytes} (four : bytes.length = 4) : ofBe bytes < 2 ^ 32 := by
  match bytes, four with
  | [a, b, c, d], _ =>
    have ha := a.toNat_lt
    have hb := b.toNat_lt
    have hc := c.toNat_lt
    have hd := d.toNat_lt
    simp only [ofBe, List.foldl_cons, List.foldl_nil]
    omega

/-- A byte string behind its 32-bit length. -/
def field (bytes : Bytes) : Bytes := be32 bytes.length ++ bytes

@[simp] theorem field_length (bytes : Bytes) : (field bytes).length = 4 + bytes.length := by
  simp [field]

/-- A field says where it ends: what follows it is read off uniquely. -/
theorem field_append_inj {bytes bytes' rest rest' : Bytes} (lt : bytes.length < 2 ^ 32)
    (lt' : bytes'.length < 2 ^ 32) (same : field bytes ++ rest = field bytes' ++ rest') :
    bytes = bytes' ∧ rest = rest' := by
  simp only [field, List.append_assoc] at same
  obtain ⟨words, tails⟩ := List.append_inj same (by simp)
  have lengths : bytes.length = bytes'.length := by
    rw [← ofBe_be32 lt, words, ofBe_be32 lt']
  exact List.append_inj tails lengths

/-! ### C strings -/

/-- The C string that starts at a buffer's first byte. -/
def cString (buffer : Bytes) : Bytes := buffer.takeWhile (· ≠ 0)

/-- Reading a buffer as a C string keeps it whole exactly when it holds no NUL. -/
theorem cString_eq_self {buffer : Bytes} : cString buffer = buffer ↔ (0 : UInt8) ∉ buffer := by
  constructor
  · intro whole zero
    rw [← whole] at zero
    have nonzero := List.mem_takeWhile_imp zero
    simp at nonzero
  · intro absent
    apply List.takeWhile_eq_self_iff.mpr
    intro byte present
    simp only [ne_eq, decide_not, Bool.not_eq_eq_eq_not, Bool.not_true, decide_eq_false_iff_not]
    rintro rfl
    exact absent present

theorem cString_length_le (buffer : Bytes) : (cString buffer).length ≤ buffer.length :=
  (List.takeWhile_sublist _).length_le

theorem cString_append_nul (bytes : Bytes) : cString (bytes ++ [0]) = cString bytes := by
  induction bytes with
  | nil => rfl
  | cons byte rest ih =>
    simp only [cString, List.cons_append, List.takeWhile_cons] at ih ⊢
    split
    · rw [ih]
    · rfl

end Foundation
