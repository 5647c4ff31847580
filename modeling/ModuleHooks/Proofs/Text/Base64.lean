import ModuleHooks.Proofs.Text.Utf8
import ModuleHooks.Text.Base64

/-!
Base 64 read back. Digits stand for values of six bits, and the values of bytes are read as those bytes and
as no others. So a text in the alphabet for names is read if and only if it is what bytes are written as,
and what is padded is read as the bytes that it carries.
-/
namespace ModuleHooks.Base64

/-- An alphabet of 64 digits, each of one value. -/
structure IsAlphabet (alphabet : Text) : Prop where
  length : alphabet.length = 64
  distinct : alphabet.Nodup

theorem isAlphabet_standardDigits : IsAlphabet standardDigits := ⟨by decide, by decide +kernel⟩

theorem isAlphabet_nameDigits : IsAlphabet nameDigits := ⟨by decide, by decide +kernel⟩

/-! ## Values -/

/-- The values of the digits that bytes are written in. -/
def values : List UInt8 → List Nat
  | [] => []
  | [a] => [a.toNat / 4, a.toNat % 4 * 16]
  | [a, b] => [a.toNat / 4, a.toNat % 4 * 16 + b.toNat / 16, b.toNat % 16 * 4]
  | a :: b :: c :: rest =>
    a.toNat / 4 :: (a.toNat % 4 * 16 + b.toNat / 16) :: (b.toNat % 16 * 4 + c.toNat / 64) ::
      (c.toNat % 64) :: values rest

theorem encode_eq (alphabet : Text) (bytes : List UInt8) :
    encode alphabet bytes = (values bytes).map (digit alphabet) := by
  fun_induction encode alphabet bytes with
  | case4 a b c rest ih => rw [ih]; rfl
  | _ => rfl

theorem lt_of_mem_values {bytes : List UInt8} {n : Nat} (member : n ∈ values bytes) : n < 64 := by
  have byte (b : UInt8) : b.toNat < 256 := b.toNat_lt
  fun_induction values bytes with
  | case1 => exact nomatch member
  | case2 a =>
    have := byte a
    simp only [List.mem_cons, List.not_mem_nil, or_false] at member
    omega
  | case3 a b =>
    have := byte a
    have := byte b
    simp only [List.mem_cons, List.not_mem_nil, or_false] at member
    omega
  | case4 a b c rest ih =>
    have := byte a
    have := byte b
    have := byte c
    simp only [List.mem_cons] at member
    obtain first | second | third | fourth | later := member
    · omega
    · omega
    · omega
    · omega
    · exact ih later

/-- Bytes are read back from their values. -/
theorem bytes?_values (bytes : List UInt8) : bytes? (values bytes) = some bytes := by
  have byte_eq {n : Nat} {b : UInt8} (same : n = b.toNat) : Utf8.byte n = b := by rw [same, Utf8.byte_toNat]
  have small (b : UInt8) : b.toNat < 256 := b.toNat_lt
  fun_induction values bytes with
  | case1 => rfl
  | case2 a =>
    have := small a
    rw [bytes?, if_pos (by omega), byte_eq (b := a) (by omega)]
  | case3 a b =>
    have := small b
    rw [bytes?, if_pos (by omega), byte_eq (b := a) (by omega), byte_eq (b := b) (by omega)]
  | case4 a b c rest ih =>
    have := small b
    have := small c
    rw [bytes?, ih, byte_eq (b := a) (by omega), byte_eq (b := b) (by omega), byte_eq (b := c) (by omega)]
    rfl

/-- What is read as bytes are the values of those bytes. -/
theorem values_of_bytes? {ns : List Nat} {bytes : List UInt8} (small : ∀ n ∈ ns, n < 64)
    (read : bytes? ns = some bytes) : values bytes = ns := by
  fun_induction bytes? ns generalizing bytes with
  | case1 =>
    obtain rfl := Option.some.inj read
    rfl
  | case2 => exact nomatch read
  | case3 p q zero =>
    obtain rfl := Option.some.inj read
    have p_lt := small p (by simp)
    have q_lt := small q (by simp)
    simp only [values, Utf8.toNat_byte (n := p * 4 + q / 16) (by omega)]
    congr 1
    · omega
    · congr 1
      omega
  | case4 => exact nomatch read
  | case5 p q r zero =>
    obtain rfl := Option.some.inj read
    have p_lt := small p (by simp)
    have q_lt := small q (by simp)
    have r_lt := small r (by simp)
    simp only [values, Utf8.toNat_byte (n := p * 4 + q / 16) (by omega),
      Utf8.toNat_byte (n := q % 16 * 16 + r / 4) (by omega)]
    have first : (p * 4 + q / 16) / 4 = p := by omega
    have second : (p * 4 + q / 16) % 4 * 16 + (q % 16 * 16 + r / 4) / 16 = q := by omega
    have third : (q % 16 * 16 + r / 4) % 16 * 4 = r := by omega
    rw [first, second, third]
  | case6 => exact nomatch read
  | case7 p q r s rest ih =>
    obtain ⟨more, readRest, rfl⟩ := Option.map_eq_some_iff.1 read
    have p_lt := small p (by simp)
    have q_lt := small q (by simp)
    have r_lt := small r (by simp)
    have s_lt := small s (by simp)
    simp only [values, Utf8.toNat_byte (n := p * 4 + q / 16) (by omega),
      Utf8.toNat_byte (n := q % 16 * 16 + r / 4) (by omega), Utf8.toNat_byte (n := r % 4 * 64 + s) (by omega)]
    have first : (p * 4 + q / 16) / 4 = p := by omega
    have second : (p * 4 + q / 16) % 4 * 16 + (q % 16 * 16 + r / 4) / 16 = q := by omega
    have third : (q % 16 * 16 + r / 4) % 16 * 4 + (r % 4 * 64 + s) / 64 = r := by omega
    have fourth : (r % 4 * 64 + s) % 64 = s := by omega
    rw [first, second, third, fourth, ih (fun n member => small n (by simp [member])) readRest]

/-! ## Digits -/

namespace IsAlphabet

variable {alphabet : Text} (isAlphabet : IsAlphabet alphabet)
include isAlphabet

theorem digit_mem {n : Nat} (small : n < 64) : digit alphabet n ∈ alphabet := by
  have inside : n < alphabet.length := isAlphabet.length ▸ small
  rw [digit, List.getElem?_eq_getElem inside]
  exact List.getElem_mem inside

theorem idxOf?_digit {n : Nat} (small : n < 64) : alphabet.idxOf? (digit alphabet n) = some n := by
  have inside : n < alphabet.length := isAlphabet.length ▸ small
  rw [digit, List.getElem?_eq_getElem inside, Option.getD_some]
  refine List.idxOf?_eq_some_iff.2 ⟨inside, rfl, fun j earlier same => ?_⟩
  exact absurd ((List.getElem_inj isAlphabet.distinct).1 same) (Nat.ne_of_lt earlier)

theorem digit_of_idxOf? {c : Char} {n : Nat} (found : alphabet.idxOf? c = some n) :
    digit alphabet n = c ∧ n < 64 := by
  obtain ⟨inside, same, -⟩ := List.idxOf?_eq_some_iff.1 found
  rw [digit, List.getElem?_eq_getElem inside]
  exact ⟨same, isAlphabet.length ▸ inside⟩

/-- Values are read back from their digits. -/
theorem mapM_digits {ns : List Nat} (small : ∀ n ∈ ns, n < 64) :
    (ns.map (digit alphabet)).mapM (fun c => alphabet.idxOf? c) = some ns := by
  induction ns with
  | nil => rfl
  | cons n rest ih =>
    obtain ⟨first, others⟩ := List.forall_mem_cons.1 small
    rw [List.map_cons, List.mapM_cons, isAlphabet.idxOf?_digit first, ih others]
    rfl

theorem digits_of_mapM {s : Text} {ns : List Nat} (read : s.mapM (fun c => alphabet.idxOf? c) = some ns) :
    ns.map (digit alphabet) = s ∧ ∀ n ∈ ns, n < 64 := by
  induction s generalizing ns with
  | nil =>
    obtain rfl := Option.some.inj read
    simp
  | cons c s ih =>
    rw [List.mapM_cons] at read
    obtain ⟨n, first, read⟩ := Option.bind_eq_some_iff.1 read
    obtain ⟨others, readRest, same⟩ := Option.bind_eq_some_iff.1 read
    obtain rfl := Option.some.inj same
    obtain ⟨here, small⟩ := isAlphabet.digit_of_idxOf? first
    obtain ⟨rest, smallRest⟩ := ih readRest
    exact ⟨by rw [List.map_cons, here, rest], List.forall_mem_cons.2 ⟨small, smallRest⟩⟩

/-- Bytes are read back from what they are written as. -/
theorem decode?_encode (bytes : List UInt8) : decode? alphabet (encode alphabet bytes) = some bytes := by
  rw [decode?, encode_eq, isAlphabet.mapM_digits fun _ => lt_of_mem_values, Option.bind_some, bytes?_values]

/-- What is read as bytes is what they are written as. -/
theorem encode_of_decode? {s : Text} {bytes : List UInt8} (read : decode? alphabet s = some bytes) :
    encode alphabet bytes = s := by
  obtain ⟨ns, digits, whole⟩ := Option.bind_eq_some_iff.1 read
  obtain ⟨written, small⟩ := isAlphabet.digits_of_mapM digits
  rw [encode_eq, values_of_bytes? small whole, written]

theorem mem_of_mem_encode {bytes : List UInt8} {c : Char} (member : c ∈ encode alphabet bytes) :
    c ∈ alphabet := by
  rw [encode_eq] at member
  obtain ⟨n, value, rfl⟩ := List.mem_map.1 member
  exact isAlphabet.digit_mem (lt_of_mem_values value)

end IsAlphabet

/-! ## Padding -/

/-- The bytes that a text in the standard alphabet carries, if it is filled up as it has to be. -/
def ofPadded? (s : Text) : Option (List UInt8) :=
  let digits := Text.trimEndOf '=' s
  if s = digits ++ List.replicate ((4 - digits.length % 4) % 4) '=' then decode? standardDigits digits
  else none

theorem ofPadded?_padded (bytes : List UInt8) : ofPadded? (padded bytes) = some bytes := by
  have outside : '=' ∉ encode standardDigits bytes := fun member =>
    absurd (isAlphabet_standardDigits.mem_of_mem_encode member) (by decide)
  have trimmed (n : Nat) : Text.trimEndOf '=' (encode standardDigits bytes ++ List.replicate n '=') =
      encode standardDigits bytes := by
    have kept : (encode standardDigits bytes).reverse.dropWhile (· == '=') =
        (encode standardDigits bytes).reverse := by
      rw [← List.mem_reverse] at outside
      cases last : (encode standardDigits bytes).reverse with
      | nil => rfl
      | cons c rest =>
        rw [last] at outside
        refine List.dropWhile_cons_of_neg fun mark => outside ?_
        exact List.mem_cons.2 (.inl (eq_of_beq mark).symm)
    rw [Text.trimEndOf, List.reverse_append, List.reverse_replicate,
      List.dropWhile_append_of_pos (by simp), kept, List.reverse_reverse]
  rw [ofPadded?, padded, trimmed, if_pos rfl, isAlphabet_standardDigits.decode?_encode]

end ModuleHooks.Base64
