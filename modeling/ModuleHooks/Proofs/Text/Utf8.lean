import ModuleHooks.Text.Utf8

/-!
UTF-8 read back. Every text is read from its bytes (`decode?_encode`), and bytes that are read at all are
those of the text that they are read as (`encode_of_decode?`): nothing is spelled in two ways.
-/
namespace ModuleHooks.Utf8

theorem toNat_byte {n : Nat} (small : n < 256) : (byte n).toNat = n := by
  rw [byte, UInt8.toNat_ofNat', Nat.mod_eq_of_lt small]

theorem byte_toNat (b : UInt8) : byte b.toNat = b := UInt8.ofNat_toNat

/-! ## First bytes -/

theorem lead?_one {b : Nat} (high : b < 0x80) : lead? b = some ⟨b, 0, 0x80, 0xBF⟩ := by
  rw [lead?, if_pos high]

theorem lead?_two {b : Nat} (low : 0xC2 ≤ b) (high : b < 0xE0) :
    lead? b = some ⟨b - 0xC0, 1, 0x80, 0xBF⟩ := by
  rw [lead?, if_neg (by omega), if_neg (by omega), if_pos high]

/-- The first byte of three, with what may follow it. -/
theorem lead?_three {b : Nat} (low : 0xE0 ≤ b) (high : b < 0xF0) :
    ∃ least most, lead? b = some ⟨b - 0xE0, 2, least, most⟩ ∧
      ∀ x, least ≤ x ∧ x ≤ most ↔
        (0x80 ≤ x ∧ x ≤ 0xBF) ∧ (b = 0xE0 → 0xA0 ≤ x) ∧ (b = 0xED → x < 0xA0) := by
  unfold lead?
  rw [if_neg (by omega), if_neg (by omega), if_neg (by omega)]
  by_cases first : b = 0xE0
  · subst first
    exact ⟨0xA0, 0xBF, rfl, by omega⟩
  by_cases surrogates : b = 0xED
  · subst surrogates
    exact ⟨0x80, 0x9F, rfl, by omega⟩
  · rw [if_neg first, if_neg surrogates, if_pos high]
    exact ⟨0x80, 0xBF, rfl, by omega⟩

/-- The first byte of four, with what may follow it. -/
theorem lead?_four {b : Nat} (low : 0xF0 ≤ b) (high : b < 0xF5) :
    ∃ least most, lead? b = some ⟨b - 0xF0, 3, least, most⟩ ∧
      ∀ x, least ≤ x ∧ x ≤ most ↔
        (0x80 ≤ x ∧ x ≤ 0xBF) ∧ (b = 0xF0 → 0x90 ≤ x) ∧ (b = 0xF4 → x < 0x90) := by
  unfold lead?
  rw [if_neg (by omega), if_neg (by omega), if_neg (by omega), if_neg (by omega), if_neg (by omega),
    if_neg (by omega)]
  by_cases first : b = 0xF0
  · subst first
    exact ⟨0x90, 0xBF, rfl, by omega⟩
  by_cases last : b = 0xF4
  · subst last
    exact ⟨0x80, 0x8F, rfl, by omega⟩
  · rw [if_neg first, if_neg last, if_pos (by omega)]
    exact ⟨0x80, 0xBF, rfl, by omega⟩

theorem lead?_cases {b : Nat} {l : Lead} (lead : lead? b = some l) :
    b < 0x80 ∨ (0xC2 ≤ b ∧ b < 0xE0) ∨ (0xE0 ≤ b ∧ b < 0xF0) ∨ (0xF0 ≤ b ∧ b < 0xF5) := by
  by_cases inside : b < 0x80 ∨ 0xC2 ≤ b ∧ b < 0xF5
  · omega
  · have nothing : lead? b = none := by
      unfold lead?
      split
      · omega
      by_cases low : b < 0xC2
      · rw [if_pos low]
      · rw [if_neg low, if_neg (by omega), if_neg (by omega), if_neg (by omega), if_neg (by omega),
          if_neg (by omega), if_neg (by omega), if_neg (by omega)]
    exact nomatch nothing.symm.trans lead

/-! ## Following bytes -/

theorem following_cons {low high n bits k : Nat} (small : k < 64)
    (inside : low ≤ 0x80 + k ∧ 0x80 + k ≤ high) (rest : List UInt8) :
    following low high (n + 1) bits (byte (0x80 + k) :: rest) =
      following 0x80 0xBF n (bits * 64 + k) rest := by
  have value : (byte (0x80 + k)).toNat = 0x80 + k := toNat_byte (by omega)
  have low : (0x80 + k) % 64 = k := by omega
  simp [following, value, inside, low]

/-- A following byte that was read has six bits for the code point. -/
theorem following_some {low high n bits code : Nat} {bytes rest : List UInt8}
    (bounds : ∀ x, low ≤ x ∧ x ≤ high → 0x80 ≤ x ∧ x ≤ 0xBF)
    (read : following low high (n + 1) bits bytes = (some code, rest)) :
    ∃ k more, k < 64 ∧ (low ≤ 0x80 + k ∧ 0x80 + k ≤ high) ∧ bytes = byte (0x80 + k) :: more ∧
      following 0x80 0xBF n (bits * 64 + k) more = (some code, rest) := by
  cases bytes with
  | nil => cases congrArg Prod.fst read
  | cons b more =>
    unfold following at read
    by_cases inside : low ≤ b.toNat ∧ b.toNat ≤ high
    · have range := bounds _ inside
      have value : 0x80 + b.toNat % 64 = b.toNat := by omega
      rw [if_pos (by simpa using inside)] at read
      refine ⟨b.toNat % 64, more, by omega, by rwa [value], ?_, read⟩
      rw [value, byte_toNat]
    · rw [if_neg (by simpa using inside)] at read
      cases congrArg Prod.fst read

theorem following_done {low high bits code : Nat} {bytes rest : List UInt8}
    (read : following low high 0 bits bytes = (some code, rest)) : bits = code ∧ bytes = rest := by
  cases read
  exact ⟨rfl, rfl⟩

theorem next_of_lead {b bits n low high code : Nat} {rest left : List UInt8} (small : b < 256)
    (lead : lead? b = some ⟨bits, n, low, high⟩)
    (followed : following low high n bits rest = (some code, left)) :
    next (byte b) rest = (some (Char.ofNat code), left) := by
  rw [next, toNat_byte small, lead]
  dsimp only
  rw [followed]
  rfl

theorem next_some {b : UInt8} {c : Char} {rest left : List UInt8} (read : next b rest = (some c, left)) :
    ∃ bits n low high code, lead? b.toNat = some ⟨bits, n, low, high⟩ ∧
      following low high n bits rest = (some code, left) ∧ c = Char.ofNat code := by
  unfold next at read
  cases lead : lead? b.toNat with
  | none =>
    rw [lead] at read
    exact nomatch congrArg Prod.fst read
  | some l =>
    obtain ⟨bits, n, low, high⟩ := l
    rw [lead] at read
    dsimp only at read
    rcases found : following low high n bits rest with ⟨code, more⟩
    rw [found] at read
    obtain ⟨code, rfl, same⟩ := Option.map_eq_some_iff.1 (congrArg Prod.fst read)
    obtain rfl : more = left := congrArg Prod.snd read
    exact ⟨bits, n, low, high, code, rfl, found, same.symm⟩

/-! ## Characters -/

/-- The code point of a character is no surrogate, nor is it beyond the last. -/
theorem toNat_scalar (c : Char) : c.toNat < 0xD800 ∨ 0xDFFF < c.toNat ∧ c.toNat < 0x110000 := c.valid

theorem toNat_ofNat {n : Nat} (scalar : n < 0xD800 ∨ 0xDFFF < n ∧ n < 0x110000) :
    (Char.ofNat n).toNat = n := by
  rw [Char.ofNat, dif_pos scalar]
  rfl

/-- A character is read from its bytes, whatever stands behind them. -/
theorem characters_encodeChar (c : Char) (rest : List UInt8) :
    characters (encodeChar c ++ rest) = some c :: characters rest := by
  have scalar := toNat_scalar c
  have whole {bytes : List UInt8} {b : UInt8} (read : next b bytes = (some (Char.ofNat c.toNat), rest)) :
      characters (b :: bytes) = some c :: characters rest := by
    rw [characters, read, Char.ofNat_toNat]
  unfold encodeChar
  generalize c.toNat = n at scalar whole ⊢
  by_cases one : n < 0x80
  · simp only [if_pos one, List.cons_append, List.nil_append]
    exact whole (next_of_lead (by omega) (lead?_one one) rfl)
  by_cases two : n < 0x800
  · simp only [if_neg one, if_pos two, List.cons_append, List.nil_append]
    have code : (0xC0 + n / 64 - 0xC0) * 64 + n % 64 = n := by omega
    refine whole (next_of_lead (by omega) (lead?_two (by omega) (by omega)) ?_)
    rw [following_cons (by omega) (by omega), code]
    rfl
  by_cases three : n < 0x10000
  · simp only [if_neg one, if_neg two, if_pos three, List.cons_append, List.nil_append]
    have code : ((0xE0 + n / 4096 - 0xE0) * 64 + n / 64 % 64) * 64 + n % 64 = n := by omega
    obtain ⟨least, most, lead, inside⟩ := lead?_three (b := 0xE0 + n / 4096) (by omega) (by omega)
    refine whole (next_of_lead (by omega) lead ?_)
    rw [following_cons (by omega) ((inside _).2 (by omega)), following_cons (by omega) (by omega), code]
    rfl
  · simp only [if_neg one, if_neg two, if_neg three, List.cons_append, List.nil_append]
    have code : (((0xF0 + n / 262144 - 0xF0) * 64 + n / 4096 % 64) * 64 + n / 64 % 64) * 64 + n % 64 = n := by
      omega
    obtain ⟨least, most, lead, inside⟩ := lead?_four (b := 0xF0 + n / 262144) (by omega) (by omega)
    refine whole (next_of_lead (by omega) lead ?_)
    rw [following_cons (by omega) ((inside _).2 (by omega)), following_cons (by omega) (by omega),
      following_cons (by omega) (by omega), code]
    rfl

/-- A character that was read stands in the bytes. -/
theorem encodeChar_of_next {b : UInt8} {rest left : List UInt8} {c : Char}
    (read : next b rest = (some c, left)) : b :: rest = encodeChar c ++ left := by
  obtain ⟨bits, following, least, most, code, lead, followed, rfl⟩ := next_some read
  have start := byte_toNat b
  generalize b.toNat = n at lead start
  subst start
  obtain one | ⟨low, high⟩ | ⟨low, high⟩ | ⟨low, high⟩ := lead?_cases lead
  · obtain ⟨rfl, rfl, rfl, rfl⟩ := Lead.mk.inj (Option.some.inj ((lead?_one one).symm.trans lead))
    obtain ⟨rfl, rfl⟩ := following_done followed
    rw [encodeChar, toNat_ofNat (by omega), if_pos one]
    rfl
  · obtain ⟨rfl, rfl, rfl, rfl⟩ := Lead.mk.inj (Option.some.inj ((lead?_two low high).symm.trans lead))
    obtain ⟨k, more, small, -, rfl, done⟩ := following_some (fun _ => id) followed
    obtain ⟨rfl, rfl⟩ := following_done done
    have first : 0xC0 + ((n - 0xC0) * 64 + k) / 64 = n := by omega
    have second : ((n - 0xC0) * 64 + k) % 64 = k := by omega
    rw [encodeChar, toNat_ofNat (by omega), if_neg (by omega), if_pos (by omega), first, second]
    rfl
  · obtain ⟨least', most', lead', inside⟩ := lead?_three low high
    obtain ⟨rfl, rfl, rfl, rfl⟩ := Lead.mk.inj (Option.some.inj (lead'.symm.trans lead))
    obtain ⟨j, more, smallJ, range, rfl, further⟩ :=
      following_some (fun x within => ((inside x).1 within).1) followed
    obtain ⟨k, more, small, -, rfl, done⟩ := following_some (fun _ => id) further
    obtain ⟨rfl, rfl⟩ := following_done done
    have range := (inside _).1 range
    have first : 0xE0 + (((n - 0xE0) * 64 + j) * 64 + k) / 4096 = n := by omega
    have second : (((n - 0xE0) * 64 + j) * 64 + k) / 64 % 64 = j := by omega
    have third : (((n - 0xE0) * 64 + j) * 64 + k) % 64 = k := by omega
    rw [encodeChar, toNat_ofNat (by omega), if_neg (by omega), if_neg (by omega), if_pos (by omega),
      first, second, third]
    rfl
  · obtain ⟨least', most', lead', inside⟩ := lead?_four low high
    obtain ⟨rfl, rfl, rfl, rfl⟩ := Lead.mk.inj (Option.some.inj (lead'.symm.trans lead))
    obtain ⟨i, more, smallI, range, rfl, further⟩ :=
      following_some (fun x within => ((inside x).1 within).1) followed
    obtain ⟨j, more, smallJ, -, rfl, last⟩ := following_some (fun _ => id) further
    obtain ⟨k, more, small, -, rfl, done⟩ := following_some (fun _ => id) last
    obtain ⟨rfl, rfl⟩ := following_done done
    have range := (inside _).1 range
    have first : 0xF0 + ((((n - 0xF0) * 64 + i) * 64 + j) * 64 + k) / 262144 = n := by omega
    have second : ((((n - 0xF0) * 64 + i) * 64 + j) * 64 + k) / 4096 % 64 = i := by omega
    have third : ((((n - 0xF0) * 64 + i) * 64 + j) * 64 + k) / 64 % 64 = j := by omega
    have fourth : ((((n - 0xF0) * 64 + i) * 64 + j) * 64 + k) % 64 = k := by omega
    rw [encodeChar, toNat_ofNat (by omega), if_neg (by omega), if_neg (by omega), if_neg (by omega),
      first, second, third, fourth]
    rfl

/-! ## Texts -/

/-- A text is read back from its bytes. -/
theorem decode?_encode (s : Text) : decode? (encode s) = some s := by
  induction s with
  | nil => rw [decode?, encode, List.flatMap_nil, characters]; rfl
  | cons c s ih =>
    have others : (characters (encode s)).mapM id = some s := ih
    show (characters (encodeChar c ++ encode s)).mapM id = _
    rw [characters_encodeChar, List.mapM_cons, others]
    rfl

/-- Bytes that are read are those of the text. -/
theorem encode_of_decode? {bytes : List UInt8} {s : Text} (read : decode? bytes = some s) :
    encode s = bytes := by
  unfold decode? at read
  induction bytes using characters.induct generalizing s with
  | case1 =>
    rw [characters] at read
    obtain rfl : [] = s := Option.some.inj read
    rfl
  | case2 b rest ih =>
    rw [characters, List.mapM_cons] at read
    obtain ⟨c, first, read⟩ := Option.bind_eq_some_iff.1 read
    obtain ⟨more, others, same⟩ := Option.bind_eq_some_iff.1 read
    obtain rfl := Option.some.inj same
    have here := encodeChar_of_next (Prod.ext (first : (next b rest).1 = some c) rfl)
    show encodeChar c ++ encode more = _
    rw [ih others, here]

end ModuleHooks.Utf8
