import ModuleHooks.Json.Reader
import ModuleHooks.Proofs.Decimal.Shortest
import ModuleHooks.Proofs.Json.Members
import ModuleHooks.Proofs.Json.Written

/-!
JSON values that are written and read again. A whole number comes back as itself, and a binary number is written as
one that can be read (`exists_number?_literal`), though another one may be read then. So the text of a value that was
read can be read, and but for binary numbers the value comes back; it comes back as it was if all its numbers are
integers (`parse?_write`).
-/
namespace ModuleHooks

open JsonToken

/-- A number without what writing it may change: a binary one keeps its sign only. -/
def JsonNumber.masked : JsonNumber → JsonNumber
  | .whole n => .whole n
  | .binary x => .binary ⟨x.negative, .zero⟩

/-- The numbers that writing leaves as they are. Zero with a sign is one, though it is not read as a whole number. -/
def JsonNumber.IsInteger : JsonNumber → Prop
  | .whole _ => True
  | .binary x => x.magnitude = .zero

/-- The numbers that can be read. -/
def JsonNumber.InRange : JsonNumber → Prop
  | .whole n => -(2 ^ 63) ≤ n ∧ n < 2 ^ 64
  | .binary x => x.magnitude.IsFinite

namespace Json

/-! ## The value of digits -/

theorem hexValue_of_isDigit {c : Char} (digit : c.isDigit = true) : hexValue c = c.toNat - '0'.toNat := if_pos digit

/-- The number that digits spell behind another one. -/
theorem foldl_hexValue {s : Text} (digits : ∀ c ∈ s, c.isDigit = true) (n : Nat) :
    s.foldl (fun n d => n * 10 + hexValue d) n = Nat.ofDigitChars 10 s n := by
  induction s generalizing n with
  | nil => rfl
  | cons c s ih =>
    obtain ⟨digit, others⟩ := List.forall_mem_cons.1 digits
    rw [List.foldl_cons, ih others, Nat.ofDigitChars_cons, hexValue_of_isDigit digit, Nat.mul_comm]

theorem digitsValue_eq {s : Text} (digits : ∀ c ∈ s, c.isDigit = true) :
    digitsValue s = Nat.ofDigitChars 10 s 0 := foldl_hexValue digits 0

theorem le_ofDigitChars (s : Text) (n : Nat) : n ≤ Nat.ofDigitChars 10 s n := by
  rw [Nat.ofDigitChars_eq_ofDigitChars_zero]
  exact Nat.le_add_right_of_le (Nat.le_mul_of_pos_left n (Nat.pow_pos (by decide)))

theorem ofDigitChars_lt {s : Text} (digits : ∀ c ∈ s, c.isDigit = true) :
    Nat.ofDigitChars 10 s 0 < 10 ^ s.length := by
  induction s with
  | nil => decide
  | cons c s ih =>
    obtain ⟨digit, others⟩ := List.forall_mem_cons.1 digits
    have nine : c.toNat - '0'.toNat ≤ 9 := by
      have bounds : 48 ≤ c.toNat ∧ c.toNat ≤ 57 := by
        simpa [Char.isDigit, UInt32.le_iff_toNat_le] using digit
      have zero : '0'.toNat = 48 := rfl
      omega
    have rest := ih others
    have most : 10 ^ s.length * (c.toNat - '0'.toNat) ≤ 10 ^ s.length * 9 := Nat.mul_le_mul_left _ nine
    rw [Nat.ofDigitChars_cons, Nat.ofDigitChars_eq_ofDigitChars_zero, List.length_cons, Nat.pow_succ, Nat.mul_zero,
      Nat.zero_add]
    omega

/-- All the digits are kept of a significand that has room. -/
theorem significand_eq {s : Text} (digits : ∀ c ∈ s, c.isDigit = true) {n : Nat}
    (room : Nat.ofDigitChars 10 s n ≤ largestSignificand) : significand n s = (Nat.ofDigitChars 10 s n, 0) := by
  induction s generalizing n with
  | nil => rfl
  | cons c s ih =>
    obtain ⟨digit, others⟩ := List.forall_mem_cons.1 digits
    rw [Nat.ofDigitChars_cons, ← hexValue_of_isDigit digit, Nat.mul_comm] at room ⊢
    unfold significand
    dsimp only
    rw [if_pos ((le_ofDigitChars s _).trans room)]
    exact ih others room

/-! ## Numbers -/

theorem binaryNumber?_eq {n : NumberLiteral} (written : n.IsWritten)
    (room : Nat.ofDigitChars 10 n.digits 0 ≤ largestSignificand) :
    binaryNumber? n =
      (Magnitude.ofDecimal? (Nat.ofDigitChars 10 n.digits 0) n.lastPlace).map fun m => .binary ⟨n.negative, m⟩ := by
  rw [NumberLiteral.digits, Nat.ofDigitChars_append] at room ⊢
  have whole := significand_eq written.whole.inside ((le_ofDigitChars _ _).trans room)
  have all := significand_eq written.fraction room
  have place : n.lastPlace = ((0 : Nat) : Int) - (n.fraction.length - 0 : Nat) +
      (if n.exponentNegative then -(digitsValue n.exponent : Int) else digitsValue n.exponent) := by
    rw [digitsValue_eq written.exponent]
    unfold NumberLiteral.lastPlace
    omega
  unfold binaryNumber?
  rw [whole]
  dsimp only
  rw [all, place]

/-- What is read is in range. -/
theorem inRange_of_number? {n : NumberLiteral} {number : JsonNumber} (read : number? n = some number) :
    number.InRange := by
  unfold number? at read
  dsimp only at read
  split at read
  case isTrue fits =>
    obtain rfl := Option.some.inj read
    have small : digitsValue n.whole < 2 ^ 64 := fits.2.2
    constructor <;> omega
  case isFalse =>
    split at read
    case isTrue fits =>
      obtain rfl := Option.some.inj read
      have small : digitsValue n.whole ≤ 2 ^ 63 := fits.2.2.2
      constructor <;> omega
    case isFalse =>
      unfold binaryNumber? at read
      dsimp only at read
      obtain ⟨m, rounded, rfl⟩ := Option.map_eq_some_iff.1 read
      exact Magnitude.isFinite_of_ofDecimal? rounded

theorem literal_whole (n : Int) : literal (.whole n) = wholeLiteral n := by
  have read := numberLiteral_writeNumber (.whole n) .nil
  rw [writeNumber_whole, (isWritten_wholeLiteral n).numberLiteral .nil] at read
  exact (Prod.mk.inj (Option.some.inj read)).1.symm

theorem exists_literal_binary (x : Binary64) :
    let d := Decimal.shortest x.magnitude
    (literal (.binary x)).negative = x.negative ∧
      Decimal.Denotes (d.write numberSpelling) (Text.ofNat d.digits) d.exponent 17 (literal (.binary x)) := by
  obtain ⟨n, sign, denotes⟩ := exists_binaryLiteral x
  have read := numberLiteral_writeNumber (.binary x) .nil
  rw [writeNumber, ← denotes.text, ← sign, denotes.written.numberLiteral .nil] at read
  have same := (Prod.mk.inj (Option.some.inj read)).1
  exact ⟨same ▸ sign, same ▸ denotes⟩

/-- A number in range is read from what is written for it, but for the value of a binary one. -/
theorem exists_number?_literal {number : JsonNumber} (range : number.InRange) :
    ∃ again, number? (literal number) = some again ∧ again.masked = number.masked := by
  cases number with
  | whole n =>
    refine ⟨.whole n, ?_, rfl⟩
    obtain ⟨least, most⟩ := range
    have value : digitsValue (wholeLiteral n).whole = n.natAbs := by
      rw [digitsValue_eq (isWritten_wholeLiteral n).whole.inside]
      simp [wholeLiteral, ofNat_eq_toDigits]
    have large : twoTo 64 = 2 ^ 64 := rfl
    have low : twoTo 63 = 2 ^ 63 := rfl
    rw [literal_whole]
    unfold number?
    dsimp only
    rw [value]
    by_cases negative : n < 0
    · rw [if_neg (by simp [wholeLiteral, negative]), if_pos]
      · congr 2
        omega
      · refine ⟨rfl, by simpa [wholeLiteral] using negative, ?_, ?_⟩ <;> omega
    · rw [if_pos]
      · congr 2
        omega
      · refine ⟨rfl, by simpa [wholeLiteral] using negative, ?_⟩
        omega
  | binary x =>
    obtain ⟨sign, written, -, broken, zeros, value, place, few⟩ := exists_literal_binary x
    generalize literal (.binary x) = n at sign written broken value place few ⊢
    rw [ofNat_eq_toDigits, Nat.ofDigitChars_ten_toDigits] at value
    have both : Nat.ofDigitChars 10 n.digits 0 ≤ 10 ^ 17 ∧
        (Magnitude.ofDecimal? (Nat.ofDigitChars 10 n.digits 0) n.lastPlace).isSome = true := by
      obtain rfl | ⟨short, behind⟩ := few
      · have same : n.lastPlace = (Decimal.shortest x.magnitude).exponent := by omega
        rw [value, same, Nat.pow_zero, Nat.mul_one]
        exact ⟨Decimal.digits_shortest_le _, Decimal.ofDecimal?_shortest range⟩
      · have inside : ∀ c ∈ n.digits, c.isDigit = true := fun c member =>
          (List.mem_append.1 member).elim (written.whole.inside c) (written.fraction c)
        have small : Nat.ofDigitChars 10 n.digits 0 ≤ 10 ^ 17 :=
          (ofDigitChars_lt inside).le.trans (Nat.pow_le_pow_right (by decide) short)
        exact ⟨small, Magnitude.ofDecimal?_isSome small fun positive => by omega⟩
    obtain ⟨small, reads⟩ := both
    obtain ⟨m, reads⟩ := Option.isSome_iff_exists.1 reads
    refine ⟨.binary ⟨n.negative, m⟩, ?_, by rw [sign]; rfl⟩
    unfold number?
    rw [if_neg (by simp [broken]), if_neg (by simp [broken]),
      binaryNumber?_eq written (small.trans (by decide)), reads]
    rfl

/-! ## The numbers of a value -/

mutual

/-- The numbers in a value. -/
def numbers : Json → List JsonNumber
  | .number n => [n]
  | .array items => itemNumbers items
  | .object members => memberNumbers members
  | _ => []

/-- The numbers in items. -/
def itemNumbers : List Json → List JsonNumber
  | [] => []
  | item :: items => numbers item ++ itemNumbers items

/-- The numbers in the values of members. -/
def memberNumbers : List (Text × Json) → List JsonNumber
  | [] => []
  | (_, value) :: members => numbers value ++ memberNumbers members

end

mutual

/-- The value with other numbers. -/
def mapNumbers (f : JsonNumber → JsonNumber) : Json → Json
  | .null => .null
  | .bool b => .bool b
  | .number n => .number (f n)
  | .string s => .string s
  | .array items => .array (mapItemNumbers f items)
  | .object members => .object (mapMemberNumbers f members)

/-- The items with other numbers. -/
def mapItemNumbers (f : JsonNumber → JsonNumber) : List Json → List Json
  | [] => []
  | item :: items => mapNumbers f item :: mapItemNumbers f items

/-- The members with other numbers. -/
def mapMemberNumbers (f : JsonNumber → JsonNumber) : List (Text × Json) → List (Text × Json)
  | [] => []
  | (name, value) :: members => (name, mapNumbers f value) :: mapMemberNumbers f members

end

/-- What holds of a value if it holds of the values in it, holds of every value. -/
theorem induct {motive : Json → Prop} (null : motive .null) (bool : ∀ b, motive (.bool b))
    (number : ∀ n, motive (.number n)) (string : ∀ s, motive (.string s))
    (array : ∀ items, (∀ item ∈ items, motive item) → motive (.array items))
    (object : ∀ members, (∀ member ∈ members, motive member.2) → motive (.object members)) (v : Json) :
    motive v := by
  cases v with
  | null => exact null
  | bool b => exact bool b
  | number n => exact number n
  | string s => exact string s
  | array items => exact array items fun item _ => induct null bool number string array object item
  | object members => exact object members fun member _ => induct null bool number string array object member.2
termination_by sizeOf v
decreasing_by
  · have smaller := List.sizeOf_lt_of_mem ‹item ∈ items›
    simp only [Json.array.sizeOf_spec]
    omega
  · have smaller := List.sizeOf_lt_of_mem ‹member ∈ members›
    cases member
    simp only [Prod.mk.sizeOf_spec] at smaller
    simp only [Json.object.sizeOf_spec]
    omega

theorem itemNumbers_eq_flatMap (items : List Json) : itemNumbers items = items.flatMap numbers := by
  induction items with
  | nil => rfl
  | cons item items ih => rw [itemNumbers, ih, List.flatMap_cons]

theorem memberNumbers_eq_flatMap (members : List (Text × Json)) :
    memberNumbers members = members.flatMap fun member => numbers member.2 := by
  induction members with
  | nil => rfl
  | cons member members ih => rw [memberNumbers, ih, List.flatMap_cons]

theorem mapItemNumbers_eq_map (f : JsonNumber → JsonNumber) (items : List Json) :
    mapItemNumbers f items = items.map (mapNumbers f) := by
  induction items with
  | nil => rfl
  | cons item items ih => rw [mapItemNumbers, ih, List.map_cons]

theorem mapMemberNumbers_eq_map (f : JsonNumber → JsonNumber) (members : List (Text × Json)) :
    mapMemberNumbers f members = members.map fun member => (member.1, mapNumbers f member.2) := by
  induction members with
  | nil => rfl
  | cons member members ih => rw [mapMemberNumbers, ih, List.map_cons]

theorem mem_numbers_array {items : List Json} {n : JsonNumber} :
    n ∈ numbers (.array items) ↔ ∃ item ∈ items, n ∈ numbers item := by
  rw [numbers, itemNumbers_eq_flatMap, List.mem_flatMap]

theorem mem_numbers_object {members : List (Text × Json)} {n : JsonNumber} :
    n ∈ numbers (.object members) ↔ ∃ member ∈ members, n ∈ numbers member.2 := by
  rw [numbers, memberNumbers_eq_flatMap, List.mem_flatMap]

theorem mapNumbers_congr {f g : JsonNumber → JsonNumber} {v : Json} (same : ∀ n ∈ numbers v, f n = g n) :
    mapNumbers f v = mapNumbers g v := by
  induction v using induct with
  | null | bool | string => rw [mapNumbers, mapNumbers]
  | number n => rw [mapNumbers, mapNumbers, same n (by simp [numbers])]
  | array items ih =>
    rw [mapNumbers, mapNumbers, mapItemNumbers_eq_map, mapItemNumbers_eq_map]
    congr 1
    refine List.map_congr_left fun item member => ih item member fun n inside => ?_
    exact same n (mem_numbers_array.2 ⟨item, member, inside⟩)
  | object members ih =>
    rw [mapNumbers, mapNumbers, mapMemberNumbers_eq_map, mapMemberNumbers_eq_map]
    congr 1
    refine List.map_congr_left fun member there => Prod.ext rfl (ih member there fun n inside => ?_)
    exact same n (mem_numbers_object.2 ⟨member, there, inside⟩)

theorem mapNumbers_id (v : Json) : mapNumbers id v = v := by
  induction v using induct with
  | null | bool | string | number => rfl
  | array items ih =>
    rw [mapNumbers, mapItemNumbers_eq_map]
    congr 1
    calc items.map (mapNumbers id) = items.map id := List.map_congr_left ih
      _ = items := List.map_id items
  | object members ih =>
    rw [mapNumbers, mapMemberNumbers_eq_map]
    congr 1
    calc members.map (fun member => (member.1, mapNumbers id member.2)) = members.map id :=
          List.map_congr_left fun member there => Prod.ext rfl (by simpa using ih member there)
      _ = members := List.map_id members

theorem mapNumbers_mapNumbers (f g : JsonNumber → JsonNumber) (v : Json) :
    mapNumbers f (mapNumbers g v) = mapNumbers (f ∘ g) v := by
  induction v using induct with
  | null | bool | string | number => rfl
  | array items ih =>
    rw [mapNumbers, mapNumbers, mapNumbers, mapItemNumbers_eq_map, mapItemNumbers_eq_map, mapItemNumbers_eq_map,
      List.map_map]
    congr 1
    exact List.map_congr_left ih
  | object members ih =>
    rw [mapNumbers, mapNumbers, mapNumbers, mapMemberNumbers_eq_map, mapMemberNumbers_eq_map,
      mapMemberNumbers_eq_map, List.map_map]
    congr 1
    exact List.map_congr_left fun member there => Prod.ext rfl (ih member there)

/-! ## Values -/

/-- What is read from the text of a number. -/
def rereadNumber (n : JsonNumber) : JsonNumber := (number? (literal n)).getD n

theorem number?_literal {n : JsonNumber} (range : n.InRange) : number? (literal n) = some (rereadNumber n) := by
  obtain ⟨again, read, -⟩ := exists_number?_literal range
  rw [rereadNumber, read]
  rfl

theorem masked_rereadNumber {n : JsonNumber} (range : n.InRange) : (rereadNumber n).masked = n.masked := by
  obtain ⟨again, read, same⟩ := exists_number?_literal range
  rw [rereadNumber, read]
  exact same

theorem rereadNumber_of_isInteger {n : JsonNumber} (range : n.InRange) (integer : n.IsInteger) :
    rereadNumber n = n := by
  cases n with
  | whole n =>
    have same := masked_rereadNumber range
    cases read : rereadNumber (.whole n) with
    | whole m =>
      rw [read] at same
      exact same
    | binary x =>
      rw [read] at same
      exact nomatch same
  | binary x =>
    obtain ⟨negative, magnitude⟩ := x
    obtain rfl : magnitude = .zero := integer
    cases negative <;> decide +kernel

section

variable {depth : Nat}

/-- Each item that is read comes from one of the documents. -/
theorem exists_of_ofDocuments? {items : List JsonDocument} {values : List Json}
    (read : ofDocuments? depth items = some values) {value : Json} (member : value ∈ values) :
    ∃ item ∈ items, ofDocument? depth item = some value := by
  induction items generalizing values with
  | nil =>
    rw [ofDocuments?] at read
    obtain rfl := Option.some.inj read
    exact nomatch member
  | cons item items ih =>
    rw [ofDocuments?] at read
    obtain ⟨first, readFirst, read⟩ := Option.bind_eq_some_iff.1 read
    obtain ⟨rest, readRest, same⟩ := Option.bind_eq_some_iff.1 read
    obtain rfl := Option.some.inj same
    obtain rfl | member := List.mem_cons.1 member
    · exact ⟨item, List.mem_cons_self, readFirst⟩
    · obtain ⟨other, there, readOther⟩ := ih readRest member
      exact ⟨other, List.mem_cons_of_mem _ there, readOther⟩

theorem exists_of_ofMembers? {members : List (Text × JsonDocument)} {pairs : List (Text × Json)}
    (read : ofMembers? depth members = some pairs) {pair : Text × Json} (there : pair ∈ pairs) :
    ∃ member ∈ members, ofDocument? depth member.2 = some pair.2 := by
  induction members generalizing pairs with
  | nil =>
    rw [ofMembers?] at read
    obtain rfl := Option.some.inj read
    exact nomatch there
  | cons member members ih =>
    obtain ⟨written, item⟩ := member
    rw [ofMembers?] at read
    obtain ⟨name, -, read⟩ := Option.bind_eq_some_iff.1 read
    obtain ⟨value, readValue, read⟩ := Option.bind_eq_some_iff.1 read
    obtain ⟨rest, readRest, same⟩ := Option.bind_eq_some_iff.1 read
    obtain rfl := Option.some.inj same
    obtain rfl | there := List.mem_cons.1 there
    · exact ⟨(written, item), List.mem_cons_self, readValue⟩
    · obtain ⟨other, inside, readOther⟩ := ih readRest there
      exact ⟨other, List.mem_cons_of_mem _ inside, readOther⟩

theorem ofDocuments?_documents {f : JsonNumber → JsonNumber} {items : List Json}
    (each : ∀ item ∈ items, ofDocument? depth (document item) = some (mapNumbers f item)) :
    ofDocuments? depth (documents items) = some (mapItemNumbers f items) := by
  induction items with
  | nil => rfl
  | cons item items ih =>
    obtain ⟨first, rest⟩ := List.forall_mem_cons.1 each
    rw [documents, ofDocuments?, first, ih rest]
    rfl

theorem ofMembers?_memberDocuments {f : JsonNumber → JsonNumber} {members : List (Text × Json)}
    (each : ∀ member ∈ members, ofDocument? depth (document member.2) = some (mapNumbers f member.2)) :
    ofMembers? depth (memberDocuments members) = some (mapMemberNumbers f members) := by
  induction members with
  | nil => rfl
  | cons member members ih =>
    obtain ⟨name, value⟩ := member
    obtain ⟨first, rest⟩ := List.forall_mem_cons.1 each
    rw [memberDocuments, ofMembers?, unescape?_escaped, first, ih rest]
    rfl

end

/-! What a value is read from has the same form. -/

theorem exists_of_ofDocument?_number {depth : Nat} {d : JsonDocument} {n : JsonNumber}
    (read : ofDocument? depth d = some (.number n)) : ∃ literal, number? literal = some n := by
  cases d <;> simp [ofDocument?] at read
  case number literal => exact ⟨literal, read⟩

theorem exists_of_ofDocument?_array {depth : Nat} {d : JsonDocument} {items : List Json}
    (read : ofDocument? depth d = some (.array items)) :
    depth ≠ 0 ∧ ∃ written, ofDocuments? (depth - 1) written = some items := by
  cases d <;> simp [ofDocument?] at read
  case array written => exact ⟨read.1, written, read.2⟩

theorem exists_of_ofDocument?_object {depth : Nat} {d : JsonDocument} {members : List (Text × Json)}
    (read : ofDocument? depth d = some (.object members)) :
    depth ≠ 0 ∧ ∃ written pairs, ofMembers? (depth - 1) written = some pairs ∧ Members.ofPairs pairs = members := by
  cases d <;> simp [ofDocument?] at read
  case object written => exact ⟨read.1, written, read.2⟩

/-- The value has numbers in range, and its document is read as the same value, but for what becomes of them. -/
def IsReread (depth : Nat) (v : Json) : Prop :=
  (∀ n ∈ numbers v, n.InRange) ∧ ofDocument? depth (document v) = some (mapNumbers rereadNumber v)

theorem isReread_string (depth : Nat) (s : Text) : IsReread depth (.string s) := by
  refine ⟨nofun, ?_⟩
  rw [document, ofDocument?, unescape?_escaped]
  rfl

theorem isReread_number (depth : Nat) {n : JsonNumber} (range : n.InRange) : IsReread depth (.number n) := by
  refine ⟨by simpa [numbers] using range, ?_⟩
  rw [document, ofDocument?, number?_literal range]
  rfl

theorem isReread_array {depth : Nat} {items : List Json} (deep : depth ≠ 0)
    (each : ∀ item ∈ items, IsReread (depth - 1) item) : IsReread depth (.array items) := by
  constructor
  · intro n inside
    obtain ⟨item, member, inside⟩ := mem_numbers_array.1 inside
    exact (each item member).1 n inside
  · rw [document, ofDocument?, if_neg deep, ofDocuments?_documents fun item member => (each item member).2]
    rfl

theorem isReread_object {depth : Nat} {members : Members Json} (deep : depth ≠ 0) (distinct : members.IsDistinct)
    (each : ∀ member ∈ members, IsReread (depth - 1) member.2) : IsReread depth (.object members) := by
  constructor
  · intro n inside
    obtain ⟨member, there, inside⟩ := mem_numbers_object.1 inside
    exact (each member there).1 n inside
  · have distinctToo : Members.IsDistinct (mapMemberNumbers rereadNumber members) := by
      unfold Members.IsDistinct
      rw [mapMemberNumbers_eq_map, List.map_map]
      exact distinct
    rw [document, ofDocument?, if_neg deep, ofMembers?_memberDocuments fun member there => (each member there).2,
      Option.map_some, Members.ofPairs_of_isDistinct distinctToo, mapNumbers]

/-- What is read can be written and read again. -/
theorem isReread_of_ofDocument? {depth : Nat} {d : JsonDocument} {v : Json} (read : ofDocument? depth d = some v) :
    IsReread depth v := by
  induction v using induct generalizing depth d with
  | null | bool => exact ⟨nofun, rfl⟩
  | string s => exact isReread_string depth s
  | number n =>
    obtain ⟨written, read⟩ := exists_of_ofDocument?_number read
    exact isReread_number depth (inRange_of_number? read)
  | array items ih =>
    obtain ⟨deep, written, read⟩ := exists_of_ofDocument?_array read
    refine isReread_array deep fun item member => ?_
    obtain ⟨own, -, readOwn⟩ := exists_of_ofDocuments? read member
    exact ih item member readOwn
  | object members ih =>
    obtain ⟨deep, written, pairs, readMembers, rfl⟩ := exists_of_ofDocument?_object read
    refine isReread_object deep (Members.isDistinct_ofPairs pairs) fun member there => ?_
    obtain ⟨own, -, readOwn⟩ := exists_of_ofMembers? readMembers (Members.ofPairs_subset pairs there)
    exact ih member there readOwn

/-! ## Texts -/

/-- The members of an object that is read are there once, and their values can be written and read again. -/
theorem isReread_of_parse?_object {s : Text} {members : Members Json} (read : parse? s = some (.object members)) :
    members.IsDistinct ∧ ∀ member ∈ members, IsReread (nestingLimit - 1) member.2 := by
  obtain ⟨d, -, read⟩ := Option.bind_eq_some_iff.1 read
  obtain ⟨-, written, pairs, readMembers, rfl⟩ := exists_of_ofDocument?_object read
  refine ⟨Members.isDistinct_ofPairs pairs, fun member there => ?_⟩
  obtain ⟨own, -, readOwn⟩ := exists_of_ofMembers? readMembers (Members.ofPairs_subset pairs there)
  exact isReread_of_ofDocument? readOwn

theorem IsReread.parse?_write {v : Json} (reread : IsReread nestingLimit v) :
    parse? (write v) = some (mapNumbers rereadNumber v) := by
  rw [parse?, ofText?_write, Option.bind_some, reread.2]

/-- The text of a value that can be read is read as that value if its numbers are integers. -/
theorem IsReread.parse?_write_of_integers {v : Json} (reread : IsReread nestingLimit v)
    (integers : ∀ n ∈ numbers v, n.IsInteger) : parse? (write v) = some v := by
  have same : mapNumbers rereadNumber v = mapNumbers id v :=
    mapNumbers_congr fun n inside => rereadNumber_of_isInteger (reread.1 n inside) (integers n inside)
  rw [reread.parse?_write, same, mapNumbers_id]

/-- The value without what writing it may change. -/
def masked (v : Json) : Json := mapNumbers JsonNumber.masked v

/-- The text of a value that was read is read as the same value, but for binary numbers. -/
theorem parse?_write {s : Text} {v : Json} (read : parse? s = some v) :
    ∃ again, parse? (write v) = some again ∧ again.masked = v.masked ∧
      ((∀ n ∈ numbers v, n.IsInteger) → again = v) := by
  obtain ⟨d, -, read⟩ := Option.bind_eq_some_iff.1 read
  have reread := isReread_of_ofDocument? read
  refine ⟨mapNumbers rereadNumber v, reread.parse?_write, ?_, fun integers => ?_⟩
  · rw [masked, mapNumbers_mapNumbers]
    exact mapNumbers_congr fun n inside => masked_rereadNumber (reread.1 n inside)
  · exact Option.some.inj (reread.parse?_write.symm.trans (reread.parse?_write_of_integers integers))

end Json
end ModuleHooks
