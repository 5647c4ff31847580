import Mathlib.Algebra.Group.Nat.Defs
import Mathlib.Data.List.Basic
import ModuleHooks.Json.Writer
import ModuleHooks.Proofs.Json.Lexeme

/-!
Numbers as they are written. The text of a literal with the parts that a number may have is read as that literal in
front of anything that does not continue it (`NumberLiteral.IsWritten.numberLiteral`), and whatever the number, it
is written as such a literal. That of a decimal has the digits of the decimal, with zeros around them, and its last
digit stands in the place that it has there (`Decimal.exists_write`).
-/
namespace ModuleHooks.JsonToken

/-! ## Reading -/

/-- Digits, one at least. -/
structure IsDigits (s : Text) : Prop where
  written : s ≠ []
  inside : ∀ c ∈ s, c.isDigit = true

/-- Digits that do not start with a zero, unless it is alone. -/
structure IsWhole (s : Text) : Prop extends IsDigits s where
  first : s.head? = some '0' → s = ['0']

/-- A text that a number cannot go on with. -/
def Stops (r : Text) : Prop := ∀ c, r.head? = some c → isNumeral c = false

namespace Stops

variable {r : Text} {c : Char}

theorem nil : Stops [] := nofun

theorem cons (other : isNumeral c = false) (r : Text) : Stops (c :: r) := by
  intro d same
  obtain rfl := Option.some.inj same
  exact other

theorem not_isDigit (stops : Stops r) (same : r.head? = some c) : c.isDigit = false :=
  Bool.eq_false_iff.2 fun digit => by simpa [isNumeral, digit] using stops c same

theorem head?_ne (stops : Stops r) (numeral : isNumeral c = true) : r.head? ≠ some c :=
  fun same => nomatch numeral.symm.trans (stops c same)

end Stops

theorem IsDigits.read {ds r : Text} (digits : IsDigits ds)
    (other : ∀ c, r.head? = some c → c.isDigit = false) :
    (if (JsonToken.digits (ds ++ r)).1.isEmpty then none else some (JsonToken.digits (ds ++ r))) =
      some (ds, r) := by
  rw [digits_append digits.inside other]
  exact if_neg (by simpa using digits.written)

theorem IsWhole.wholePart {ds r : Text} (whole : IsWhole ds)
    (other : ∀ c, r.head? = some c → c.isDigit = false) :
    JsonToken.wholePart (ds ++ r) = some (ds, r) := by
  by_cases zero : ds.head? = some '0'
  · rw [whole.first zero]
    rfl
  · have read := whole.toIsDigits.read other
    obtain ⟨d, ds, rfl⟩ := List.exists_cons_of_ne_nil whole.written
    have first : d ≠ '0' := fun same => zero (congrArg some same)
    unfold JsonToken.wholePart
    split
    case h_1 same => exact absurd (List.cons.inj same).1 first
    case h_2 => exact read

end ModuleHooks.JsonToken

namespace ModuleHooks.NumberLiteral

open JsonToken

/-- The parts are as a number may have them. -/
structure IsWritten (n : NumberLiteral) : Prop where
  whole : IsWhole n.whole
  fraction : ∀ c ∈ n.fraction, c.isDigit = true
  exponent : ∀ c ∈ n.exponent, c.isDigit = true
  positive : n.exponent = [] → n.exponentNegative = false
  isWhole : n.isWhole = (n.fraction.isEmpty && n.exponent.isEmpty)

/-- The fraction behind a point. -/
def fractionText (n : NumberLiteral) : Text := if n.fraction = [] then [] else '.' :: n.fraction

/-- The exponent behind its letter and its sign. -/
def exponentText (n : NumberLiteral) : Text :=
  if n.exponent = [] then [] else 'e' :: (if n.exponentNegative then '-' else '+') :: n.exponent

/-- The literal without its sign. -/
def unsigned (n : NumberLiteral) : Text := n.whole ++ (n.fractionText ++ n.exponentText)

/-- The digits in front of the exponent. -/
def digits (n : NumberLiteral) : Text := n.whole ++ n.fraction

/-- The power of ten that the last of the digits counts. -/
def lastPlace (n : NumberLiteral) : Int :=
  (if n.exponentNegative then -(Nat.ofDigitChars 10 n.exponent 0 : Int) else Nat.ofDigitChars 10 n.exponent 0) -
    n.fraction.length

variable {n : NumberLiteral} {r : Text}

theorem head?_exponentText (stops : Stops r) {c : Char} (first : (n.exponentText ++ r).head? = some c) :
    c.isDigit = false ∧ c ≠ '.' := by
  unfold exponentText at first
  split at first
  · refine ⟨stops.not_isDigit first, ?_⟩
    rintro rfl
    exact stops.head?_ne (by decide) first
  · obtain rfl := Option.some.inj first
    decide

theorem head?_fractionText (stops : Stops r) {c : Char}
    (first : (n.fractionText ++ (n.exponentText ++ r)).head? = some c) : c.isDigit = false := by
  unfold fractionText at first
  split at first
  · exact (head?_exponentText stops first).1
  · obtain rfl := Option.some.inj first
    rfl

namespace IsWritten

theorem exponentPart (written : n.IsWritten) (stops : Stops r) :
    exponentPart (n.exponentText ++ r) = some (n.exponentNegative, n.exponent, r) := by
  unfold exponentText
  split
  case isTrue none =>
    rw [none, written.positive none]
    cases r with
    | nil => rfl
    | cons c r =>
      have other : ¬(c = 'e' ∨ c = 'E') := by
        rintro (rfl | rfl) <;> exact absurd rfl (stops.head?_ne (by decide))
      exact if_neg other
  case isFalse some =>
    have read := digits_append written.exponent fun c => stops.not_isDigit
    cases n.exponentNegative <;> simp [JsonToken.exponentPart, read, some]

theorem fractionPart (written : n.IsWritten) (stops : Stops r) :
    fractionPart (n.fractionText ++ (n.exponentText ++ r)) = some (n.fraction, n.exponentText ++ r) := by
  have other (c : Char) (first : (n.exponentText ++ r).head? = some c) := head?_exponentText stops first
  unfold fractionText
  split
  case isTrue none =>
    rw [none, List.nil_append]
    unfold JsonToken.fractionPart
    split
    case h_1 point => exact absurd rfl (other '.' (by rw [point]; rfl)).2
    case h_2 => rfl
  case isFalse some => exact IsDigits.read ⟨some, written.fraction⟩ fun c first => (other c first).1

/-- A literal is read from its text where the text stops behind it. -/
theorem numberLiteral (written : n.IsWritten) (stops : Stops r) :
    numberLiteral ((if n.negative then ['-'] else []) ++ n.unsigned ++ r) = some (n, r) := by
  have unsigned (t s : Text) : n.whole ++ t ≠ '-' :: s := by
    obtain ⟨d, ds, whole⟩ := List.exists_cons_of_ne_nil written.whole.written
    intro same
    rw [whole] at same
    obtain rfl : d = '-' := (List.cons.inj same).1
    exact absurd (written.whole.inside '-' (by simp [whole])) (by decide)
  have readWhole : wholePart (n.whole ++ (n.fractionText ++ (n.exponentText ++ r))) =
      some (n.whole, n.fractionText ++ (n.exponentText ++ r)) :=
    written.whole.wholePart fun c => head?_fractionText stops
  rw [NumberLiteral.unsigned, List.append_assoc, List.append_assoc, List.append_assoc]
  unfold JsonToken.numberLiteral
  split
  next negative s split =>
  have parts : negative = n.negative ∧ s = n.whole ++ (n.fractionText ++ (n.exponentText ++ r)) := by
    cases sign : n.negative with
    | true =>
      rw [sign] at split
      exact ⟨(congrArg Prod.fst split).symm, (congrArg Prod.snd split).symm⟩
    | false =>
      rw [sign] at split
      split at split
      case h_1 minus => exact absurd minus (unsigned _ _)
      case h_2 => exact ⟨(congrArg Prod.fst split).symm, (congrArg Prod.snd split).symm⟩
  obtain ⟨rfl, rfl⟩ := parts
  simp [readWhole, written.fractionPart stops, written.exponentPart stops, ← written.isWhole]

end IsWritten

end ModuleHooks.NumberLiteral

namespace ModuleHooks.JsonToken

/-! ## Writing -/

theorem ofNat_eq_toDigits (n : Nat) : Text.ofNat n = Nat.toDigits 10 n := by simp [Text.ofNat]

/-- The digits of a number that is not zero do not start with one. -/
theorem head?_toDigits {n : Nat} (some : n ≠ 0) : (Nat.toDigits 10 n).head? ≠ Option.some '0' := by
  induction n using Nat.strongRecOn with
  | ind n ih =>
    by_cases digit : n < 10
    · rw [Nat.toDigits_of_lt_base digit]
      have apart : ∀ m < 10, m ≠ 0 → m.digitChar ≠ '0' := by decide
      simpa using apart n digit some
    · have above : n / 10 ≠ 0 := by omega
      rw [Nat.toDigits_of_base_le (by decide) (by omega), List.head?_append_of_ne_nil _ Nat.toDigits_ne_nil]
      exact ih (n / 10) (by omega) above

theorem isWhole_ofNat (n : Nat) : IsWhole (Text.ofNat n) := by
  rw [ofNat_eq_toDigits]
  refine ⟨⟨Nat.toDigits_ne_nil, fun c => Nat.isDigit_of_mem_toDigits (by decide) (by decide)⟩, ?_⟩
  intro zero
  by_cases nothing : n = 0
  · subst nothing
    rfl
  · exact absurd zero (head?_toDigits nothing)

end ModuleHooks.JsonToken

namespace ModuleHooks.Decimal

open JsonToken

/-- A literal is the text of digits with the last one in a given place. It may have zeros around them, but at the end
only behind the point, and if it has no more than so many digits. -/
structure Denotes (s digits : Text) (place : Int) (most : Nat) (n : NumberLiteral) : Prop where
  written : n.IsWritten
  text : n.unsigned = s
  broken : n.isWhole = false
  value : ∃ zeros : Nat, Nat.ofDigitChars 10 n.digits 0 = Nat.ofDigitChars 10 digits 0 * 10 ^ zeros ∧
    n.lastPlace + zeros = place ∧ (zeros = 0 ∨ n.digits.length ≤ most ∧ n.lastPlace < 0)

theorem isDigit_of_mem_zeros {n : Nat} {c : Char} (member : c ∈ List.replicate n '0') : c.isDigit = true := by
  rw [List.eq_of_mem_replicate member]
  rfl

theorem exists_positional {digits : Text} (isWhole : IsWhole digits) (lead : Int)
    (zero : digits = ['0'] → lead = 0) (negative : Bool) :
    ∃ n, n.negative = negative ∧
      Denotes (positional digits lead) digits (lead - (digits.length - 1)) (lead + 2).toNat n := by
  have zeros {ds : Text} (count : Nat) (inside : ∀ c ∈ ds, c.isDigit = true) :
      ∀ c ∈ List.replicate count '0' ++ ds, c.isDigit = true := by
    intro c member
    exact (List.mem_append.1 member).elim isDigit_of_mem_zeros (inside c)
  unfold positional
  split
  case isTrue below =>
    refine ⟨⟨negative, ['0'], List.replicate (-lead - 1).toNat '0' ++ digits, false, [], false⟩, rfl,
      ⟨⟨?_, zeros _ isWhole.inside, nofun, fun _ => rfl, ?_⟩, ?_, rfl, 0, ?_, ?_, .inl rfl⟩⟩
    · exact ⟨⟨nofun, List.forall_mem_singleton.2 rfl⟩, fun _ => rfl⟩
    · simp [isWhole.written]
    · simp [NumberLiteral.unsigned, NumberLiteral.fractionText, NumberLiteral.exponentText, isWhole.written]
    · simp [NumberLiteral.digits, Nat.ofDigitChars_cons, Nat.ofDigitChars_append]
    · simp [NumberLiteral.lastPlace]
      omega
  case isFalse positive =>
  extract_lets whole
  split
  case isTrue short =>
    refine ⟨⟨negative, digits ++ List.replicate (whole - digits.length) '0', ['0'], false, [], false⟩, rfl,
      ⟨⟨⟨⟨by simp [isWhole.written], ?_⟩, ?_⟩, ?_, nofun, fun _ => rfl, rfl⟩, ?_, rfl,
        whole - digits.length + 1, ?_, ?_, .inr ⟨?_, ?_⟩⟩⟩
    · intro c member
      exact (List.mem_append.1 member).elim (isWhole.inside c) isDigit_of_mem_zeros
    · intro first
      rw [List.head?_append_of_ne_nil _ isWhole.written] at first
      have single := isWhole.first first
      have least := zero single
      simp [whole, single, least]
    · exact List.forall_mem_singleton.2 rfl
    · simp [NumberLiteral.unsigned, NumberLiteral.fractionText, NumberLiteral.exponentText]
    · simp [NumberLiteral.digits, Nat.ofDigitChars_cons, Nat.ofDigitChars_append, Nat.pow_succ]
      ac_rfl
    · simp [NumberLiteral.lastPlace]
      omega
    · simp [NumberLiteral.digits]
      omega
    · simp [NumberLiteral.lastPlace]
  case isFalse long =>
    refine ⟨⟨negative, digits.take whole, digits.drop whole, false, [], false⟩, rfl,
      ⟨⟨⟨⟨by simp [isWhole.written, whole], ?_⟩, ?_⟩, ?_, nofun, fun _ => rfl, ?_⟩, ?_, rfl, 0, ?_, ?_, .inl rfl⟩⟩
    · exact fun c member => isWhole.inside c (List.mem_of_mem_take member)
    · intro first
      rw [List.head?_take, if_neg (by simp [whole])] at first
      have single := isWhole.first first
      simp [single, whole] at long
    · exact fun c member => isWhole.inside c (List.mem_of_mem_drop member)
    · simpa using long
    · have some : digits.drop whole ≠ [] := by simpa using long
      simp [NumberLiteral.unsigned, NumberLiteral.fractionText, NumberLiteral.exponentText, some]
    · simp [NumberLiteral.digits]
    · simp [NumberLiteral.lastPlace]
      omega

theorem exists_scientific {digits : Text} (isDigits : IsDigits digits) (lead : Int) (negative : Bool) :
    ∃ n, n.negative = negative ∧
      Denotes (scientific digits lead) digits (lead - (digits.length - 1)) 0 n := by
  obtain ⟨d, more, rfl⟩ := List.exists_cons_of_ne_nil isDigits.written
  obtain ⟨first, others⟩ := List.forall_mem_cons.1 isDigits.inside
  have single : IsWhole [d] := ⟨⟨nofun, by simpa using first⟩, fun zero => by rw [Option.some.inj zero]⟩
  have exponent := (isWhole_ofNat lead.natAbs).toIsDigits
  refine ⟨⟨negative, [d], more, decide (lead < 0), Text.ofNat lead.natAbs, false⟩, rfl,
    ⟨⟨single, others, exponent.inside, ?_, ?_⟩, ?_, rfl, 0, ?_, ?_, .inl rfl⟩⟩
  · exact fun none => absurd none exponent.written
  · simp [exponent.written]
  · cases more <;>
      simp [scientific, NumberLiteral.unsigned, NumberLiteral.fractionText, NumberLiteral.exponentText,
        exponent.written]
  · simp [NumberLiteral.digits]
  · have signed : (if lead < 0 then -(lead.natAbs : Int) else lead.natAbs) = lead := by split <;> omega
    simpa [NumberLiteral.lastPlace, ofNat_eq_toDigits] using signed

/-- A decimal is written in its digits when zero has no exponent. -/
theorem exists_write (style : Spelling) {d : Decimal} (zero : d.digits = 0 → d.exponent = 0) (negative : Bool) :
    ∃ n, n.negative = negative ∧
      Denotes (d.write style) (Text.ofNat d.digits) d.exponent (style.leastScientific + 1).toNat n := by
  unfold write
  extract_lets digits lead
  have isWhole : IsWhole digits := isWhole_ofNat d.digits
  have place : lead - (digits.length - 1) = d.exponent := Int.add_sub_cancel _ _
  split
  case isTrue positioned =>
    have nothing : digits = ['0'] → lead = 0 := by
      intro single
      have nothing : d.digits = 0 := by
        by_cases nothing : d.digits = 0
        · exact nothing
        · have first : (Nat.toDigits 10 d.digits).head? = some '0' := by
            rw [← ofNat_eq_toDigits]
            exact congrArg List.head? single
          exact absurd first (head?_toDigits nothing)
      simp [lead, single, zero nothing]
    obtain ⟨n, sign, written, text, broken, zeros, value, last, few⟩ :=
      exists_positional isWhole lead nothing negative
    refine ⟨n, sign, written, text, broken, zeros, value, last.trans place, few.imp_right fun few => ⟨?_, few.2⟩⟩
    omega
  case isFalse =>
    obtain ⟨n, sign, written, text, broken, zeros, value, last, few⟩ :=
      exists_scientific isWhole.toIsDigits lead negative
    refine ⟨n, sign, written, text, broken, zeros, value, last.trans place, few.imp_right fun few => ⟨?_, few.2⟩⟩
    exact Nat.le_trans few.1 (Nat.zero_le _)

/-! ## The shortest decimal -/

theorem digits_trimZeros {d : Decimal} (some : d.digits ≠ 0) (fuel : Nat) :
    (trimZeros fuel d).digits ≠ 0 := by
  induction fuel generalizing d with
  | zero => exact some
  | succ fuel ih =>
    unfold trimZeros
    split
    case isTrue zero => exact ih (by simp only; omega)
    case isFalse => exact some

/-- Nothing but zero is nearest to zero. -/
theorem roundsTo_zero {x : Magnitude} (some : x.mantissa ≠ 0) (k : Int) : roundsTo x 0 k = false := by
  have positive : 0 < (scales x k).2 :=
    Nat.mul_pos (Nat.pow_pos (by decide)) (Nat.pow_pos (by decide))
  rcases scaled : scales x k with ⟨cs, xs⟩
  rw [scaled] at positive
  have low : 0 < (4 * x.mantissa -
      (if x.mantissa = twoTo 52 ∧ Magnitude.lowestExponent < x.exponent then 1 else 2)) * xs :=
    Nat.mul_pos (by split <;> omega) positive
  unfold roundsTo
  rw [scaled]
  dsimp only
  split
  · simp [Nat.not_le.2 low]
  · simp

theorem digits_withDigits? {x : Magnitude} {n : Nat} {d : Decimal} (some : x.mantissa ≠ 0)
    (found : withDigits? x n = Option.some d) : d.digits ≠ 0 := by
  have rounds (c : Nat) (k : Int) (near : roundsTo x c k = true) : c ≠ 0 := by
    rintro rfl
    exact nomatch near.symm.trans (roundsTo_zero some k)
  unfold withDigits? at found
  grind

/-- The shortest decimal of nothing has no exponent. -/
theorem exponent_shortest (x : Magnitude) (zero : (shortest x).digits = 0) : (shortest x).exponent = 0 := by
  unfold shortest at zero ⊢
  split
  · rfl
  case isFalse some =>
  rw [if_neg some] at zero
  split
  case h_1 d found =>
    obtain ⟨i, -, found'⟩ := List.exists_of_findSome?_eq_some found
    rw [found] at zero
    exact absurd zero (digits_trimZeros (digits_withDigits? some found') 17)
  case h_2 => rfl

end ModuleHooks.Decimal

namespace ModuleHooks.Json

open JsonToken

/-- The literal of a whole number. -/
def wholeLiteral (n : Int) : NumberLiteral := ⟨decide (n < 0), Text.ofNat n.natAbs, [], false, [], true⟩

theorem isWritten_wholeLiteral (n : Int) : (wholeLiteral n).IsWritten :=
  ⟨isWhole_ofNat n.natAbs, nofun, nofun, fun _ => rfl, rfl⟩

theorem writeNumber_whole (n : Int) :
    writeNumber (.whole n) = (if (wholeLiteral n).negative then ['-'] else []) ++ (wholeLiteral n).unsigned := by
  simp [writeNumber, wholeLiteral, NumberLiteral.unsigned, NumberLiteral.fractionText, NumberLiteral.exponentText]

theorem exists_binaryLiteral (x : Binary64) :
    let d := Decimal.shortest x.magnitude
    ∃ n, n.negative = x.negative ∧ Decimal.Denotes (d.write numberSpelling) (Text.ofNat d.digits) d.exponent 17 n :=
  Decimal.exists_write numberSpelling (Decimal.exponent_shortest _) x.negative

/-- Every number is written as one, and read whole where the text stops behind it. -/
theorem exists_numberLiteral (n : JsonNumber) :
    ∃ literal, ∀ r, Stops r → numberLiteral (writeNumber n ++ r) = some (literal, r) := by
  cases n with
  | whole n =>
    rw [writeNumber_whole]
    exact ⟨wholeLiteral n, fun r => (isWritten_wholeLiteral n).numberLiteral⟩
  | binary x =>
    obtain ⟨n, sign, spells⟩ := exists_binaryLiteral x
    refine ⟨n, fun r stops => ?_⟩
    rw [writeNumber, ← sign, ← spells.text]
    exact spells.written.numberLiteral stops

end ModuleHooks.Json
