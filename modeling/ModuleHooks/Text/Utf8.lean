import ModuleHooks.Text.Basic

/-!
UTF-8: writing text as bytes, and reading bytes strictly or with a replacement character for every
longest broken start of a sequence.
-/
namespace ModuleHooks.Utf8

def byte (n : Nat) : UInt8 := UInt8.ofNat n

/-- The bytes of one character. -/
def encodeChar (c : Char) : List UInt8 :=
  let n := c.toNat
  if n < 0x80 then [byte n]
  else if n < 0x800 then [byte (0xC0 + n / 64), byte (0x80 + n % 64)]
  else if n < 0x10000 then
    [byte (0xE0 + n / 4096), byte (0x80 + n / 64 % 64), byte (0x80 + n % 64)]
  else
    [byte (0xF0 + n / 262144), byte (0x80 + n / 4096 % 64), byte (0x80 + n / 64 % 64),
      byte (0x80 + n % 64)]

def encode (s : Text) : List UInt8 := s.flatMap encodeChar

/-- What a first byte announces: the bits it carries, how many bytes follow, and the range of the
first of those. -/
structure Lead where
  bits : Nat
  following : Nat
  low : Nat := 0x80
  high : Nat := 0xBF

/-- Reads a first byte. The tighter ranges keep out overlong forms, surrogates and numbers above
the last code point. -/
def lead? (b : Nat) : Option Lead :=
  if b < 0x80 then some { bits := b, following := 0 }
  else if b < 0xC2 then none
  else if b < 0xE0 then some { bits := b - 0xC0, following := 1 }
  else if b = 0xE0 then some { bits := 0, following := 2, low := 0xA0 }
  else if b = 0xED then some { bits := 0xD, following := 2, high := 0x9F }
  else if b < 0xF0 then some { bits := b - 0xE0, following := 2 }
  else if b = 0xF0 then some { bits := 0, following := 3, low := 0x90 }
  else if b = 0xF4 then some { bits := 4, following := 3, high := 0x8F }
  else if b < 0xF4 then some { bits := b - 0xF0, following := 3 }
  else none

/-- Reads `n` following bytes onto the bits read so far: the code point, if all are there, and the
bytes from the first that does not belong. -/
def following (low high : Nat) : Nat → Nat → List UInt8 → Option Nat × List UInt8
  | 0, bits, rest => (some bits, rest)
  | _ + 1, _, [] => (none, [])
  | n + 1, bits, b :: rest =>
    if low ≤ b.toNat && b.toNat ≤ high then following 0x80 0xBF n (bits * 64 + b.toNat % 64) rest
    else (none, b :: rest)

/-- Reads one character, or the longest broken start of one, off a nonempty text. -/
def next (b : UInt8) (rest : List UInt8) : Option Char × List UInt8 :=
  match lead? b.toNat with
  | none => (none, rest)
  | some l =>
    let (code, rest) := following l.low l.high l.following l.bits rest
    (code.map Char.ofNat, rest)

theorem length_following (low high n bits : Nat) (bytes : List UInt8) :
    (following low high n bits bytes).2.length ≤ bytes.length := by
  induction n generalizing low high bits bytes with
  | zero => simp [following]
  | succ n ih =>
    cases bytes with
    | nil => simp [following]
    | cons b rest =>
      simp only [following]
      split
      · exact Nat.le_succ_of_le (ih 0x80 0xBF _ rest)
      · simp

theorem length_next (b : UInt8) (rest : List UInt8) : (next b rest).2.length ≤ rest.length := by
  unfold next
  split
  · simp
  · exact length_following _ _ _ _ _

/-- The characters of the bytes, `none` standing for each longest broken start of one. -/
def characters : List UInt8 → List (Option Char)
  | [] => []
  | b :: rest => (next b rest).1 :: characters (next b rest).2
termination_by bytes => bytes.length
decreasing_by exact Nat.lt_succ_of_le (length_next b rest)

/-- Reads bytes that are UTF-8 throughout. -/
def decode? (bytes : List UInt8) : Option Text := (characters bytes).mapM id

/-- Reads any bytes; a broken sequence reads as U+FFFD. -/
def decodeLossy (bytes : List UInt8) : Text := (characters bytes).map (·.getD '\uFFFD')

end ModuleHooks.Utf8
