import ModuleHooks.Text.Utf8

/-!
Base 64 in its two alphabets: the standard one, padded, for embedded data, and the one safe in
names, not padded. Reading the latter accepts the canonical form only, so a name has one reading and
a reading one name.
-/
namespace ModuleHooks.Base64

def standardDigits : Text :=
  "ABCDEFGHIJKLMNOPQRSTUVWXYZabcdefghijklmnopqrstuvwxyz0123456789+/".toList

/-- The digits of the alphabet that is safe in file names and URLs. -/
def nameDigits : Text :=
  "ABCDEFGHIJKLMNOPQRSTUVWXYZabcdefghijklmnopqrstuvwxyz0123456789-_".toList

def digit (alphabet : Text) (n : Nat) : Char := (alphabet[n]?).getD 'A'

/-- Three bytes become four digits; one or two bytes at the end become two or three. -/
def encode (alphabet : Text) : List UInt8 → Text
  | [] => []
  | [a] => [digit alphabet (a.toNat / 4), digit alphabet (a.toNat % 4 * 16)]
  | [a, b] =>
    [digit alphabet (a.toNat / 4), digit alphabet (a.toNat % 4 * 16 + b.toNat / 16),
      digit alphabet (b.toNat % 16 * 4)]
  | a :: b :: c :: rest =>
    digit alphabet (a.toNat / 4) :: digit alphabet (a.toNat % 4 * 16 + b.toNat / 16) ::
      digit alphabet (b.toNat % 16 * 4 + c.toNat / 64) :: digit alphabet (c.toNat % 64) ::
      encode alphabet rest

/-- The bytes in the standard alphabet, filled up with `=` to a multiple of four digits. -/
def padded (bytes : List UInt8) : Text :=
  let digits := encode standardDigits bytes
  digits ++ List.replicate ((4 - digits.length % 4) % 4) '='

def inName (bytes : List UInt8) : Text := encode nameDigits bytes

/-- The bytes that a list of digit values stands for. A last group of one digit, or one whose spare
bits are not zero, stands for nothing. -/
def bytes? : List Nat → Option (List UInt8)
  | [] => some []
  | [_] => none
  | [p, q] => if q % 16 = 0 then some [Utf8.byte (p * 4 + q / 16)] else none
  | [p, q, r] =>
    if r % 4 = 0 then some [Utf8.byte (p * 4 + q / 16), Utf8.byte (q % 16 * 16 + r / 4)] else none
  | p :: q :: r :: s :: rest =>
    (bytes? rest).map fun tail =>
      Utf8.byte (p * 4 + q / 16) :: Utf8.byte (q % 16 * 16 + r / 4) ::
        Utf8.byte (r % 4 * 64 + s) :: tail

/-- The bytes written in an alphabet, if the text is their canonical form without padding. -/
def decode? (alphabet : Text) (s : Text) : Option (List UInt8) :=
  (s.mapM fun c => alphabet.idxOf? c).bind bytes?

end ModuleHooks.Base64
