import ModuleHooks.Text.Hexadecimal

/-!
Hosts that are written as numbers. A name whose last label is a number has to be an address of four
bytes; what stands in brackets has to be one of eight groups.
-/
namespace ModuleHooks.Address

/-- The number that digits spell in a base, if all of them are digits of it. -/
def inBase? (base : Nat) (s : Text) : Option Nat :=
  s.foldlM (fun n c => do
    let digit ← Hexadecimal.digit? c
    if digit < base then return n * base + digit else none) 0

/-- The number that a label spells: in base sixteen behind `0x`, in base eight behind another zero,
else in base ten. -/
def number? (label : Text) : Option Nat :=
  match label with
  | [] => none
  | '0' :: 'x' :: digits | '0' :: 'X' :: digits => inBase? 16 digits
  | '0' :: c :: digits => inBase? 8 (c :: digits)
  | digits => inBase? 10 digits

/-- The labels without an empty one at the end. -/
def withoutRoot (labels : List Text) : List Text :=
  if labels.getLast? = some [] then labels.dropLast else labels

/-- Whether the last label that is not empty at the end is a number, in digits or as a number is
read. -/
def endsInNumber (labels : List Text) : Bool :=
  match (withoutRoot labels).getLast? with
  | none | some [] => false
  | some last => last.all Char.isDigit || (number? last).isSome

/-- What the last number of an address may say more than one byte for, by the number of those before
it. -/
def spaces : List Nat := [4294967296, 16777216, 65536, 256]

/-- Whether labels are an address: one to four numbers, all but the last of one byte. -/
def isFourBytes (labels : List Text) : Bool :=
  match (withoutRoot labels).mapM number? with
  | none => false
  | some numbers =>
    match numbers.reverse with
    | [] => false
    | last :: before =>
      before.all (· < 256) && ((spaces[before.length]?).map fun space => decide (last < space)).getD
        false

/-- Whether a text is a byte in base ten, without zeros in front. -/
def isByte (s : Text) : Bool :=
  s.all Char.isDigit && (s.head? != some '0' || s.length == 1)
    && ((inBase? 10 s).map fun n => !s.isEmpty && n < 256).getD false

/-- Whether a text is four bytes with dots between them. -/
def isDotted (s : Text) : Bool :=
  let pieces := Text.splitAt '.' s
  pieces.length == 4 && pieces.all isByte

/-- The digits that a group starts with, four at most. -/
def groupDigits (s : Text) : Text := (s.take 4).takeWhile Hexadecimal.isDigit

theorem length_drop_groupDigits (s : Text) : (s.drop (groupDigits s).length).length ≤ s.length := by
  simp

/-- Whether the rest of an address of groups is well formed, given how many groups there are before
it and whether a gap is among them. A gap counts as a group, and four bytes at the end count as
two. -/
def areGroups (count : Nat) (gap : Bool) (s : Text) : Bool :=
  match s with
  | [] => gap || count == 8
  | c :: s =>
    if count = 8 then false
    else if c = ':' then !gap && areGroups (count + 1) true s
    else
      let digits := groupDigits (c :: s)
      match h : (c :: s).drop digits.length with
      | [] => gap || count + 1 == 8
      | [_] => false
      | d :: rest =>
        if d = ':' then areGroups (count + 1) gap rest
        else d == '.' && !digits.isEmpty && count ≤ 6 && isDotted (c :: s)
          && (gap || count + 2 == 8)
termination_by s.length
decreasing_by
  · simp
  · have shorter := length_drop_groupDigits (c :: s)
    rw [h] at shorter
    simp only [List.length_cons] at shorter ⊢
    omega

/-- Whether what stands in brackets is an address of eight groups. -/
def isEightGroups (s : Text) : Bool :=
  match s with
  | ':' :: ':' :: rest => areGroups 1 true rest
  | ':' :: _ => false
  | [_] => false
  | s => areGroups 0 false s

end ModuleHooks.Address
