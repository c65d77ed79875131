import Immutability.Regex.Flags

/-!
# Numbers in patterns

Bounds of repetitions in decimal, and characters by their code point in hexadecimal.
-/

set_option autoImplicit false

namespace Immutability.RegexText

/-- Digits at the start of the input, with the value read so far. -/
def readDigits (flags : Flags) : Nat → Option Nat → List Char → Option Nat × List Char
  | 0, value, input => (value, input)
  | fuel + 1, value, c :: rest =>
    if '0' ≤ c && c ≤ '9' then
      readDigits flags fuel (some (value.getD 0 * 10 + (c.toNat - 48))) (skip flags rest)
    else (value, c :: rest)
  | _ + 1, value, [] => (value, [])

/-- A number of at most 32 bits, with blanks around it. -/
def readNumber (flags : Flags) (input : List Char) : Option Nat × List Char :=
  let input := input.dropWhile Text.isBlank
  let (value, rest) := readDigits flags input.length none input
  (value.filter (· < 4294967296), rest.dropWhile Text.isBlank)

/-- Bounds of a repetition, up to the closing brace. -/
def readBounds (flags : Flags) (input : List Char) : Option ((Nat × Option Nat) × List Char) :=
  let (low, rest) := readNumber flags (skip flags input)
  match low, rest with
  | some low, '\x7d' :: rest => some ((low, some low), rest)
  | some low, ',' :: rest =>
    match skip flags rest with
    | '\x7d' :: rest => some ((low, none), rest)
    | rest =>
      match readNumber flags rest with
      | (some high, '\x7d' :: rest) => if low ≤ high then some ((low, some high), rest) else none
      | _ => none
  | _, _ => none

def hexDigit? (c : Char) : Option Nat :=
  if '0' ≤ c && c ≤ '9' then some (c.toNat - 48)
  else if 'a' ≤ c && c ≤ 'f' then some (c.toNat - 87)
  else if 'A' ≤ c && c ≤ 'F' then some (c.toNat - 55)
  else none

def charOfNat? (point : Nat) : Option Char :=
  if point < 0xd800 || (0xdfff < point && point < 0x110000) then some (Char.ofNat point) else none

def readHexDigits (flags : Flags) : Nat → Nat → List Char → Option (Nat × List Char)
  | 0, value, input => some (value, input)
  | count + 1, value, c :: rest => do
    let digit ← hexDigit? c
    readHexDigits flags count (value * 16 + digit) (skip flags rest)
  | _ + 1, _, [] => none

def readHexBraced (flags : Flags) : Nat → Option Nat → List Char → Option (Nat × List Char)
  | 0, _, _ => none
  | fuel + 1, value, input =>
    match skip flags input with
    | [] => none
    | c :: rest =>
      if c == '\x7d' then value.map fun value => (value, skip flags rest)
      else do
        let digit ← hexDigit? c
        readHexBraced flags fuel (some (value.getD 0 * 16 + digit)) rest

/-- A character by its code point, in `count` digits or in braces, and whether it was in digits. -/
def readHex (flags : Flags) (count : Nat) (input : List Char) : Option ((Char × Bool) × List Char) := do
  match skip flags input with
  | '\x7b' :: rest =>
    let (point, rest) ← readHexBraced flags (rest.length + 1) none rest
    return ((← charOfNat? point, false), rest)
  | input =>
    let (point, rest) ← readHexDigits flags count 0 input
    return ((← charOfNat? point, true), rest)

end Immutability.RegexText
