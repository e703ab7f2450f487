/-
Reading bytes as text without refusing any.

Bytes that form a character of UTF-8 become that character. Where they do not, the longest beginning of a character
becomes one replacement character and reading goes on with the byte that did not fit.
-/

namespace SqlSession.Text.Utf8

/-- what stands in for bytes that are no character -/
def replacement : Char := '\ufffd'

/-- a character begun by its first byte: bytes still to come, bounds of the next one, bits so far -/
structure Pending where
  missing : Nat
  least : Nat
  most : Nat
  bits : Nat

/-- what the first byte of a character tells about the rest; none for a byte that begins no long character -/
def begin? (b : Nat) : Option Pending :=
  if 0xc2 ≤ b ∧ b ≤ 0xdf then some ⟨1, 0x80, 0xbf, b - 0xc0⟩
  else if b = 0xe0 then some ⟨2, 0xa0, 0xbf, 0⟩
  else if b = 0xed then some ⟨2, 0x80, 0x9f, 13⟩
  else if 0xe1 ≤ b ∧ b ≤ 0xef then some ⟨2, 0x80, 0xbf, b - 0xe0⟩
  else if b = 0xf0 then some ⟨3, 0x90, 0xbf, 0⟩
  else if 0xf1 ≤ b ∧ b ≤ 0xf3 then some ⟨3, 0x80, 0xbf, b - 0xf0⟩
  else if b = 0xf4 then some ⟨3, 0x80, 0x8f, 4⟩
  else none

/-- a byte between characters: the characters it completes and the character it begins -/
def first (b : Nat) : List Char × Option Pending :=
  if b < 0x80 then ([Char.ofNat b], none)
  else match begin? b with
    | some pending => ([], some pending)
    | none => ([replacement], none)

/-- one byte -/
def step (state : Option Pending) (b : Nat) : List Char × Option Pending :=
  match state with
  | none => first b
  | some p =>
    if p.least ≤ b ∧ b ≤ p.most then
      let bits := p.bits * 64 + (b - 0x80)
      if p.missing = 1 then ([Char.ofNat bits], none) else ([], some ⟨p.missing - 1, 0x80, 0xbf, bits⟩)
    else
      let (cs, next) := first b
      (replacement :: cs, next)

/-- the characters of the bytes from a state on -/
def decodeFrom (state : Option Pending) : List UInt8 → List Char
  | [] => if state.isSome then [replacement] else []
  | b :: rest =>
    let (cs, next) := step state b.toNat
    cs ++ decodeFrom next rest

/-- the bytes as text, with a replacement character wherever they are none -/
def decode (bytes : List UInt8) : String :=
  String.ofList (decodeFrom none bytes)

end SqlSession.Text.Utf8
