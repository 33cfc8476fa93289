/-!
# Text from bytes

Every list of bytes is read as text. The longest valid start of a character that is cut off or
spoiled becomes one replacement character, and so does a byte that starts no character. What is
valid stays as it is.
-/

namespace CloudAudit.Text.Utf8

def replacement : Char := '\ufffd'

/-- A character of which some bytes were read: the bits so far, and the ranges that the other bytes
have to be in. -/
structure Pending where
  bits : Nat
  ranges : List (Nat × Nat)

def anyContinuation : Nat × Nat := (0x80, 0xBF)

/-- What a first byte starts, unless it is a character of its own. -/
def start? (b : Nat) : Option Pending :=
  if 0xC2 ≤ b ∧ b ≤ 0xDF then some ⟨b - 0xC0, [anyContinuation]⟩
  else if b = 0xE0 then some ⟨0, [(0xA0, 0xBF), anyContinuation]⟩
  else if b = 0xED then some ⟨0xD, [(0x80, 0x9F), anyContinuation]⟩
  else if 0xE1 ≤ b ∧ b ≤ 0xEF then some ⟨b - 0xE0, [anyContinuation, anyContinuation]⟩
  else if b = 0xF0 then some ⟨0, [(0x90, 0xBF), anyContinuation, anyContinuation]⟩
  else if 0xF1 ≤ b ∧ b ≤ 0xF3 then
    some ⟨b - 0xF0, [anyContinuation, anyContinuation, anyContinuation]⟩
  else if b = 0xF4 then some ⟨4, [(0x80, 0x8F), anyContinuation, anyContinuation]⟩
  else none

/-- The characters that a byte ends, and the one that it starts. -/
def first (b : Nat) : List Char × Option Pending :=
  if b < 0x80 then ([Char.ofNat b], none)
  else
    match start? b with
    | some pending => ([], some pending)
    | none => ([replacement], none)

/-- One more byte. -/
def step (pending : Option Pending) (b : Nat) : List Char × Option Pending :=
  match pending with
  | none => first b
  | some ⟨bits, range :: ranges⟩ =>
    if range.1 ≤ b ∧ b ≤ range.2 then
      let bits := bits * 64 + (b - 0x80)
      if ranges.isEmpty then ([Char.ofNat bits], none) else ([], some ⟨bits, ranges⟩)
    else
      let (chars, pending) := first b
      (replacement :: chars, pending)
  | some ⟨_, []⟩ => first b

def decodeFrom (pending : Option Pending) : List UInt8 → List Char
  | [] => if pending.isSome then [replacement] else []
  | b :: rest =>
    let (chars, pending) := step pending b.toNat
    chars ++ decodeFrom pending rest

/-- The text of any bytes. -/
def decodeLossy (bytes : List UInt8) : String :=
  String.ofList (decodeFrom none bytes)

end CloudAudit.Text.Utf8
