import AmbientDecls.Text.Basic

/-!
# UTF-8

Where a sequence of bytes stops being UTF-8, and its text with every ill-formed part replaced.
An ill-formed part is as long as it could still have become a character.
-/

namespace AmbientDecls.Utf8

inductive Front where
  /-- A character of so many bytes. -/
  | whole (size : Nat)
  /-- So many bytes that no character starts with. -/
  | broken (size : Nat)
  /-- The beginning of a character that the sequence ends in. -/
  | cut
deriving DecidableEq, Repr, Inhabited

/-- How many bytes follow a first byte, and the bounds of the next one. -/
def followers (b : UInt8) : Option (Nat × UInt8 × UInt8) :=
  if b < 0x80 then some (0, 0, 0)
  else if 0xC2 ≤ b && b ≤ 0xDF then some (1, 0x80, 0xBF)
  else if b = 0xE0 then some (2, 0xA0, 0xBF)
  else if b = 0xED then some (2, 0x80, 0x9F)
  else if 0xE1 ≤ b && b ≤ 0xEF then some (2, 0x80, 0xBF)
  else if b = 0xF0 then some (3, 0x90, 0xBF)
  else if 0xF1 ≤ b && b ≤ 0xF3 then some (3, 0x80, 0xBF)
  else if b = 0xF4 then some (3, 0x80, 0x8F)
  else none

/-- Looks for `count` more bytes, the first between `low` and `high`, after `size` bytes. -/
def continues (size : Nat) : (count : Nat) → (low high : UInt8) → List UInt8 → Front
  | 0, _, _, _ => .whole size
  | _ + 1, _, _, [] => .cut
  | count + 1, low, high, b :: rest =>
    if low ≤ b && b ≤ high then continues (size + 1) count 0x80 0xBF rest else .broken size

/-- What a sequence of bytes that is not empty starts with. -/
def front (b : UInt8) (rest : List UInt8) : Front :=
  match followers b with
  | none => .broken 1
  | some (count, low, high) => continues 1 count low high rest

/-- A fault at `index`: so many bytes that are no character, or the end of the sequence. -/
structure Fault where
  index : Nat
  size : Option Nat
deriving DecidableEq, Repr, Inhabited

/-- The first fault of a sequence whose first byte has the given index. A sequence without one is
at fault where it ends. -/
def firstFault (index : Nat) (bytes : List UInt8) : Fault :=
  match bytes with
  | [] => ⟨index, none⟩
  | b :: rest =>
    match front b rest with
    | .whole size => firstFault (index + size) (rest.drop (size - 1))
    | .broken size => ⟨index, some size⟩
    | .cut => ⟨index, none⟩
termination_by bytes.length
decreasing_by
  simp only [List.length_drop, List.length_cons]
  omega

def Fault.message (f : Fault) : String :=
  match f.size with
  | some n => "invalid utf-8 sequence of " ++ toString n ++ " bytes from index " ++ toString f.index
  | none => "incomplete utf-8 byte sequence from index " ++ toString f.index

/-- The text of bytes, or their first fault. -/
def decode (bytes : ByteArray) : Except Fault Text :=
  match String.fromUTF8? bytes with
  | some s => .ok s.toList
  | none => .error (firstFault 0 bytes.toList)

/-- The character of a first byte and those that follow it. -/
def character (b : UInt8) (following : List UInt8) : Char :=
  let first := match following.length with
    | 0 => b.toNat
    | 1 => b.toNat % 32
    | 2 => b.toNat % 16
    | _ => b.toNat % 8
  Char.ofNat (following.foldl (fun n c => n * 64 + c.toNat % 64) first)

/-- The text of bytes with a replacement character for every ill-formed part. -/
def decodeLossy (bytes : List UInt8) : Text :=
  match bytes with
  | [] => []
  | b :: rest =>
    match front b rest with
    | .whole size => character b (rest.take (size - 1)) :: decodeLossy (rest.drop (size - 1))
    | .broken size => '\uFFFD' :: decodeLossy (rest.drop (size - 1))
    | .cut => ['\uFFFD']
termination_by bytes.length
decreasing_by
  all_goals
    simp only [List.length_drop, List.length_cons]
    omega

end AmbientDecls.Utf8
