/-!
# Octets — binary values written with 64 characters

Characters outside the alphabet are skipped.  The last group must be complete, with `=` in place of
the characters it lacks.
-/

namespace UiTree.Yaml.Octets

/-- Six bits per character. -/
def sextet? (c : Char) : Option Nat :=
  if 'A' ≤ c && c ≤ 'Z' then some (c.toNat - 0x41)
  else if 'a' ≤ c && c ≤ 'z' then some (c.toNat - 0x61 + 26)
  else if c.isDigit then some (c.toNat - 0x30 + 52)
  else if c == '+' then some 62
  else if c == '/' then some 63
  else none

/-- Reads on after `phase` characters of a group, whose last bits are `left`, with `pads` of the
marks that complete a group seen. -/
def decodeFrom (phase left pads : Nat) : List Char → Option (List UInt8)
  | [] => if phase == 0 then some [] else none
  | c :: cs =>
    if c == '=' then
      if phase ≥ 2 && phase + (pads + 1) ≥ 4 then some []
      else decodeFrom phase left (if phase ≥ 2 then pads + 1 else pads) cs
    else
      match sextet? c with
      | none => decodeFrom phase left pads cs
      | some v =>
        match phase with
        | 0 => decodeFrom 1 v 0 cs
        | 1 => (decodeFrom 2 (v % 16) 0 cs).map (UInt8.ofNat (left * 4 + v / 16) :: ·)
        | 2 => (decodeFrom 3 (v % 4) 0 cs).map (UInt8.ofNat (left * 16 + v / 4) :: ·)
        | _ => (decodeFrom 0 0 0 cs).map (UInt8.ofNat (left * 64 + v) :: ·)

/-- The octets that a text spells. -/
def decode? (cs : List Char) : Option (List UInt8) := decodeFrom 0 0 0 cs

end UiTree.Yaml.Octets
