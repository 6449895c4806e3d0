/-!
UTF-8. Decoding goes through `scan`, which gives a character or a gap for each well-formed sequence
or longest beginning of one; a gap becomes U+FFFD or makes the whole text unreadable.
-/

set_option autoImplicit false
set_option relaxedAutoImplicit false

namespace Pressroom.Text.Utf8

def encodeChar (c : Char) : List UInt8 :=
  let n := c.toNat
  if n < 0x80 then [n.toUInt8]
  else if n < 0x800 then [(0xC0 + n / 64).toUInt8, (0x80 + n % 64).toUInt8]
  else if n < 0x10000 then
    [(0xE0 + n / 4096).toUInt8, (0x80 + n / 64 % 64).toUInt8, (0x80 + n % 64).toUInt8]
  else
    [(0xF0 + n / 262144).toUInt8, (0x80 + n / 4096 % 64).toUInt8, (0x80 + n / 64 % 64).toUInt8,
      (0x80 + n % 64).toUInt8]

def encode (cs : List Char) : List UInt8 :=
  cs.flatMap encodeChar

def isTail (b : UInt8) : Bool :=
  0x80 ≤ b && b ≤ 0xBF

/-- What a first byte above ASCII announces: how many bytes follow, and the bounds of the next. -/
def lead? (a : UInt8) : Option (Nat × UInt8 × UInt8) :=
  if a < 0xC2 then none
  else if a < 0xE0 then some (1, 0x80, 0xBF)
  else if a = 0xE0 then some (2, 0xA0, 0xBF)
  else if a = 0xED then some (2, 0x80, 0x9F)
  else if a < 0xF0 then some (2, 0x80, 0xBF)
  else if a = 0xF0 then some (3, 0x90, 0xBF)
  else if a < 0xF4 then some (3, 0x80, 0xBF)
  else if a = 0xF4 then some (3, 0x80, 0x8F)
  else none

/-- The low bits of a byte after the first. -/
def low (b : UInt8) : Nat := b.toNat - 0x80

/-- The characters of some bytes, and a gap for each longest beginning of a sequence that goes
wrong. -/
def scan : List UInt8 → List (Option Char)
  | [] => []
  | a :: rest =>
    if a < 0x80 then some (Char.ofNat a.toNat) :: scan rest
    else
      match lead? a, rest with
      | none, rest => none :: scan rest
      | some _, [] => [none]
      | some (more, least, most), b :: rest =>
        if b < least || most < b then none :: scan (b :: rest)
        else if more = 1 then some (Char.ofNat ((a.toNat - 0xC0) * 64 + low b)) :: scan rest
        else
          match rest with
          | [] => [none]
          | c :: rest =>
            if !isTail c then none :: scan (c :: rest)
            else if more = 2 then
              some (Char.ofNat ((a.toNat - 0xE0) * 4096 + low b * 64 + low c)) :: scan rest
            else
              match rest with
              | [] => [none]
              | d :: rest =>
                if !isTail d then none :: scan (d :: rest)
                else
                  some (Char.ofNat
                    ((a.toNat - 0xF0) * 262144 + low b * 4096 + low c * 64 + low d)) :: scan rest

def replacement : Char := '\uFFFD'

def decodeLossy (bs : List UInt8) : List Char :=
  (scan bs).map (·.getD replacement)

def decode? (bs : List UInt8) : Option (List Char) :=
  (scan bs).mapM id

end Pressroom.Text.Utf8
