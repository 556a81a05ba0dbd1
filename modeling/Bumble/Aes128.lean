import Mathlib

/-!
# AES-128 encryption of one block

AES-128 on 128-bit numbers, the first octet of a block being the
most significant one.  The sixteen octets of a state are worked on together
wherever the step is linear, so that a block can be encrypted by evaluation.
-/

namespace Bumble.Aes128

/-! ## 1. Octets -/

/-- The octet of a number at a position, counted from the least significant one. -/
def octet (n position : Nat) : Nat := (n >>> (8 * position)) % 256

/-- The substitution table, thirty-two octets a row, each row from its least
    significant octet on. -/
def sboxRows : List Nat :=
  [0xC072A49CAFA2D4ADF04759FA7DC982CA76ABD7FE2B670130C56F6BF27B777C63,
    0x75B227EBE28012079A059618C323C7041531D871F1E5A534CCF73F362693FDB7,
    0xCF584C4A39BECB6A5BB1FC20ED00D153842FE329B3D63B52A05A6E1B1A2C8309,
    0xD2F3FF1021DAB6BCF5389D928F40A351A89F3C507F02F94585334D43FBAAEFD0,
    0xDB0B5EDE14B8EE4688902A22DC4F816073195D643D7EA7C41744975FEC130CCD,
    0x08AE7A65EAF4566CA94ED58D6D37C8E779E4959162ACD3C25C2406490A3A32E0,
    0x9E1DC186B95735610EF6034866B53E708A8BBD4B1F74DDE8C6B4A61C2E2578BA,
    0x16BB54B00F2D99416842E6BF0D89A18CDF2855CEE9871E9B948ED9691198F8E1]

def subOctet (value : Nat) : Nat := octet (sboxRows.getD (value / 32) 0) (value % 32)

/-- Substitute the `count` least significant octets. -/
def subBytes (count n : Nat) : Nat :=
  (List.range count).foldr (fun position sum => sum * 256 + subOctet (octet n position)) 0

/-! ## 2. Linear steps -/

def rotateColumns (s count : Nat) : Nat :=
  ((s <<< (32 * count)) ||| (s >>> (128 - 32 * count))) % 2 ^ 128

def shiftRows (s : Nat) : Nat :=
  (s &&& 0xFF000000FF000000FF000000FF000000) |||
    (rotateColumns s 1 &&& 0x00FF000000FF000000FF000000FF0000) |||
    (rotateColumns s 2 &&& 0x0000FF000000FF000000FF000000FF00) |||
    (rotateColumns s 3 &&& 0x000000FF000000FF000000FF000000FF)

/-- Every octet times `x` in the field of the cipher. -/
def xtime (s : Nat) : Nat :=
  ((s &&& 0x7F7F7F7F7F7F7F7F7F7F7F7F7F7F7F7F) <<< 1) ^^^
    (((s >>> 7) &&& 0x01010101010101010101010101010101) * 0x1B)

/-- Each column turned by `count` rows. -/
def rotateRows (s count : Nat) : Nat :=
  ((s <<< (8 * count)) &&& ((2 ^ 32 - 2 ^ (8 * count)) * 0x00000001000000010000000100000001)) |||
    ((s >>> (32 - 8 * count)) &&& ((2 ^ (8 * count) - 1) * 0x00000001000000010000000100000001))

def mixColumns (s : Nat) : Nat :=
  xtime (s ^^^ rotateRows s 1) ^^^ rotateRows s 1 ^^^ rotateRows s 2 ^^^ rotateRows s 3

/-! ## 3. The cipher -/

def nextKey (key rcon : Nat) : Nat :=
  let w3 := key % 2 ^ 32
  let w0 := (key >>> 96) ^^^ subBytes 4 (((w3 <<< 8) ||| (w3 >>> 24)) % 2 ^ 32) ^^^ (rcon <<< 24)
  let w1 := ((key >>> 64) % 2 ^ 32) ^^^ w0
  let w2 := ((key >>> 32) % 2 ^ 32) ^^^ w1
  (w0 <<< 96) ||| (w1 <<< 64) ||| (w2 <<< 32) ||| (w3 ^^^ w2)

def rcons : List Nat := [0x01, 0x02, 0x04, 0x08, 0x10, 0x20, 0x40, 0x80, 0x1B]

def encrypt (key plain : Nat) : Nat :=
  let (s, key) := rcons.foldl
    (fun (s, key) rcon =>
      let key := nextKey key rcon
      (mixColumns (shiftRows (subBytes 16 s)) ^^^ key, key)) (plain ^^^ key, key)
  shiftRows (subBytes 16 s) ^^^ nextKey key 0x36

example : encrypt 0x2B7E151628AED2A6ABF7158809CF4F3C 0x3243F6A8885A308D313198A2E0370734 =
    0x3925841D02DC09FBDC118597196A0B32 := by decide +kernel

def toNumber (block : Vector UInt8 16) : Nat :=
  block.toList.foldl (fun number value => number * 256 + value.toNat) 0

def ofNumber (number : Nat) : Vector UInt8 16 :=
  Vector.ofFn fun i => UInt8.ofNat (octet number (15 - i))

def encryptBlock (key plain : Vector UInt8 16) : Vector UInt8 16 :=
  ofNumber (encrypt (toNumber key) (toNumber plain))

end Bumble.Aes128
