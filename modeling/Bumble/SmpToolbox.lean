import Mathlib
import Bumble.ByteOrder

/-!
# The SMP cryptographic toolbox (`bumble-crypto/src/lib.rs`)

AES-CMAC and the security functions `e`, `c1`, `s1`, `f4`, `f5`, `f6`, `g2`, `h6`
and `h7` over it.  The block cipher itself and the P-256 key pair come from other crates,
so both are parameters: a `Primitives` value is what the toolbox takes from
them.  Arrays of a fixed length are vectors of octets.
-/

namespace Bumble.Smp

abbrev Octets (n : Nat) := Vector UInt8 n

/-- What comes from the `aes` and `p256` crates; `κ` is the type of key pairs.
    The error of a key agreement with a point off the curve carries nothing its
    callers read. -/
structure Primitives (κ : Type) where
  aesEncryptBlock : Octets 16 → Octets 16 → Octets 16
  publicX : κ → Octets 32
  publicY : κ → Octets 32
  dh : κ → Octets 32 → Octets 32 → Option (Octets 32)

/-- The assumption on the key agreement: every key pair's own point is accepted,
    and both sides derive the same secret. -/
def Primitives.Commutes {κ : Type} (prim : Primitives κ) : Prop :=
  ∀ a b, ∃ secret, prim.dh a (prim.publicX b) (prim.publicY b) = some secret ∧
    prim.dh b (prim.publicX a) (prim.publicY a) = some secret

/-! ## 1. Blocks -/

def zeroBlock : Octets 16 := Vector.replicate 16 0

def xorBlock (x y : Octets 16) : Octets 16 := Vector.zipWith (· ^^^ ·) x y

/-- `copy_from_slice` into sixteen octets, which panics on any other length. -/
def toArray16 (data : Bytes) : Option (Octets 16) :=
  if hsize : data.length = 16 then some ⟨data.toArray, hsize⟩ else none

theorem toArray16_of_length {data : Bytes} (hlength : data.length = 16) :
    toArray16 data = some (Vector.ofFn fun i => data.getD i 0) := by
  rw [toArray16, dif_pos hlength]
  congr 1
  apply Vector.ext
  intro i hi
  simp [hlength]

/-- The sixteen octets of `m` from `16 * index` on, filled up with zeros. -/
def blockAt (m : Bytes) (index : Nat) : Octets 16 :=
  Vector.ofFn fun j => m.getD (16 * index + j) 0

/-! ## 2. AES-CMAC -/

/-- Left shift of a big-endian block by one bit, reduced when a bit falls out. -/
def cmacDouble (input : Octets 16) : Octets 16 :=
  let shifted : Octets 16 := Vector.ofFn fun i =>
    (input[i] <<< 1) ||| (if hnext : i.val + 1 < 16 then input[i.val + 1] >>> 7 else 0)
  if input[0] >>> 7 = 1 then shifted.set 15 (shifted[15] ^^^ 0x87) else shifted

section Toolbox

variable {κ : Type} (prim : Primitives κ)

/-- The chaining value after all blocks of the message but the last. -/
def cmacChain (key : Octets 16) (m : Bytes) (count : Nat) : Octets 16 :=
  (List.range count).foldl
    (fun x index => prim.aesEncryptBlock key (xorBlock x (blockAt m index))) zeroBlock

/-- The last block, complete or padded, under its subkey. -/
def cmacLast (key : Octets 16) (m : Bytes) (n : Nat) : Octets 16 :=
  let k1 := cmacDouble (prim.aesEncryptBlock key zeroBlock)
  let k2 := cmacDouble k1
  if m ≠ [] ∧ m.length % 16 = 0 then xorBlock (blockAt m (n - 1)) k1
  else xorBlock (blockAt (m ++ [0x80]) (n - 1)) k2

def aesCmac (m : Bytes) (key : Octets 16) : Octets 16 :=
  let n := max ((m.length + 15) / 16) 1
  prim.aesEncryptBlock key (xorBlock (cmacChain prim key m (n - 1)) (cmacLast prim key m n))

/-! ## 3. The security functions -/

/-- The security function `e`, with its key, input and output swapped. -/
def e (key data : Octets 16) : Octets 16 :=
  (prim.aesEncryptBlock key.reverse data.reverse).reverse

/-- The legacy confirm value; `none` where the `xor` of two lengths panics. -/
def c1 (k r : Octets 16) (preq pres : Bytes) (iat rat : UInt8) (ia ra : Octets 6) :
    Option (Octets 16) :=
  let p2 : Octets 16 := ra ++ ia ++ Vector.replicate 4 (0 : UInt8)
  (toArray16 ([iat, rat] ++ preq ++ pres)).map fun p1 =>
    e prim k (xorBlock (e prim k (xorBlock r p1)) p2)

/-- The legacy short term key, from the low halves of the two randoms. -/
def s1 (k r1 r2 : Octets 16) : Octets 16 :=
  e prim k (Vector.ofFn fun i =>
    if hi : i.val < 8 then r2[i.val] else r1[i.val - 8])

def f4 (u v : Octets 32) (x : Octets 16) (z : UInt8) : Octets 16 :=
  (aesCmac prim (u.reverse.toList ++ v.reverse.toList ++ [z]) x.reverse).reverse

def f5Salt : Octets 16 :=
  #v[0x6C, 0x88, 0x83, 0x91, 0xAA, 0xF5, 0xA5, 0x38, 0x60, 0x37, 0x0B, 0xDB, 0x5A, 0x60, 0x83,
    0xBE]

def f5 (w : Octets 32) (n1 n2 : Octets 16) (a1 a2 : Octets 7) : Octets 16 × Octets 16 :=
  let t := aesCmac prim w.reverse.toList f5Salt
  let build (counter : UInt8) : Octets 16 :=
    (aesCmac prim ([counter] ++ [0x62, 0x74, 0x6C, 0x65] ++ n1.reverse.toList ++
      n2.reverse.toList ++ a1.reverse.toList ++ a2.reverse.toList ++ [1, 0]) t).reverse
  (build 0, build 1)

def f6 (w n1 n2 r : Octets 16) (ioCap : Octets 3) (a1 a2 : Octets 7) : Octets 16 :=
  (aesCmac prim (n1.reverse.toList ++ n2.reverse.toList ++ r.reverse.toList ++
    ioCap.reverse.toList ++ a1.reverse.toList ++ a2.reverse.toList) w.reverse).reverse

/-- The numeric comparison value: the last four octets of the MAC, big-endian. -/
def g2 (u v : Octets 32) (x y : Octets 16) : UInt32 :=
  let mac := aesCmac prim (u.reverse.toList ++ v.reverse.toList ++ y.reverse.toList) x.reverse
  UInt32.ofNat (mac[12].toNat * 2 ^ 24 + mac[13].toNat * 2 ^ 16 + mac[14].toNat * 2 ^ 8 +
    mac[15].toNat)

def h6 (w : Octets 16) (keyId : Bytes) : Octets 16 :=
  (aesCmac prim keyId w.reverse).reverse

def h7 (salt w : Octets 16) : Octets 16 :=
  (aesCmac prim w.reverse.toList salt).reverse

end Toolbox

end Bumble.Smp
