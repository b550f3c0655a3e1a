/-!
# Digests of names

Types and methods are identified by 64-bit digests. The digest of a name is the XXH64 hash of its
UTF-8 bytes with seed 0; the digest of a method folds its parameters in order, so the order matters.
-/

namespace TypedExpr

namespace XXH64

def prime1 : UInt64 := 0x9E3779B185EBCA87
def prime2 : UInt64 := 0xC2B2AE3D27D4EB4F
def prime3 : UInt64 := 0x165667B19E3779F9
def prime4 : UInt64 := 0x85EBCA77C2B2AE63
def prime5 : UInt64 := 0x27D4EB2F165667C5

def rotate (x amount : UInt64) : UInt64 := (x <<< amount) ||| (x >>> (64 - amount))

/-- The number whose base-256 digits are the bytes, the lowest first. -/
def littleEndian : List UInt8 → UInt64
  | [] => 0
  | b :: rest => b.toUInt64 + 256 * littleEndian rest

def round (acc lane : UInt64) : UInt64 := rotate (acc + lane * prime2) 31 * prime1

/-- Four running sums, each fed with every fourth lane of eight bytes. -/
structure Lanes where
  a : UInt64
  b : UInt64
  c : UInt64
  d : UInt64

def Lanes.start : Lanes := ⟨prime1 + prime2, prime2, 0, 0 - prime1⟩

def Lanes.absorb (s : Lanes) (stripe : List UInt8) : Lanes :=
  let lane (i : Nat) := littleEndian ((stripe.drop (8 * i)).take 8)
  ⟨round s.a (lane 0), round s.b (lane 1), round s.c (lane 2), round s.d (lane 3)⟩

def Lanes.combine (s : Lanes) : UInt64 :=
  let merged := rotate s.a 1 + rotate s.b 7 + rotate s.c 12 + rotate s.d 18
  [s.a, s.b, s.c, s.d].foldl (fun acc lane => (acc ^^^ round 0 lane) * prime1 + prime4) merged

/-- Feeds the whole stripes of 32 bytes and returns the remaining bytes; at most `rounds` stripes. -/
def absorbStripes : (rounds : Nat) → Lanes → List UInt8 → Lanes × List UInt8
  | 0, s, bytes => (s, bytes)
  | rounds + 1, s, bytes =>
    if 32 ≤ bytes.length then absorbStripes rounds (s.absorb (bytes.take 32)) (bytes.drop 32) else (s, bytes)

def absorbByte (acc : UInt64) (b : UInt8) : UInt64 := rotate (acc ^^^ (b.toUInt64 * prime5)) 11 * prime1

def absorbHalf (acc : UInt64) (word : UInt64) : UInt64 :=
  rotate (acc ^^^ (word * prime1)) 23 * prime2 + prime3

def absorbWord (acc : UInt64) (word : UInt64) : UInt64 := rotate (acc ^^^ round 0 word) 27 * prime1 + prime4

/-- Feeds eight bytes at a time, then at most once four, then single bytes. -/
def absorbRest : (words : Nat) → UInt64 → List UInt8 → UInt64
  | words + 1, acc, bytes =>
    if 8 ≤ bytes.length then absorbRest words (absorbWord acc (littleEndian (bytes.take 8))) (bytes.drop 8)
    else absorbRest 0 acc bytes
  | 0, acc, bytes =>
    if 4 ≤ bytes.length then
      (bytes.drop 4).foldl absorbByte (absorbHalf acc (littleEndian (bytes.take 4)))
    else bytes.foldl absorbByte acc

def avalanche (acc : UInt64) : UInt64 :=
  let acc := (acc ^^^ (acc >>> 33)) * prime2
  let acc := (acc ^^^ (acc >>> 29)) * prime3
  acc ^^^ (acc >>> 32)

/-- The XXH64 hash with seed 0. -/
def hash (bytes : List UInt8) : UInt64 :=
  let size := bytes.length
  let (lanes, rest) := absorbStripes (size / 32) .start bytes
  let acc := if size < 32 then prime5 else lanes.combine
  avalanche (absorbRest (rest.length / 8) (acc + size.toUInt64) rest)

end XXH64

/-- The identity of a type or of a method. -/
structure Digest where
  value : UInt64
  deriving DecidableEq, Repr, Hashable, Inhabited

namespace Digest

/-- Stands in for an owner that has no digest of its own. -/
def empty : Digest := ⟨0⟩

def isEmpty (d : Digest) : Bool := d.value == 0

def ofText (s : String) : UInt64 := XXH64.hash s.toUTF8.toList

/-- The digest of the type with this name. -/
def ofName (name : String) : Digest := ⟨0x2fac10b63a6cc57c ^^^ ofText name⟩

/-- Marks of the first eight parameter positions. -/
def positionMarks : List UInt64 :=
  [0x9e3779b97f4a7c15, 0xbf58476d1ce4e5b9, 0x94d049bb133111eb, 0xd6e8feb86659fd93,
   0xe7037ed1a0b428db, 0xc6a4a7935bd1e995, 0x8648dbbc94d49b8d, 0xa2b48b2c69e0d657]

def positionMark (i : Nat) : UInt64 := positionMarks.getD i (0x9e3779b97f4a7c15 + i.toUInt64)

def foldParameters (acc : UInt64) (position : Nat) : List Digest → UInt64
  | [] => acc
  | p :: rest => foldParameters (acc * 0x4bc94d6bd06053ad + (positionMark position ^^^ p.value)) (position + 1) rest

/-- The digest of a method: its owner, its name and its parameters in order. -/
def ofMethod (owner : Digest) (name : String) (parameters : List Digest) : Digest :=
  ⟨foldParameters (0x7d3c8b4a92e15f6d ^^^ owner.value ^^^ ofText name) 0 parameters⟩

def hexDigits (n width : Nat) : String :=
  let digits := Nat.toDigits 16 n
  String.ofList (List.replicate (width - digits.length) '0' ++ digits)

def text (d : Digest) : String := "0x" ++ hexDigits d.value.toNat 16

end Digest
end TypedExpr
