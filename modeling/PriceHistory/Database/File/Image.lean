/-!
The bytes of a file as numbers. A plain number has its highest byte first. A packed number takes
seven bits from a byte, highest first, and every byte but its last has the high bit set; a ninth
byte gives all its bits and is the last.
-/
namespace PriceHistory.Database

/-- Bytes, with zeros beyond their end. -/
structure Image where
  bytes : Array UInt8
  deriving DecidableEq

namespace Image

variable (image : Image)

/-- The value of a byte. -/
def byte (place : Nat) : Nat :=
  (image.bytes[place]?.getD 0).toNat

/-- The number in so many bytes. -/
def number (place width : Nat) : Nat :=
  (List.range width).foldl (fun n k => 256 * n + image.byte (place + k)) 0

/-- The packed number at a place, and the place after it. -/
def packed (place : Nat) : Nat × Nat :=
  go 8 0 place
where
  go : Nat → Nat → Nat → Nat × Nat
    | 0, n, place => (256 * n + image.byte place, place + 1)
    | more + 1, n, place =>
      let b := image.byte place
      if b < 128 then (128 * n + b, place + 1) else go more (128 * n + (b - 128)) (place + 1)

/-- So many bytes from a place on. -/
def part (place size : Nat) : List UInt8 :=
  let bytes := image.bytes.extract place (place + size)
  bytes.toList ++ List.replicate (size - bytes.size) 0

end Image

/-- A number in so many bytes. -/
def numberBytes : (width : Nat) → Nat → List UInt8
  | 0, _ => []
  | width + 1, n => numberBytes width (n / 256) ++ [UInt8.ofNat n]

/-- A packed number below two to the power of 56. -/
def packedBytes (n : Nat) : List UInt8 :=
  go 7 (n / 128) ++ [UInt8.ofNat (n % 128)]
where
  go : Nat → Nat → List UInt8
    | 0, _ => []
    | more + 1, n => if n = 0 then [] else go more (n / 128) ++ [UInt8.ofNat (128 + n % 128)]

end PriceHistory.Database
