import Chronogram.Picture.Data

/-!
The sizes of bitmaps.

Each format of bitmaps starts with a signature of its own and has the size of the bitmap in its
header, in two, three or four bytes a side.
-/

namespace Chronogram.Picture

/-- The number of some bytes, the greatest first. -/
def numberOf (bytes : List UInt8) : Nat :=
  bytes.foldl (fun number byte => 256 * number + byte.toNat) 0

def bytesAt? (bytes : List UInt8) (place count : Nat) : Option (List UInt8) :=
  let found := (bytes.drop place).take count
  if found.length = count then some found else none

/-- The number at a place, the greatest byte first. -/
def forwardNumber? (bytes : List UInt8) (place count : Nat) : Option Nat :=
  (bytesAt? bytes place count).map numberOf

/-- The number at a place, the least byte first. -/
def backwardNumber? (bytes : List UInt8) (place count : Nat) : Option Nat :=
  (bytesAt? bytes place count).map fun found => numberOf found.reverse

def hasAt (bytes : List UInt8) (place : Nat) (text : String) : Bool :=
  bytesAt? bytes place text.length = some (text.toList.map fun c => UInt8.ofNat c.toNat)

def isFrameKind (kind : UInt8) : Bool :=
  0xC0 ≤ kind && kind ≤ 0xCF && kind ≠ 0xC4 && kind ≠ 0xC8 && kind ≠ 0xCC

/-- The size in the first frame among segments. Images within the image are passed over; `depth`
counts those that are open. Every segment takes at least two bytes, which the fuel bounds. -/
def frameSize? : Nat → Nat → List UInt8 → Option (Nat × Nat)
  | fuel + 1, depth, 0xFF :: kind :: rest =>
      if isFrameKind kind && depth = 0 then do
        let height ← forwardNumber? rest 3 2
        let width ← forwardNumber? rest 5 2
        some (width, height)
      else if kind = 0xD9 && depth = 0 then none
      else do
        let length ← forwardNumber? rest 0 2
        let depth :=
          if kind = 0xD8 then depth + 1 else if kind = 0xD9 then depth - 1 else depth
        if length < 2 then none else frameSize? fuel depth (rest.drop length)
  | _, _, _ => none

/-- The size of a bitmap in chunks, whose first chunk says how it is compressed. -/
def chunkedSize? (bytes : List UInt8) : Option (Nat × Nat) :=
  if hasAt bytes 12 "VP8 " then do
    let width ← backwardNumber? bytes 26 2
    let height ← backwardNumber? bytes 28 2
    some (width, height)
  else if hasAt bytes 12 "VP8L" then do
    let sides ← backwardNumber? bytes 21 4
    some (sides % 16384 + 1, sides / 16384 % 16384 + 1)
  else if hasAt bytes 12 "VP8X" then do
    let width ← backwardNumber? bytes 24 3
    let height ← backwardNumber? bytes 27 3
    some (width + 1, height + 1)
  else none

def bitmapSize? (bytes : List UInt8) : Option (Nat × Nat) :=
  if (bytesAt? bytes 0 12).isNone then none
  else if bytesAt? bytes 0 8 = some [0x89, 0x50, 0x4E, 0x47, 0x0D, 0x0A, 0x1A, 0x0A] then do
    let width ← forwardNumber? bytes 16 4
    let height ← forwardNumber? bytes 20 4
    some (width, height)
  else if bytesAt? bytes 0 3 = some [0xFF, 0xD8, 0xFF] then
    frameSize? bytes.length 0 (bytes.drop 2)
  else if hasAt bytes 0 "GIF8" then do
    let width ← backwardNumber? bytes 6 2
    let height ← backwardNumber? bytes 8 2
    some (width, height)
  else if hasAt bytes 0 "RIFF" && hasAt bytes 8 "WEBP" then chunkedSize? bytes
  else none

/-- Whether data start with the signature of a bitmap. -/
def isBitmap (bytes : List UInt8) : Bool :=
  (bytesAt? bytes 0 12).isSome &&
    (bytesAt? bytes 0 8 = some [0x89, 0x50, 0x4E, 0x47, 0x0D, 0x0A, 0x1A, 0x0A] ||
      bytesAt? bytes 0 3 = some [0xFF, 0xD8, 0xFF] || hasAt bytes 0 "GIF8" ||
      (hasAt bytes 0 "RIFF" && hasAt bytes 8 "WEBP"))

end Chronogram.Picture
