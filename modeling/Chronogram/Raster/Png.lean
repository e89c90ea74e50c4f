import Chronogram.Raster.Canvas

/-!
Canvases as PNG files.

A canvas has one colour, so its file has a palette with one entry and rows in which every pixel is
that entry. A file is a signature and a row of chunks: the header, the palette, the opacity of its
entry, the rows, and the end. The rows are stored as they are, without compression.
-/

namespace Chronogram.Raster.Png

/-- Bytes of a file. -/
abbrev Bytes := List UInt8

def word (n : Nat) : Bytes :=
  [n >>> 24, n >>> 16, n >>> 8, n].map UInt8.ofNat

/-- A number as two bytes, the lesser first. -/
def shortWord (n : Nat) : Bytes :=
  [n, n >>> 8].map UInt8.ofNat

/-- One step of the division that gives the checksum of a chunk. -/
def checksumStep (rest : UInt32) : UInt32 :=
  if rest &&& 1 = 1 then (rest >>> 1) ^^^ 0xEDB88320 else rest >>> 1

/-- Take a byte into the checksum of a chunk: eight steps. -/
def checksumByte (rest : UInt32) (byte : UInt8) : UInt32 :=
  (List.range 8).foldl (fun rest _ => checksumStep rest) (rest ^^^ byte.toUInt32)

def checksum (bytes : Bytes) : UInt32 :=
  bytes.foldl checksumByte 0xFFFFFFFF ^^^ 0xFFFFFFFF

/-- A chunk: its length, its kind, its data, and the checksum of kind and data. -/
def chunk (kind : String) (data : Bytes) : Bytes :=
  let body := kind.toList.map (fun c => UInt8.ofNat c.toNat) ++ data
  word data.length ++ body ++ word (checksum body).toNat

def streamModulus : Nat := 65521

/-- The checksum of a stream: the sum of its bytes and the sum of these sums. -/
def streamChecksum (bytes : Bytes) : Nat :=
  let (sum, sums) := bytes.foldl
    (fun (sum, sums) byte =>
      let next := (sum + byte.toNat) % streamModulus
      (next, (sums + next) % streamModulus))
    (1, 0)
  (sums <<< 16) + sum

def greatestBlock : Nat := 65535

/-- A stored block: whether it is the last one, its length, the complement of its length, its data.
-/
def block (isLast : Bool) (data : Bytes) : Bytes :=
  (if isLast then 1 else 0) :: shortWord data.length ++
    shortWord (greatestBlock - data.length) ++ data

def blocks (data : Bytes) : Bytes :=
  if data.length ≤ greatestBlock then block true data
  else block false (data.take greatestBlock) ++ blocks (data.drop greatestBlock)
termination_by data.length
decreasing_by simp [greatestBlock] at *; omega

/-- Data as a stream: two bytes that announce it, its blocks, its checksum. -/
def stream (data : Bytes) : Bytes :=
  [0x78, 0x01] ++ blocks data ++ word (streamChecksum data)

/-- The rows of a canvas at one bit for each pixel, each behind a byte for its filter. -/
def rows (canvas : Canvas) : Bytes :=
  List.replicate (canvas.height * (1 + (canvas.width + 7) / 8)) 0

def signature : Bytes := [0x89, 0x50, 0x4E, 0x47, 0x0D, 0x0A, 0x1A, 0x0A]

def ofCanvas (canvas : Canvas) : Bytes :=
  let color := canvas.background
  signature ++
    chunk "IHDR" (word canvas.width ++ word canvas.height ++ [1, 3, 0, 0, 0]) ++
    chunk "PLTE" ([color.red, color.green, color.blue].map UInt8.ofNat) ++
    chunk "tRNS" [UInt8.ofNat color.alpha] ++
    chunk "IDAT" (stream (rows canvas)) ++
    chunk "IEND" []

end Chronogram.Raster.Png
