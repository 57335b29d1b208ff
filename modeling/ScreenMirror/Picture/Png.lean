import ScreenMirror.Picture.Basic

/-!
# Pictures as PNG files

A PNG file of eight bits for each channel.  The rows are kept as they are, in
stored blocks, so that a picture can be read off its file.
-/

namespace ScreenMirror.Png

def ofList (bytes : List UInt8) : ByteArray := ByteArray.mk bytes.toArray

def word (n : UInt32) : ByteArray :=
  ofList ([(24 : UInt32), 16, 8, 0].map fun shift => (n >>> shift).toUInt8)

/-- A checksum register after one shift. -/
def checkShift (r : UInt32) : UInt32 :=
  if r &&& 1 = 1 then (0xedb88320 : UInt32) ^^^ (r >>> 1) else r >>> 1

/-- A checksum register after one more byte. -/
def checkByte (r : UInt32) (byte : UInt8) : UInt32 :=
  (List.range 8).foldl (fun r _ => checkShift r) ((r ^^^ byte.toUInt32) &&& 0xff) ^^^ (r >>> 8)

def cyclicCheck (bytes : ByteArray) : UInt32 := bytes.foldl checkByte 0xffffffff ^^^ 0xffffffff

def sumCheck (bytes : ByteArray) : UInt32 :=
  let (a, b) := bytes.foldl (fun ((a, b) : Nat × Nat) byte =>
    let a := (a + byte.toNat) % 65521
    (a, (b + a) % 65521)) (1, 0)
  UInt32.ofNat (b * 65536 + a)

/-- A part of a file: its length, its kind, its bytes and their checksum. -/
def chunk (kind : String) (bytes : ByteArray) : ByteArray :=
  let checked := kind.toUTF8 ++ bytes
  word (UInt32.ofNat bytes.size) ++ checked ++ word (cyclicCheck checked)

def blockLength : Nat := 65535

/-- The mark before a stored block of some length. -/
def blockHeader (isLast : Bool) (length : Nat) : ByteArray :=
  let size := UInt16.ofNat length
  ofList [if isLast then 1 else 0, size.toUInt8, (size >>> 8).toUInt8, (~~~size).toUInt8,
    (~~~size >>> 8).toUInt8]

/-- Bytes in stored blocks, from a place on. -/
def storedFrom (bytes done : ByteArray) (start : Nat) : ByteArray :=
  let stop := start + blockLength
  if _h : stop < bytes.size then
    storedFrom bytes (done ++ blockHeader false blockLength ++ bytes.extract start stop) stop
  else done ++ blockHeader true (bytes.size - start) ++ bytes.extract start bytes.size
termination_by bytes.size - start
decreasing_by unfold blockLength at *; omega

def pushColor (bytes : ByteArray) (color : Rgba) : ByteArray :=
  let c := color.toStraight
  (((bytes.push c.red).push c.green).push c.blue).push c.alpha

/-- The rows of a picture, each behind a mark that its bytes are kept as they are. -/
def rows (p : Picture) : ByteArray :=
  (List.range p.height.toNat).foldl (fun bytes y =>
    (List.range p.width.toNat).foldl (fun bytes x => pushColor bytes (p.pixel x y))
      (bytes.push 0)) ByteArray.empty

def signature : ByteArray := ofList [0x89, 0x50, 0x4e, 0x47, 0x0d, 0x0a, 0x1a, 0x0a]

def encode (p : Picture) : ByteArray :=
  let data := rows p
  signature ++ chunk "IHDR" (word p.width ++ word p.height ++ ofList [8, 6, 0, 0, 0]) ++
    chunk "IDAT" (storedFrom data (ofList [0x78, 0x01]) 0 ++ word (sumCheck data)) ++
    chunk "IEND" ByteArray.empty

end ScreenMirror.Png
