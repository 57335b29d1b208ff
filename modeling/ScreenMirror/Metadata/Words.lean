/-!
# Words in bytes

Metadata is handed over as bytes.  A word of 32 bits takes four of them, the
lowest first.
-/

namespace ScreenMirror

abbrev Bytes := List UInt8

namespace Bytes

def ofWord (w : UInt32) : Bytes :=
  [w.toUInt8, (w >>> 8).toUInt8, (w >>> 16).toUInt8, (w >>> 24).toUInt8]

def ofWords (ws : List UInt32) : Bytes := ws.flatMap ofWord

def word (b0 b1 b2 b3 : UInt8) : UInt32 :=
  b0.toUInt32 ||| (b1.toUInt32 <<< 8) ||| (b2.toUInt32 <<< 16) ||| (b3.toUInt32 <<< 24)

/-- The words of bytes in order; bytes that do not fill a word are left out. -/
def toWords : Bytes → List UInt32
  | b0 :: b1 :: b2 :: b3 :: rest => word b0 b1 b2 b3 :: toWords rest
  | _ => []

end Bytes

end ScreenMirror
