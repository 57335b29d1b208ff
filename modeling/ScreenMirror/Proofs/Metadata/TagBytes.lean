import ScreenMirror.Metadata.Basic

/-!
# Numbers in tags

A tag is a row of numbers, four bytes for each and the lowest first (`littleEndian`).  Four
numbers tell the colours of a buffer: the code points of its gamut (`encode_tells`).
-/

namespace ScreenMirror

namespace Bytes

/-- The numbers that bytes stand for, four bytes for each and the lowest first. -/
def littleEndian : Bytes → List Nat
  | b0 :: b1 :: b2 :: b3 :: rest =>
    (b0.toNat + 256 * (b1.toNat + 256 * (b2.toNat + 256 * b3.toNat))) :: littleEndian rest
  | _ => []

theorem littleEndian_ofWords (ws : List UInt32) :
    littleEndian (ofWords ws) = ws.map UInt32.toNat := by
  induction ws with
  | nil => rfl
  | cons w rest ih =>
    have digits : w.toUInt8.toNat + 256 * ((w >>> 8).toUInt8.toNat +
        256 * ((w >>> 16).toUInt8.toNat + 256 * (w >>> 24).toUInt8.toNat)) = w.toNat := by
      have small := w.toNat_lt
      simp [Nat.shiftRight_eq_div_pow]
      omega
    exact List.cons_eq_cons.mpr ⟨digits, ih⟩

theorem length_ofWords (ws : List UInt32) : (ofWords ws).length = 4 * ws.length := by
  induction ws with
  | nil => rfl
  | cons w rest ih =>
    show (ofWord w ++ ofWords rest).length = _
    rw [List.length_append, ih, List.length_cons]
    show 4 + _ = _
    omega

end Bytes

/-! ### Colours -/

namespace ColorGamut

/-- The code points of a gamut in H.273: primaries, transfer curve, matrix, and the full range.
The native gamut has none. -/
inductive Coded : ColorGamut → List Nat → Prop where
  /-- Primaries and matrix of BT.709, with the curve of sRGB. -/
  | srgb : Coded .srgb [1, 13, 1, 1]
  /-- P3 primaries with the white point D65, else as for sRGB. -/
  | displayP3 : Coded .displayP3 [12, 13, 1, 1]
  /-- Primaries and matrix of BT.2020, with the HLG curve. -/
  | bt2020 : Coded .bt2020 [9, 18, 9, 1]
  | bt2100Hlg : Coded .bt2100Hlg [9, 18, 9, 1]

/-- Bytes that tell a consumer the colours of a gamut, and nothing else. -/
structure ToldBy (gamut : ColorGamut) (bytes : Bytes) : Prop where
  length : bytes.length = 16
  codes : gamut.Coded (Bytes.littleEndian bytes)

variable {gamut : ColorGamut} {space : ColorSpace}

theorem encode_tells (found : gamut.space? = some space) : gamut.ToldBy space.encode where
  length := Bytes.length_ofWords _
  codes := by
    rw [ColorSpace.encode, Bytes.littleEndian_ofWords]
    cases gamut with
    | native => cases found
    | srgb => cases found; exact .srgb
    | displayP3 => cases found; exact .displayP3
    | bt2020 => cases found; exact .bt2020
    | bt2100Hlg => cases found; exact .bt2100Hlg

end ColorGamut

end ScreenMirror
