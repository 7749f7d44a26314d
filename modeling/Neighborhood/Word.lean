/-!
# Words as bytes

* `bytesBE`, `wordBE` — 32 bits, most significant byte first
* `bytesLE`, `wordLE` — 32 bits, least significant byte first
* `halfBytesLE`, `halfLE` — 16 bits, least significant byte first
-/

namespace Neighborhood

def bytesBE (w : UInt32) : List UInt8 :=
  [(w >>> 24).toUInt8, (w >>> 16).toUInt8, (w >>> 8).toUInt8, w.toUInt8]

def wordBE (b₀ b₁ b₂ b₃ : UInt8) : UInt32 :=
  (b₀.toUInt32 <<< 24) ||| (b₁.toUInt32 <<< 16) ||| (b₂.toUInt32 <<< 8) ||| b₃.toUInt32

def bytesLE (w : UInt32) : List UInt8 :=
  [w.toUInt8, (w >>> 8).toUInt8, (w >>> 16).toUInt8, (w >>> 24).toUInt8]

def wordLE (b₀ b₁ b₂ b₃ : UInt8) : UInt32 :=
  wordBE b₃ b₂ b₁ b₀

def halfBytesLE (h : UInt16) : List UInt8 :=
  [h.toUInt8, (h >>> 8).toUInt8]

def halfLE (b₀ b₁ : UInt8) : UInt16 :=
  b₀.toUInt16 ||| (b₁.toUInt16 <<< 8)

end Neighborhood
