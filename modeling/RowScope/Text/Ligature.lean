/-
Letters that are written as one.

* `Ligature.isLam`, `Ligature.isAlef` — letters of Arabic that join;
* `Ligature.isKhmer` — letters of Khmer that a sign sets below the one before;
* `Ligature.isTifinagh` — consonants of Tifinagh, which a joiner binds;
* `Ligature.isLisuTone`, `Ligature.isLisuEnd` — marks of tone of Lisu, of which two form one.
-/
import RowScope.Text.Ranges

namespace RowScope.Ligature

/-- The forms of the Arabic letter lam. -/
def lams : Ranges :=
  ⟨[(0x644, 0x644), (0x6b5, 0x6b8), (0x76a, 0x76a), (0x8a6, 0x8a6), (0x8c7, 0x8c7)]⟩

/-- The forms of the Arabic letter alef. -/
def alefs : Ranges :=
  ⟨[(0x622, 0x623), (0x625, 0x625), (0x627, 0x627), (0x671, 0x673), (0x675, 0x675),
    (0x773, 0x774), (0x870, 0x882)]⟩

/-- The letters of Khmer that may stand below another. -/
def khmer : Ranges :=
  ⟨[(0x1780, 0x1782), (0x1784, 0x1787), (0x1789, 0x178c), (0x178e, 0x1793), (0x1795, 0x1798),
    (0x179b, 0x179d), (0x17a0, 0x17a0), (0x17a2, 0x17a2), (0x17a7, 0x17a7), (0x17ab, 0x17ac),
    (0x17af, 0x17af)]⟩

def isLam (c : Char) : Bool :=
  lams.contains c

def isAlef (c : Char) : Bool :=
  alefs.contains c

/-- Whether a character is a letter of Khmer that may stand below another. -/
def isKhmer (c : Char) : Bool :=
  khmer.contains c

/-- Whether a character is a consonant of Tifinagh. -/
def isTifinagh (c : Char) : Bool :=
  (0x2d31 ≤ c.toNat && c.toNat ≤ 0x2d65) || c.toNat == 0x2d6f

/-- Whether a character is the first of two marks of tone of Lisu. -/
def isLisuTone (c : Char) : Bool :=
  0xa4f8 ≤ c.toNat && c.toNat ≤ 0xa4fb

/-- Whether a character is the second of two marks of tone of Lisu. -/
def isLisuEnd (c : Char) : Bool :=
  c.toNat == 0xa4fc || c.toNat == 0xa4fd

end RowScope.Ligature
