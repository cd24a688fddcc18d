import Linewise.Text.RangeTable

/-!
# Scripts — the writing systems of a character

A character belongs to one script, or to a class of characters that several scripts share.  Shared
characters may still be listed as used with a script.
-/

namespace Linewise

/-- The code points of the Greek script. -/
def greekRanges : RangeTable :=
  ⟨[(0x370, 0x373), (0x375, 0x377), (0x37A, 0x37D), (0x37F, 0x37F), (0x384, 0x384), (0x386, 0x386),
    (0x388, 0x38A), (0x38C, 0x38C), (0x38E, 0x3A1), (0x3A3, 0x3E1), (0x3F0, 0x3FF),
    (0x1D26, 0x1D2A), (0x1D5D, 0x1D61), (0x1D66, 0x1D6A), (0x1DBF, 0x1DBF), (0x1F00, 0x1F15),
    (0x1F18, 0x1F1D), (0x1F20, 0x1F45), (0x1F48, 0x1F4D), (0x1F50, 0x1F57), (0x1F59, 0x1F59),
    (0x1F5B, 0x1F5B), (0x1F5D, 0x1F5D), (0x1F5F, 0x1F7D), (0x1F80, 0x1FB4), (0x1FB6, 0x1FC4),
    (0x1FC6, 0x1FD3), (0x1FD6, 0x1FDB), (0x1FDD, 0x1FEF), (0x1FF2, 0x1FF4), (0x1FF6, 0x1FFE),
    (0x2126, 0x2126), (0xAB65, 0xAB65), (0x10140, 0x1018E), (0x101A0, 0x101A0),
    (0x1D200, 0x1D245)], by decide +kernel⟩

/-- The shared code points that are used with the Greek script. -/
def sharedGreekRanges : RangeTable :=
  ⟨[(0xB7, 0xB7), (0x300, 0x301), (0x304, 0x304), (0x306, 0x306), (0x308, 0x308), (0x313, 0x313),
    (0x342, 0x342), (0x345, 0x345), (0x374, 0x374), (0x1DC0, 0x1DC1), (0x205D, 0x205D)], by decide⟩

def isGreek (c : Char) : Bool := greekRanges.contains c

def isUsedInGreek (c : Char) : Bool := isGreek c || sharedGreekRanges.contains c

end Linewise
