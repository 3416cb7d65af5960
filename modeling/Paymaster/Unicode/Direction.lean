import Paymaster.Unicode.Mark

/-!
# Directions of writing

The direction in which a character runs, for the characters that labels of host names may hold;
all others count as running left to right.  The table is that of version 14 of the character
database, and characters of later versions have an unknown direction.
-/

namespace Paymaster.Unicode

/-- The direction in which a character runs. -/
inductive Direction where
  | leftToRight
  | rightToLeft
  | arabicLetter
  | arabicNumber
  | europeanNumber
  | separator
  | neutral
  | boundary
  /-- The direction of the character before it. -/
  | mark
  | unknown
deriving DecidableEq, Repr

/-- The ranges that run otherwise than left to right, marks apart. -/
def directionRanges : List (Range × Direction) :=
  [((0x2D, 0x2D), .separator), ((0x30, 0x39), .europeanNumber), ((0xB7, 0xB7), .neutral),
   ((0x2B9, 0x2BA), .neutral), ((0x2C6, 0x2CF), .neutral), ((0x2EC, 0x2EC), .neutral),
   ((0x375, 0x375), .neutral), ((0x5C8, 0x5C9), .unknown), ((0x5D0, 0x5F4), .rightToLeft),
   ((0x620, 0x64A), .arabicLetter), ((0x660, 0x669), .arabicNumber),
   ((0x66E, 0x66F), .arabicLetter), ((0x671, 0x6D5), .arabicLetter),
   ((0x6E5, 0x6E6), .arabicLetter), ((0x6EE, 0x6EF), .arabicLetter),
   ((0x6F0, 0x6F9), .europeanNumber), ((0x6FA, 0x710), .arabicLetter),
   ((0x712, 0x72F), .arabicLetter), ((0x74D, 0x7A5), .arabicLetter),
   ((0x7B1, 0x7B1), .arabicLetter), ((0x7C0, 0x7EA), .rightToLeft), ((0x7F4, 0x7F5), .rightToLeft),
   ((0x800, 0x815), .rightToLeft), ((0x81A, 0x81A), .rightToLeft), ((0x824, 0x824), .rightToLeft),
   ((0x828, 0x828), .rightToLeft), ((0x840, 0x858), .rightToLeft), ((0x860, 0x88E), .arabicLetter),
   ((0x88F, 0x897), .unknown), ((0x8A0, 0x8C9), .arabicLetter), ((0xB53, 0xB53), .unknown),
   ((0xC5C, 0xC5C), .unknown), ((0xCDC, 0xCDC), .unknown), ((0xCF3, 0xCF3), .unknown),
   ((0xECE, 0xECE), .unknown), ((0x1ACF, 0x1AF0), .unknown), ((0x1C8A, 0x1C8A), .unknown),
   ((0x200C, 0x200D), .boundary), ((0x208F, 0x208F), .unknown), ((0x2E2F, 0x2E2F), .neutral),
   ((0x30FB, 0x30FB), .neutral), ((0xA67F, 0xA67F), .neutral), ((0xA717, 0xA71F), .neutral),
   ((0xA788, 0xA788), .neutral), ((0xA7CD, 0xA7CF), .unknown), ((0xA7DB, 0xA7DB), .unknown),
   ((0xFE73, 0xFE73), .arabicLetter), ((0x105C0, 0x105F3), .unknown),
   ((0x10800, 0x10939), .rightToLeft), ((0x10940, 0x10959), .unknown),
   ((0x10980, 0x10A00), .rightToLeft), ((0x10A10, 0x10A35), .rightToLeft),
   ((0x10A60, 0x10AE4), .rightToLeft), ((0x10B00, 0x10CF2), .rightToLeft),
   ((0x10D00, 0x10D23), .arabicLetter), ((0x10D30, 0x10D39), .arabicNumber),
   ((0x10D40, 0x10D85), .unknown), ((0x10E80, 0x10EA9), .rightToLeft),
   ((0x10EB0, 0x10EB1), .rightToLeft), ((0x10EC2, 0x10EFF), .unknown),
   ((0x10F00, 0x10F27), .rightToLeft), ((0x10F30, 0x10F45), .arabicLetter),
   ((0x10F70, 0x10F81), .rightToLeft), ((0x10FB0, 0x10FF6), .rightToLeft),
   ((0x1123F, 0x11241), .unknown), ((0x11380, 0x113E2), .unknown), ((0x116D0, 0x116E3), .unknown),
   ((0x11B0A, 0x11BF9), .unknown), ((0x11DB0, 0x11DE9), .unknown), ((0x11F00, 0x11F5A), .unknown),
   ((0x1342F, 0x143FA), .unknown), ((0x16100, 0x16139), .unknown), ((0x16D40, 0x16D79), .unknown),
   ((0x16EBB, 0x16ED3), .unknown), ((0x16FF2, 0x16FF3), .unknown), ((0x187F8, 0x187FF), .unknown),
   ((0x18CFF, 0x18CFF), .unknown), ((0x18D09, 0x191D2), .unknown), ((0x1B124, 0x1B132), .unknown),
   ((0x1B155, 0x1B155), .unknown), ((0x1B168, 0x1B168), .unknown), ((0x1DF25, 0x1DF4B), .unknown),
   ((0x1E08F, 0x1E08F), .unknown), ((0x1E4D0, 0x1E6FF), .unknown),
   ((0x1E800, 0x1E8C4), .rightToLeft), ((0x1E922, 0x1E943), .rightToLeft),
   ((0x1E94B, 0x1E959), .rightToLeft), ((0x2B739, 0x2B73F), .unknown),
   ((0x2B81E, 0x2B81E), .unknown), ((0x2CEA2, 0x2CEAD), .unknown), ((0x2EBF0, 0x2EE5D), .unknown),
   ((0x31350, 0x3FC3F), .unknown)]

/-- The marks without room of their own that run left to right by themselves. -/
def directedMarks : List Nat :=
  [0xCBF, 0xCC6, 0x11A07, 0x11A08, 0x11C3F]

/-- The direction of a code point. -/
def direction (n : Nat) : Direction :=
  if directedMarks.contains n then .leftToRight
  else if isNonspacing n then .mark
  else (inTable n directionRanges).getD .leftToRight

end Paymaster.Unicode
