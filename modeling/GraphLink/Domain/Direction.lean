import GraphLink.Text.Mark

/-! # Directions

    A name that holds letters of a right-to-left script could be shown in an order that misleads.
    So in such a name every label must be of one direction: it begins with a letter, ends with a
    letter or a number, and holds no letter of the other direction in between.

    The table has the characters that a label may hold, with the data of Unicode 17.0.  What it
    does not list is a mark without a direction of its own or is written from left to right. -/

namespace GraphLink.Domain

/-- The directions of characters. -/
inductive Direction where
  | left
  | right
  | arabicLetter
  | arabicNumber
  | europeanNumber
  | europeanSeparator
  | europeanTerminator
  | commonSeparator
  | boundaryNeutral
  | nonspacing
  | neutral
  deriving DecidableEq, Repr

namespace Direction

/-- First character, last character and direction, for the spans of one direction. -/
def spans : List (Nat × Nat × Direction) := [
  (0x21, 0x22, .neutral), (0x24, 0x24, .europeanTerminator), (0x26, 0x2A, .neutral),
  (0x2B, 0x2B, .europeanSeparator), (0x2C, 0x2C, .commonSeparator),
  (0x2D, 0x2D, .europeanSeparator), (0x30, 0x39, .europeanNumber), (0x3B, 0x60, .neutral),
  (0x7B, 0xA1, .neutral), (0xA2, 0xA5, .europeanTerminator), (0xA6, 0xAE, .neutral),
  (0xB0, 0xB1, .europeanTerminator), (0xB6, 0xD7, .neutral), (0xF7, 0xF7, .neutral),
  (0x2B9, 0x2BA, .neutral), (0x2C2, 0x2CF, .neutral), (0x2D2, 0x2ED, .neutral),
  (0x2EF, 0x2FF, .neutral), (0x375, 0x375, .neutral), (0x3F6, 0x3F6, .neutral),
  (0x58A, 0x58E, .neutral), (0x58F, 0x58F, .europeanTerminator), (0x5BE, 0x5BE, .right),
  (0x5C0, 0x5C0, .right), (0x5C3, 0x5C3, .right), (0x5C6, 0x5C6, .right), (0x5D0, 0x5F4, .right),
  (0x606, 0x607, .neutral), (0x608, 0x608, .arabicLetter), (0x609, 0x60A, .europeanTerminator),
  (0x60B, 0x60B, .arabicLetter), (0x60C, 0x60C, .commonSeparator), (0x60D, 0x60D, .arabicLetter),
  (0x60E, 0x60F, .neutral), (0x61B, 0x64A, .arabicLetter), (0x660, 0x669, .arabicNumber),
  (0x66A, 0x66A, .europeanTerminator), (0x66B, 0x66C, .arabicNumber), (0x66D, 0x66F, .arabicLetter),
  (0x671, 0x6D5, .arabicLetter), (0x6DE, 0x6DE, .neutral), (0x6E5, 0x6E6, .arabicLetter),
  (0x6E9, 0x6E9, .neutral), (0x6EE, 0x6EF, .arabicLetter), (0x6F0, 0x6F9, .europeanNumber),
  (0x6FA, 0x710, .arabicLetter), (0x712, 0x72F, .arabicLetter), (0x74D, 0x7A5, .arabicLetter),
  (0x7B1, 0x7B1, .arabicLetter), (0x7C0, 0x7EA, .right), (0x7F4, 0x7F5, .right),
  (0x7F6, 0x7F9, .neutral), (0x7FA, 0x7FA, .right), (0x7FE, 0x815, .right), (0x81A, 0x81A, .right),
  (0x824, 0x824, .right), (0x828, 0x828, .right), (0x830, 0x858, .right), (0x85E, 0x85E, .right),
  (0x860, 0x88F, .arabicLetter), (0x8A0, 0x8C9, .arabicLetter), (0x9F2, 0x9F3, .europeanTerminator),
  (0x9FB, 0x9FB, .europeanTerminator), (0xAF1, 0xAF1, .europeanTerminator),
  (0xBF3, 0xBF8, .neutral), (0xBF9, 0xBF9, .europeanTerminator), (0xBFA, 0xBFA, .neutral),
  (0xC78, 0xC7E, .neutral), (0xCBF, 0xCBF, .left), (0xCC6, 0xCC6, .left),
  (0xE3F, 0xE3F, .europeanTerminator), (0xF3A, 0xF3D, .neutral), (0x1390, 0x1399, .neutral),
  (0x1400, 0x1400, .neutral), (0x169B, 0x169C, .neutral), (0x17DB, 0x17DB, .europeanTerminator),
  (0x17F0, 0x180A, .neutral), (0x1940, 0x1945, .neutral), (0x19DE, 0x19FF, .neutral),
  (0x200C, 0x200D, .boundaryNeutral), (0x2010, 0x2027, .neutral),
  (0x2030, 0x2032, .europeanTerminator), (0x2035, 0x2043, .neutral),
  (0x2044, 0x2044, .commonSeparator), (0x2045, 0x205E, .neutral),
  (0x20A0, 0x20C1, .europeanTerminator), (0x2104, 0x2129, .neutral),
  (0x212E, 0x212E, .europeanTerminator), (0x213A, 0x214D, .neutral), (0x218A, 0x2211, .neutral),
  (0x2212, 0x2212, .europeanSeparator), (0x2213, 0x2213, .europeanTerminator),
  (0x2214, 0x2335, .neutral), (0x237B, 0x2394, .neutral), (0x2396, 0x26AB, .neutral),
  (0x26AD, 0x27FF, .neutral), (0x2900, 0x2BFF, .neutral), (0x2CE5, 0x2CEA, .neutral),
  (0x2CF9, 0x2CFF, .neutral), (0x2E00, 0x3004, .neutral), (0x3008, 0x3020, .neutral),
  (0x3030, 0x3030, .neutral), (0x3037, 0x3037, .neutral), (0x303D, 0x303F, .neutral),
  (0x30A0, 0x30A0, .neutral), (0x30FB, 0x30FB, .neutral), (0x31C0, 0x31E5, .neutral),
  (0x4DC0, 0x4DFF, .neutral), (0xA490, 0xA4C6, .neutral), (0xA60D, 0xA60F, .neutral),
  (0xA673, 0xA673, .neutral), (0xA67E, 0xA67F, .neutral), (0xA700, 0xA721, .neutral),
  (0xA788, 0xA788, .neutral), (0xA828, 0xA82B, .neutral), (0xA838, 0xA839, .europeanTerminator),
  (0xA874, 0xA877, .neutral), (0xAB6A, 0xAB6B, .neutral), (0xFBB2, 0xFBC2, .arabicLetter),
  (0xFBC3, 0xFDFF, .neutral), (0xFE45, 0xFE46, .neutral), (0xFE73, 0xFE73, .arabicLetter),
  (0x10101, 0x10101, .neutral), (0x10140, 0x1018C, .neutral), (0x10190, 0x101A0, .neutral),
  (0x102E1, 0x102FB, .europeanNumber), (0x10800, 0x1091B, .right), (0x1091F, 0x1091F, .neutral),
  (0x10920, 0x10A00, .right), (0x10A10, 0x10A35, .right), (0x10A40, 0x10AE4, .right),
  (0x10AEB, 0x10B35, .right), (0x10B39, 0x10B3F, .neutral), (0x10B40, 0x10CFF, .right),
  (0x10D00, 0x10D23, .arabicLetter), (0x10D30, 0x10D49, .arabicNumber), (0x10D4A, 0x10D4F, .right),
  (0x10D6E, 0x10D6E, .neutral), (0x10D6F, 0x10D8F, .right), (0x10E60, 0x10E7E, .arabicNumber),
  (0x10E80, 0x10EA9, .right), (0x10EAD, 0x10EB1, .right), (0x10EC2, 0x10EC7, .arabicLetter),
  (0x10ED0, 0x10ED8, .neutral), (0x10F00, 0x10F27, .right), (0x10F30, 0x10F45, .arabicLetter),
  (0x10F51, 0x10F59, .arabicLetter), (0x10F70, 0x10F81, .right), (0x10F86, 0x10FF6, .right),
  (0x11052, 0x11065, .neutral), (0x11660, 0x1166C, .neutral), (0x1171E, 0x1171E, .nonspacing),
  (0x11A07, 0x11A08, .left), (0x11C3F, 0x11C3F, .left), (0x11FD5, 0x11FDC, .neutral),
  (0x11FDD, 0x11FE0, .europeanTerminator), (0x11FE1, 0x11FF1, .neutral),
  (0x16FE2, 0x16FE2, .neutral), (0x1CC00, 0x1CEF0, .neutral), (0x1D1E9, 0x1D241, .neutral),
  (0x1D245, 0x1D245, .neutral), (0x1D300, 0x1D356, .neutral),
  (0x1E2FF, 0x1E2FF, .europeanTerminator), (0x1E800, 0x1E8CF, .right), (0x1E922, 0x1E943, .right),
  (0x1E94B, 0x1E95F, .right), (0x1EC71, 0x1ED3D, .arabicLetter), (0x1EEF0, 0x1F12F, .neutral),
  (0x1F16D, 0x1F16F, .neutral), (0x1F1AD, 0x1F1AD, .neutral), (0x1F260, 0x1FBFA, .neutral)]

/-- The direction of a character. -/
def ofChar (c : Char) : Direction :=
  match spans.find? (fun span => span.1 ≤ c.toNat && c.toNat ≤ span.2.1) with
  | some span => span.2.2
  | none => if Text.isNonspacingMark c then .nonspacing else .left

/-- Whether a character makes a name one with a right-to-left part. -/
def isRightToLeft : Direction → Bool
  | .right | .arabicLetter | .arabicNumber => true
  | _ => false

/-- Whether a label of either direction may hold the character. -/
def isCommon : Direction → Bool
  | .europeanNumber | .europeanSeparator | .europeanTerminator | .commonSeparator
  | .boundaryNeutral | .nonspacing | .neutral => true
  | _ => false

/-- Whether the character may end a label that begins with one of the direction `first`. -/
def mayEnd (first last : Direction) : Bool :=
  last == .europeanNumber || if first == .left then last == .left else isRightToLeft last

/-- Whether a label with these directions is of one direction. -/
def isUniform (label : List Direction) : Bool :=
  match label with
  | [] => true
  | first :: _ =>
      (first == .left || first == .right || first == .arabicLetter)
        && label.all (fun d => isCommon d || isRightToLeft d == isRightToLeft first)
        && (label.reverse.find? (· != .nonspacing)).all (mayEnd first)
        && !(label.contains .europeanNumber && label.contains .arabicNumber)

end Direction

/-- Whether a name with these labels is shown in an order that does not mislead. -/
def isOrderly (labels : List (List Char)) : Bool :=
  let directions := labels.map (fun label => label.map Direction.ofChar)
  directions.all (fun label => !label.any Direction.isRightToLeft)
    || directions.all Direction.isUniform

end GraphLink.Domain
