import GraphLink.Text.CombiningClass
import GraphLink.Text.Composite

/-! # Composed form

    Texts that differ only in how their composites are written look the same.  The **composed
    form** is the one writing chosen among them: every composite is taken apart, the marks behind
    each base are put in the order of their combining classes, and then every base takes in the
    marks behind it, as long as the two make a composite and no mark in between competes for the
    same place. -/

namespace GraphLink.Text
namespace Composed

/-- How often the first part of a composite is a composite again, at most. -/
def depth : Nat := 3

/-- A character with the composites in it taken apart, down to a depth. -/
def takeApart : Nat → Char → List Char
  | 0, c => [c]
  | n + 1, c =>
      match parts? c with
      | none => [c]
      | some (first, second) => takeApart n first ++ [second]

/-- A mark put in front of an ordered text: behind the marks of lower classes that begin it. -/
def insertMark (c : Char) : List Char → List Char
  | [] => [c]
  | d :: rest =>
      if combiningClass d ≠ 0 ∧ combiningClass d < combiningClass c then d :: insertMark c rest
      else c :: d :: rest

/-- A text with the marks behind each base in the order of their classes. -/
def order : List Char → List Char
  | [] => []
  | c :: rest => if combiningClass c = 0 then c :: order rest else insertMark c (order rest)

/-- A base takes in what it can of a text; `kept` holds the marks that it passed over, the last
    one first. -/
def takeIn (base : Char) (kept : List Char) : List Char → List Char
  | [] => base :: kept.reverse
  | c :: rest =>
      let k := combiningClass c
      let free := kept.all (fun mark => combiningClass mark < k)
      match if free then compose? base c else none with
      | some whole => takeIn whole kept rest
      | none =>
          if k = 0 then base :: kept.reverse ++ takeIn c [] rest
          else takeIn base (c :: kept) rest

/-- A text in which every base has taken in what it can. -/
def join : List Char → List Char
  | [] => []
  | c :: rest => if combiningClass c = 0 then takeIn c [] rest else c :: join rest

end Composed

/-- The composed form of a text. -/
def composed (cs : List Char) : List Char :=
  Composed.join (Composed.order (cs.flatMap (Composed.takeApart Composed.depth)))

/-- Whether a text is its own composed form. -/
def isComposed (cs : List Char) : Bool := composed cs == cs

end GraphLink.Text
