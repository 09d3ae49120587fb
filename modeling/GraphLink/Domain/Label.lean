import GraphLink.Domain.Direction
import GraphLink.Domain.Joiner
import GraphLink.Domain.Permitted
import GraphLink.Domain.Punycode
import GraphLink.Text.Composed

/-! # Labels of domain names

    A domain name is a row of labels with points between them.  A label that begins with `xn--`
    stands for a text outside ASCII.  It is refused when it stands for none, or for a text that
    would not be written this way: one with a character that no label holds, not in composed form,
    led by a combining mark, with a joiner out of place, or in turn like an encoded label.

    A label that holds a character outside ASCII as it is, or had it percent-encoded, is left alone:
    it is neither mapped to its encoded form nor checked.  Names are read under web schemes only,
    and none of these opens a connection, so a URI with such a label is refused in any case, if not
    for its name then for its scheme. -/

namespace GraphLink.Domain
namespace Label

/-- What an encoded label begins with. -/
def sign : List Char := ['x', 'n', '-', '-']

/-- Whether a label is an encoded one. -/
def isEncoded (label : List Char) : Bool := sign.isPrefixOf label

/-- The most characters that an encoded label has behind its sign. -/
def encodedMost : Nat := 2000

/-- The most characters that an encoded label stands for. -/
def textMost : Nat := 1000

/-- Whether an encoded label may stand for a text. -/
def isEncodable (text : List Char) : Bool :=
  text.length ≤ textMost
    && text.any (fun c => 0x80 ≤ c.toNat)
    && text.all isPermitted
    && !text.head?.any Text.isMark
    && !isEncoded text
    && joinersFit text
    && Text.isComposed text

/-- The text that a label stands for; `none` for an encoded label that is refused.  Every other
    label stands for itself, also one that holds characters outside ASCII. -/
def text? (label : List Char) : Option (List Char) :=
  if isEncoded label then
    let code := label.drop sign.length
    if code.length ≤ encodedMost then (Punycode.decode code).filter isEncodable else none
  else some label

end Label

/-- Whether a name in small letters is a domain name: none of its encoded labels is refused, and
    it is shown in an order that does not mislead. -/
def isName (name : List Char) : Bool :=
  match (name.splitOn '.').mapM Label.text? with
  | none => false
  | some labels => isOrderly labels

end GraphLink.Domain
