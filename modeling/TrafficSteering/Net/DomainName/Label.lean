import TrafficSteering.Net.DomainName.Mapping
import TrafficSteering.Net.Punycode
import TrafficSteering.Text.Composition
import TrafficSteering.Text.Direction
import TrafficSteering.Text.Joining

namespace TrafficSteering.Net.DomainName

open Text Punycode

def isJoiner (c : Char) : Bool := c.toNat == 0x200D

def isNonJoiner (c : Char) : Bool := c.toNat == 0x200C

def joins (ways : List Joining) (cs : List Char) : Bool :=
  match cs.dropWhile fun c ↦ joining c = .transparent with
  | [] => false
  | c :: _ => ways.contains (joining c)

/-- Whether a joiner may stand between two parts of a label, the one before it held backwards. -/
def joinerFits (before : List Char) (c : Char) (rest : List Char) : Bool :=
  match before with
  | [] => false
  | d :: _ =>
    isVirama d ||
      (isNonJoiner c && joins [.behind, .both] before && joins [.before, .both] rest)

def joinersFit (before : List Char) : List Char → Bool
  | [] => true
  | c :: rest =>
    (!(isJoiner c || isNonJoiner c) || joinerFits before c rest) && joinersFit (c :: before) rest

def hasRightward (label : List Char) : Bool :=
  label.any fun c ↦ direction c = .right || direction c = .arabic

/-- A label goes in the direction of its first character, which is a letter, and ends in a letter or
a digit. Among letters from the right there are digits of one kind only. -/
def directionFits (label : List Char) : Bool :=
  match label.map direction with
  | [] => true
  | first :: rest =>
    let rest := rest.reverse.dropWhile (· = .mark)
    let ends := if first = .left then [.left, .european] else [.right, .european, .arabic]
    (first = .left || first = .right) && rest.head?.all ends.contains &&
      rest.tail.all (.mark :: .neutral :: ends).contains &&
      !(rest.contains .european && rest.contains .arabic)

/-- Whether a label does not begin with a mark, holds joiners only where they change the shape of
letters, and is written in one direction. -/
def isLabel (label : List Char) : Bool :=
  label.length ≤ 1000 && label.head?.all (!isMark ·) && joinersFit [] label

def isCanonical (label : List Char) : Bool :=
  label.all (fun c ↦ image? c = some [c]) && compose label = label

def ofMarked? (coded : List Char) : Option (List Char) :=
  if coded.isEmpty || coded.getLast? = some '-' || 2000 < coded.length then none
  else (decode? coded).filter fun label ↦ isCanonical label && isLabel label

def readLabel? (piece : List Char) : Option (List Char) :=
  match piece with
  | 'x' :: 'n' :: '-' :: '-' :: coded => ofMarked? coded
  | piece => if piece.all isAscii || isLabel piece then some piece else none

def writeLabel (label : List Char) : List Char :=
  if label.all isAscii then label else 'x' :: 'n' :: '-' :: '-' :: encode label

end TrafficSteering.Net.DomainName
