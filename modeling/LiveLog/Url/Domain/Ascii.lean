import LiveLog.Text.Mark
import LiveLog.Url.Domain.Direction
import LiveLog.Url.Domain.Joiner
import LiveLog.Url.Domain.Letters
import LiveLog.Url.Ipv4
import LiveLog.Url.Punycode

/-!
# Host names in ASCII

A host name may be spelled in any script; on the wire it is ASCII. Each letter is first replaced by what
it stands for (`Domain.letters`), then the labels between dots are taken one by one. A label beyond
ASCII is written in its ASCII form after `xn--`; a label that starts so already has to be the ASCII form
of a label that could have been written plainly.

Some ASCII characters never stand in a host name, because elsewhere in an address they mean something.
-/

namespace LiveLog.Url.Domain

/-- ASCII characters that stand in no host name. -/
def isForbidden (c : Char) : Bool :=
  c.toNat ≤ 0x20 || c.toNat == 0x7F ||
    ['%', '#', '/', ':', '<', '>', '?', '@', '[', '\\', ']', '^', '|'].contains c

/-- Whether all characters are ASCII. -/
def isAscii (cs : List Char) : Bool := cs.all (·.toNat < 0x80)

/-- Whether a label beyond ASCII can be shown: it starts with no mark, all its letters are allowed, and
    its joiners stand where they may. -/
def isShowable (label : List Char) : Bool :=
  !(label.head?.any Text.isMark) && label.all isAllowed && joinersHold [] label

/-- The mark of an ASCII form. -/
def mark : List Char := ['x', 'n', '-', '-']

/-- Whether a label is what its own letters stand for, composed. -/
def isSettled (label : List Char) : Bool :=
  label.flatMap letters == label && Text.composed label == label

/-- What a label shows. An ASCII form has to show something beyond ASCII. -/
def shown? (label : List Char) : Option (List Char) :=
  if mark.isPrefixOf label then do
    let plain ← Punycode.decode? (label.drop 4)
    if !isAscii plain && isSettled plain && isShowable plain && Punycode.encode plain == label.drop 4 then
      some plain
    else none
  else if isAscii label || isShowable label then some label
  else none

/-- The ASCII form of a label. -/
def asciiLabel (label : List Char) : List Char :=
  if isAscii label then label else mark ++ Punycode.encode label

/-- **The ASCII form of a host name**, if it has one. -/
def toAscii? (name : List Char) : Option (List Char) := do
  let settled := Text.composed (name.flatMap letters)
  if settled.any isForbidden then none
  else
    let labels := Ipv4.labels settled
    let shown ← labels.mapM shown?
    if shown.any Direction.isFromRight && !shown.all Direction.holds then none
    else some (List.intercalate ['.'] (labels.map asciiLabel))

end LiveLog.Url.Domain
