import TrafficSteering.Net.DomainName.Label

namespace TrafficSteering.Net.DomainName

open Text Punycode

def fold? (name : List Char) : Option (List Char) :=
  if name.all isAscii then some (name.map Char.toLower)
  else (name.mapM image?).map fun images ↦ compose images.flatten

def toAscii? (name : List Char) : Option (List Char) := do
  let labels ← (pieces '.' (← fold? name)).mapM readLabel?
  if labels.any hasRightward && !labels.all directionFits then none
  else some (List.intercalate ['.'] (labels.map writeLabel))

end TrafficSteering.Net.DomainName
