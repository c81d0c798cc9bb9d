namespace TrafficSteering.Yaml

inductive Fault where
  | forbiddenCharacter
  | tabInIndentation
  | unexpectedCharacter
  | unclosedText
  | badEscape
  | badHeader
  | badAnchor
  | badTag
  | badDirective
  | keyWithoutValue
  | misplaced (what : String)
  | expected (what : String)
  | unknownAnchor (name : String)
  | moreThanOneDocument
  | unexpected (wanted : String)
  | duplicate (field : String)
  | unknownName (name : String)
deriving DecidableEq, Inhabited

def Fault.message : Fault → String
  | .forbiddenCharacter => "control characters are not allowed"
  | .tabInIndentation => "found a tab character that violates indentation"
  | .unexpectedCharacter => "found character that cannot start any token"
  | .unclosedText => "found unexpected end of text while reading a quoted scalar"
  | .badEscape => "found unknown escape character"
  | .badHeader => "did not find expected comment or line break"
  | .badAnchor => "did not find expected alphabetic or numeric character"
  | .badTag => "did not find expected tag"
  | .badDirective => "found unknown or malformed directive"
  | .keyWithoutValue => "could not find expected ':'"
  | .misplaced what => s!"{what} is not allowed in this context"
  | .expected what => s!"did not find expected {what}"
  | .unknownAnchor name => s!"unknown anchor {name}"
  | .moreThanOneDocument => "text holds more than one document"
  | .unexpected wanted => s!"invalid type, expected {wanted}"
  | .duplicate field => s!"duplicate field {field}"
  | .unknownName name => s!"unknown variant {name}"

end TrafficSteering.Yaml
