namespace TrafficSteering.CommandLine

/-- What may be given. Where plain arguments may not, the first of them ends what is read. -/
structure Usage where
  options : List String
  flags : List String := []
  plain : Bool := false

/-- What is given so far: each option at most once, as an argument of its own or behind an equals
sign. -/
structure Given where
  options : List (String × String) := []
  flags : List String := []
  plain : List String := []

namespace Given

def addOption (g : Given) (name value : String) : Option Given :=
  if (g.options.lookup name).isSome then none
  else some { g with options := g.options ++ [(name, value)] }

def addFlag (g : Given) (name : String) : Option Given :=
  if g.flags.contains name then none else some { g with flags := g.flags ++ [name] }

def addPlain (g : Given) (args : List String) : Given := { g with plain := g.plain ++ args }

def option? (g : Given) (name : String) : Option String := g.options.lookup name

def single? (g : Given) : Option String :=
  match g.plain with
  | [arg] => some arg
  | _ => none

def several? (g : Given) : Option (List String) := if g.plain.isEmpty then none else some g.plain

end Given

def isPlain (arg : String) : Bool :=
  match arg.toList with
  | '-' :: _ :: _ => false
  | _ => true

/-- The name of an option, and its value if that is attached. -/
def long? (arg : String) : Option (String × Option String) :=
  match arg.toList with
  | '-' :: '-' :: cs =>
    let name := String.ofList (cs.takeWhile (· ≠ '='))
    match cs.dropWhile (· ≠ '=') with
    | '=' :: value => some (name, some (String.ofList value))
    | _ => some (name, none)
  | _ => none

/-- Reads arguments; with the result comes what is left behind. None where they are refused. -/
def gather (u : Usage) (g : Given) : List String → Option (Given × List String)
  | [] => some (g, [])
  | arg :: rest =>
    if isPlain arg then
      if u.plain then gather u (g.addPlain [arg]) rest else some (g, arg :: rest)
    else if arg = "--" then
      if u.plain ∨ rest = [] then some (g.addPlain rest, []) else none
    else
      match long? arg, rest with
      | some (name, some value), rest =>
        if u.options.contains name then do gather u (← g.addOption name value) rest else none
      | some (name, none), value :: rest =>
        if u.options.contains name then
          if isPlain value then do gather u (← g.addOption name value) rest else none
        else if u.flags.contains name then do gather u (← g.addFlag name) (value :: rest)
        else none
      | some (name, none), [] =>
        if u.flags.contains name then do return (← g.addFlag name, []) else none
      | none, _ => none

def gatherAll (u : Usage) (args : List String) : Option Given := do
  let (g, rest) ← gather u {} args
  if rest.isEmpty then some g else none

end TrafficSteering.CommandLine
