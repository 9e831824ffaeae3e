/-!
Command line arguments: switches by a long name or by a letter, with a value or without, and operands.
Letters may stand together behind one dash, and a value may follow its switch in the same argument. Two
dashes alone make operands of all that follows.
-/

set_option autoImplicit false

namespace JavaDiagnostics.Command

structure Switch where
  name : String
  letter : Option Char
  takesValue : Bool
deriving DecidableEq, Repr

inductive Argument where
  | switch (name : String) (value : Option String)
  | operand (text : String)
  /-- A switch that is not known, or one with a value that takes none, or without one that it needs. -/
  | invalid
deriving DecidableEq, Repr

namespace Argument

def ofLetters (known : List Switch) : List Char → List Argument × Option Switch
  | [] => ([], none)
  | c :: rest =>
      match known.find? fun switch => switch.letter = some c with
      | none => ([invalid], none)
      | some found =>
          if found.takesValue then
            match rest with
            | [] => ([], some found)
            | '=' :: value => ([switch found.name (some (String.ofList value))], none)
            | value => ([switch found.name (some (String.ofList value))], none)
          else
            let (arguments, waiting) := ofLetters known rest
            (switch found.name none :: arguments, waiting)

def ofName (known : List Switch) (body : List Char) : List Argument × Option Switch :=
  let name := body.takeWhile (· != '=')
  match known.find? fun switch => switch.name.toList = name, body.drop name.length with
  | none, _ => ([invalid], none)
  | some found, [] => if found.takesValue then ([], some found) else ([switch found.name none], none)
  | some found, _ :: value =>
      if found.takesValue then ([switch found.name (some (String.ofList value))], none)
      else ([invalid], none)

def ofText (known : List Switch) (text : String) : List Argument × Option Switch :=
  match text.toList with
  | '-' :: '-' :: body => ofName known body
  | '-' :: c :: rest => ofLetters known (c :: rest)
  | _ => ([operand text], none)

-- A dash alone is a value; anything longer behind a dash is not.
def isValue (text : String) : Bool :=
  match text.toList with
  | '-' :: _ :: _ => false
  | _ => true

def read (known : List Switch) : List String → List Argument
  | [] => []
  | text :: rest =>
      if text = "--" then rest.map operand
      else
        match ofText known text with
        | (found, none) => found ++ read known rest
        | (found, some waiting) =>
            match rest with
            | [] => found ++ [invalid]
            | value :: more =>
                if isValue value then found ++ switch waiting.name (some value) :: read known more
                else found ++ [invalid]

def name? : Argument → Option String
  | switch name _ => some name
  | _ => none

def operand? : Argument → Option String
  | operand text => some text
  | _ => none

def value? (name : String) (arguments : List Argument) : Option String :=
  arguments.findSome? fun
    | switch given value => if given = name then value else none
    | _ => none

def isGiven (name : String) (arguments : List Argument) : Bool :=
  arguments.any fun argument => argument.name? = some name

def wellFormed (arguments : List Argument) : Bool :=
  !arguments.contains invalid && decide (arguments.filterMap name?).Nodup

end Argument

end JavaDiagnostics.Command
