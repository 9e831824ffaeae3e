import JavaDiagnostics.Command.Arguments

/-!
What a command line asks for: one of four requests, the version, or nothing that can be understood.
-/

set_option autoImplicit false

namespace JavaDiagnostics.Command

inductive Request where
  | classify (problems : List String) (settings : Option String) (json : Bool)
  | list (category irritant : Option String)
  | options (settings : Option String)
  | render (problem : String) (arguments : List String)
deriving DecidableEq, Repr

inductive Invocation where
  | version
  | misused
  | request (request : Request)
deriving DecidableEq, Repr

def verbose : Switch := ⟨"verbose", some 'v', false⟩
def version : Switch := ⟨"version", some 'V', false⟩
def settings : Switch := ⟨"settings", some 's', true⟩
def json : Switch := ⟨"json", none, false⟩
def category : Switch := ⟨"category", some 'c', true⟩
def irritant : Switch := ⟨"irritant", some 'i', true⟩

namespace Request

def settingsPath? : Request → Option String
  | classify _ path _ => path
  | options path => path
  | _ => none

def switches (verb : String) : Option (List Switch) :=
  if verb = "classify" then some [verbose, settings, json]
  else if verb = "list" then some [verbose, category, irritant]
  else if verb = "options" then some [verbose, settings]
  else if verb = "render" then some [verbose]
  else none

def ofArguments? (verb : String) (arguments : List Argument) : Option Request :=
  let operands := arguments.filterMap Argument.operand?
  let value (switch : Switch) := Argument.value? switch.name arguments
  if verb = "classify" then
    if operands.isEmpty then none
    else some (classify operands (value settings) (Argument.isGiven json.name arguments))
  else if verb = "list" then
    if operands.isEmpty then some (list (value category) (value irritant)) else none
  else if verb = "options" then
    if operands.isEmpty then some (options (value settings)) else none
  else
    match operands with
    | [] => none
    | problem :: rest => some (render problem rest)

def read? (verb : String) (texts : List String) : Option Request := do
  let arguments := Argument.read (← switches verb) texts
  if Argument.wellFormed arguments then ofArguments? verb arguments else none

end Request

namespace Invocation

-- Goes through the arguments before the verb. The first thing that settles the invocation does so;
-- `quiet` says that no verbose switch has been met.
def leading (quiet : Bool) : List Argument → Option Invocation × Bool
  | [] => (none, quiet)
  | .switch name _ :: rest =>
      if name = Command.version.name then (some version, quiet)
      else if quiet then leading false rest
      else (some misused, quiet)
  | _ :: _ => (some misused, quiet)

def readFrom (quiet : Bool) : List String → Invocation
  | [] => misused
  | text :: rest =>
      if text = "--" then misused
      else
        match Argument.ofText [verbose, Command.version] text with
        | ([.operand verb], _) =>
            match Request.read? verb rest with
            | some r => request r
            | none => misused
        | (arguments, _) =>
            match leading quiet arguments with
            | (some settled, _) => settled
            | (none, quiet) => readFrom quiet rest

def read (texts : List String) : Invocation := readFrom true texts

end Invocation

end JavaDiagnostics.Command
