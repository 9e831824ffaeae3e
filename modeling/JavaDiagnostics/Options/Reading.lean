import JavaDiagnostics.Json.Value
import JavaDiagnostics.Options

/-!
Options from texts: lines of `key=value`, where comments begin with `#` or `!` and a colon may stand for
the equals sign, or one JSON object with the same keys.
-/

set_option autoImplicit false

namespace JavaDiagnostics.Options

def lines : List Char → List (List Char)
  | [] => []
  | text =>
      let line := text.takeWhile (· != '\n')
      match _found : text.drop line.length with
      | [] => [line]
      | _ :: rest => line :: lines rest
termination_by text => text.length
decreasing_by
  have size := congrArg List.length _found
  simp only [List.length_drop, List.length_cons] at size
  omega

def isSeparator (c : Char) : Bool := c == '=' || c == ':'

inductive Line where
  | skipped
  | entry (key value : String)
  | malformed (content : String)
deriving DecidableEq, Repr

def Line.ofChars (text : List Char) : Line :=
  let content := Text.trimChars text
  match content with
  | [] => .skipped
  | '#' :: _ => .skipped
  | '!' :: _ => .skipped
  | _ =>
      let key := content.takeWhile (!isSeparator ·)
      match content.drop key.length with
      | [] => .malformed (String.ofList content)
      | _ :: value =>
          match Text.trimChars key with
          | [] => .malformed (String.ofList content)
          | name => .entry (String.ofList name) (String.ofList (Text.trimChars value))

def entries (number : Nat) : List Line → Except SettingsError (List (String × String))
  | [] => .ok []
  | .skipped :: rest => entries (number + 1) rest
  | .malformed content :: _ => .error (.malformed number content)
  | .entry key value :: rest => do return (key, value) :: (← entries (number + 1) rest)

-- Nothing is set unless every line is well formed.
def ofProperties (text : String) : Except SettingsError Options := do
  ofSettings (← entries 1 ((lines text.toList).map Line.ofChars))

def memberText (key : String) : Json.Value → Except SettingsError (String × String)
  | .text s => .ok (key, s)
  | .bool on => .ok (key, Flag.describe on)
  | other => .error (.invalidValue key other.compact)

-- The settings of a JSON object in the order of their keys.
def ofJson (text : String) : Except SettingsError Options :=
  match Json.Value.read text with
  | some (.object members) => do
      ofSettings (← members.mapM fun (key, value) => memberText key value)
  | _ => .error .notJson

-- What follows the last dot of the last part of a path. A dot at the start of that part, and the
-- parts `.` and `..`, have no extension after them.
def extension? (path : String) : Option (List Char) :=
  let name := path.toList.reverse.takeWhile (· != '/')
  let last := name.takeWhile (· != '.')
  match name.drop last.length with
  | [] => none
  | _ :: [] => none
  | _ :: rest => if last = [] ∧ rest = ['.'] then none else some last.reverse

def ofFile (path : String) (bytes : Option ByteArray) : Except SettingsError Options :=
  match bytes with
  | none => .error .missingFile
  | some bytes =>
      match String.fromUTF8? bytes with
      | none => .error .notText
      | some text => if extension? path = some "json".toList then ofJson text else ofProperties text

end JavaDiagnostics.Options
