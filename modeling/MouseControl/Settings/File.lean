import MouseControl.Fault.Basic
import MouseControl.Json.Reader

/-!
The configuration file: where it lies and what it holds. It lies in the directory of this library
under the configuration base, which is given by the environment or else is `.config` in the home
directory. A file that is missing or not the JSON of an object counts as an empty object; a file
that is not UTF-8 is a fault, and so is an integer in it with too many digits.
-/

set_option autoImplicit false
set_option relaxedAutoImplicit false

namespace MouseControl

namespace Path

def slash : CodePoint := '/'.toNat

/-- A path below a base. An absolute path stands for itself, and a slash comes between unless the
base is empty or ends in one. -/
def join (base path : Text) : Text :=
  if path.head? = some slash then path
  else if base = [] ∨ base.getLast? = some slash then base ++ path
  else base ++ slash :: path

/-- A path without the slashes at its end. -/
def dropSlashes (path : Text) : Text := (path.reverse.dropWhile (· == slash)).reverse

/-- The base of configuration files: the one given, even when empty, or else the one in the home
directory. -/
def configBase (home : Text) (given : Option Text) : Text :=
  given.getD (dropSlashes home ++ "/.config")

/-- The directory of this library's configuration. -/
def configDirectory (home : Text) (given : Option Text) : Text :=
  join (configBase home given) "naga"

/-- The configuration file. -/
def configFile (home : Text) (given : Option Text) : Text :=
  join (configDirectory home given) "config.json"

end Path

/-- What stands where the configuration file should be. -/
inductive ConfigFile where
  | missing
  | directory
  | content (bytes : Bytes)

namespace ConfigFile

/-- The members of a document that is an object; any other document has none. -/
def membersOf : Value → List (Text × Value)
  | .object members => members
  | _ => []

/-- The members of the document that a text spells; a text that spells none has none. -/
def membersIn (s : String) : Except Fault (List (Text × Value)) :=
  match Json.document s with
  | .ok document => .ok (membersOf document)
  | .error .malformed => .ok []
  | .error (.longInteger digits) => .error (.longInteger digits)

/-- The members of the document in the configuration file. -/
def load : ConfigFile → Except Fault (List (Text × Value))
  | missing => .ok []
  | directory => .ok []
  | content bytes =>
    match String.fromUTF8? (ByteArray.mk bytes.toArray) with
    | some s => membersIn s
    | none => .error .undecodable

end ConfigFile

end MouseControl
