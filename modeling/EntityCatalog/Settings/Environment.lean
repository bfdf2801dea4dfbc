import EntityCatalog.ErrorClass
import EntityCatalog.Text.Encoding

/-!
# Variables of an environment

A variable has a name and a text. Both are kept as octets, so surrogates are refused, except for
those that stand for octets which encode no character. Nothing may hold a null character, and a name
is not empty and has no equals sign.
-/

namespace EntityCatalog

/-- Why a variable cannot be set. -/
inductive VariableFault where
  /-- The name or the text has no encoding. -/
  | unencodable (fault : Text.EncodingFault)
  /-- The name or the text has a null character. -/
  | nullCharacter
  /-- The name has an equals sign. -/
  | equalsSign
  /-- The name is empty. -/
  | unnamed
deriving DecidableEq, Repr

namespace VariableFault

/-- The wording of a fault. -/
def message : VariableFault → String
  | .unencodable fault => fault.message
  | .nullCharacter => "embedded null byte"
  | .equalsSign => "illegal environment variable name"
  | .unnamed => "[Errno 22] Invalid argument"

/-- The class of a fault. -/
def errorClass : VariableFault → ErrorClass
  | .unencodable _ => .encoding
  | .nullCharacter | .equalsSign => .value
  | .unnamed => .system

instance : ErrorCause VariableFault := ⟨errorClass, message⟩

end VariableFault

/-- Whether a surrogate stands for an octet. -/
def standsForOctet (code : Nat) : Bool := 0xdc80 ≤ code && code ≤ 0xdcff

/-- What keeps a text from being kept as octets. -/
def octetFault? (text : String) : Option Text.EncodingFault :=
  Text.firstSurrogates? (fun code => Text.isSurrogate code && !standsForOctet code) 0
    (Text.codePoints text.toList)

/-- What keeps a variable from being set. -/
def variableFault? (name text : String) : Option VariableFault :=
  match (octetFault? name).or (octetFault? text) with
  | some fault => some (.unencodable fault)
  | none =>
      if name.contains '\x00' ∨ text.contains '\x00' then some .nullCharacter
      else if name.contains '=' then some .equalsSign
      else if name = "" then some .unnamed
      else none

/-- Refuses the first variable that cannot be set. -/
def ensureVariables (environment : List (String × String)) : Except VariableFault Unit :=
  match environment.findSome? fun entry => variableFault? entry.1 entry.2 with
  | some fault => .error fault
  | none => .ok ()

end EntityCatalog
