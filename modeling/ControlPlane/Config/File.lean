import ControlPlane.Config.Printer
import ControlPlane.Config.Reading
import ControlPlane.Ini.Reader
import ControlPlane.Text.Utf8

/-!
# The configuration file

## Main definitions

- `Settings.ofOctets`: the settings of a file with the given content.
- `Settings.load`: the settings of a file that may be missing.
-/

namespace ControlPlane.Settings

/-- The octets of a text without the mark that may stand before it. -/
def withoutMark : List UInt8 → List UInt8
  | 0xEF :: 0xBB :: 0xBF :: rest => rest
  | octets => octets

/-- The settings of a file with the given content. -/
def ofOctets (home : Option Path) (content : List UInt8) : Except ConfigError Settings :=
  match Text.ofUtf8? (withoutMark content) with
  | none => .error (.read SystemError.invalidText.message)
  | some text =>
    match Ini.ofText text.toList with
    | .error e => .error (.read e.message)
    | .ok document => ofDocument home document

/-- The settings of a file; without a file the standard ones hold. -/
def load (home : Option Path) (content : Option (Except SystemError (List UInt8))) :
    Except ConfigError Settings :=
  match content with
  | none => .ok (standard home)
  | some (.error e) => .error (.read e.message)
  | some (.ok octets) => ofOctets home octets

end ControlPlane.Settings
