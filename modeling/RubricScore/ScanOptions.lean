import RubricScore.Text.Class

/-!
# Scan options

Which files of a source tree are loaded: those whose names end with one of the extensions, the first
ones up to a limit, and no large ones.
-/

namespace RubricScore

/-- What to collect and how much of it. -/
structure ScanOptions where
  /-- Endings of file names. -/
  extensions : List String
  /-- Greatest number of files, zero for any number. -/
  maxFiles : UInt64
  /-- Greatest number of bytes in a file, zero for any number. -/
  maxFileBytes : UInt64
deriving DecidableEq

namespace ScanOptions

/-- The endings of native code. -/
def defaultExtensions : List String :=
  [".c", ".h", ".cpp", ".cc", ".s", ".asm"]

/-- The options that are used when none are given. -/
def default : ScanOptions :=
  ⟨defaultExtensions, 0, 0⟩

/-- An extension without white space around it and with a dot in front. -/
def normalizeExtension (extension : String) : String :=
  let trimmed := Text.trim extension.toList
  String.ofList (if trimmed.head? = some '.' then trimmed else '.' :: trimmed)

/-- Extensions in normal form; those that are nothing but a dot are left out. -/
def normalizeExtensions (extensions : List String) : List String :=
  (extensions.map normalizeExtension).filter (· ≠ ".")

/-- The options with other extensions, in normal form. -/
def withExtensions (options : ScanOptions) (extensions : List String) : ScanOptions :=
  { options with extensions := normalizeExtensions extensions }

/-- The options with their extensions in normal form. -/
def normalized (options : ScanOptions) : ScanOptions :=
  options.withExtensions options.extensions

/-- A file name ends with one of the extensions. -/
def accepts (options : ScanOptions) (name : String) : Bool :=
  options.extensions.any fun extension => Text.endsWith name.toList extension.toList

/-- A file with so many bytes is too large. -/
def isOversized (options : ScanOptions) (bytes : Nat) : Bool :=
  0 < options.maxFileBytes && options.maxFileBytes.toNat < bytes

end ScanOptions

end RubricScore
