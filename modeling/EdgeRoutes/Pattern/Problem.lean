/-! What a translated pattern is reported for: problems, which make it unusable, and notes. -/

namespace EdgeRoutes.Pattern

/-- A construct that has no counterpart. -/
inductive Problem where
  | trailingBackslash
  | escape (c : Char)
  | unicodeProperty
  | unterminatedReference
  | atomicGroup
  | recursion
  | conditional
  | branchReset
  | inlineModifier
  | unknownGroup
  | possessive
  | negatedClass (name : String)
  | unknownClass (name : String)
  | unterminatedClass
  | doesNotCompile (reason : String)
  deriving DecidableEq

def Problem.message : Problem → String
  | .trailingBackslash => "trailing backslash"
  | .escape c => "escape \\" ++ String.singleton c ++ " has no JavaScript equivalent"
  | .unicodeProperty => "Unicode property escapes are not supported"
  | .unterminatedReference => "unterminated named backreference"
  | .atomicGroup => "atomic groups are not supported"
  | .recursion => "recursive patterns are not supported"
  | .conditional => "conditional groups are not supported"
  | .branchReset => "branch reset groups are not supported"
  | .inlineModifier => "inline modifiers are only supported as a leading (?i)"
  | .unknownGroup => "unknown group construct"
  | .possessive => "possessive quantifiers are not supported"
  | .negatedClass name => "negated POSIX class [:" ++ name ++ ":] is not supported"
  | .unknownClass name => "unknown POSIX class [:" ++ name ++ ":]"
  | .unterminatedClass => "unterminated character class"
  | .doesNotCompile reason => "pattern does not compile: " ++ reason

/-- A construct that small engines may lack. -/
inductive Note where
  | backreference
  | namedGroup
  | lookbehind
  deriving DecidableEq

def Note.message : Note → String
  | .backreference => "backreferences may not be supported by the minimal runtime"
  | .namedGroup => "named groups may not be supported by the minimal runtime"
  | .lookbehind => "lookbehind may not be supported by the minimal runtime"

end EdgeRoutes.Pattern
