import EdgeRoutes.Fault

/-! Why the pattern grammar rejects a pattern. -/

namespace EdgeRoutes.Pattern.Grammar

/-- How often an item is repeated, and how the repetition gives way. -/
inductive RepeatKind where
  | greedy
  | lazy
  | possessive
  deriving DecidableEq

def RepeatKind.operator : RepeatKind → String
  | .greedy => "MAX_REPEAT"
  | .lazy => "MIN_REPEAT"
  | .possessive => "POSSESSIVE_REPEAT"

/-- Why a pattern is rejected. -/
inductive Rejection where
  | danglingBackslash
  | badEscape (text : String)
  | incompleteEscape (text : String)
  | octalRange (text : String)
  | missingBrace
  | missingName (what : String)
  | unterminatedName (terminator : Char)
  | undefinedCharacter (name : String)
  | openGroup
  | sameLookbehind
  | invalidReference (group : Nat)
  | unterminatedSet
  | badRange (low high : String)
  | repeatBounds
  | nothingToRepeat
  | multipleRepeat
  | unexpectedEnd
  | unknownExtension (text : String)
  | badGroupName (name : String)
  | unknownGroupName (name : String)
  | redefinedName (name : String) (new old : Nat)
  | unterminatedComment
  | unterminatedGroup
  | tooManyBranches
  | badGroupNumber
  | misplacedFlags
  | localeFlag
  | conflictingTypes
  | unknownFlag
  | missingFlagEnd
  | missingFlag
  | missingColon
  | globalFlagOn
  | globalFlagOff
  | typeFlagOff
  | flagBothWays
  | unbalanced
  | lookbehindTooWide
  | lookbehindWidth
  | templateRepeat (kind : RepeatKind)
  deriving DecidableEq

def Rejection.message : Rejection → String
  | .danglingBackslash => "bad escape (end of pattern)"
  | .badEscape text => "bad escape " ++ text
  | .incompleteEscape text => "incomplete escape " ++ text
  | .octalRange text => "octal escape value " ++ text ++ " outside of range 0-0o377"
  | .missingBrace => "missing \x7b"
  | .missingName what => "missing " ++ what
  | .unterminatedName terminator =>
    "missing " ++ String.singleton terminator ++ ", unterminated name"
  | .undefinedCharacter name => "undefined character name " ++ Text.quoted name
  | .openGroup => "cannot refer to an open group"
  | .sameLookbehind => "cannot refer to group defined in the same lookbehind subpattern"
  | .invalidReference group => "invalid group reference " ++ toString group
  | .unterminatedSet => "unterminated character set"
  | .badRange low high => "bad character range " ++ low ++ "-" ++ high
  | .repeatBounds => "min repeat greater than max repeat"
  | .nothingToRepeat => "nothing to repeat"
  | .multipleRepeat => "multiple repeat"
  | .unexpectedEnd => "unexpected end of pattern"
  | .unknownExtension text => "unknown extension ?" ++ text
  | .badGroupName name => "bad character in group name " ++ Text.quoted name
  | .unknownGroupName name => "unknown group name " ++ Text.quoted name
  | .redefinedName name new old =>
    "redefinition of group name " ++ Text.quoted name ++ " as group " ++ toString new ++
      "; was group " ++ toString old
  | .unterminatedComment => "missing ), unterminated comment"
  | .unterminatedGroup => "missing ), unterminated subpattern"
  | .tooManyBranches => "conditional backref with more than two branches"
  | .badGroupNumber => "bad group number"
  | .misplacedFlags => "global flags not at the start of the expression"
  | .localeFlag => "bad inline flags: cannot use 'L' flag with a str pattern"
  | .conflictingTypes => "bad inline flags: flags 'a', 'u' and 'L' are incompatible"
  | .unknownFlag => "unknown flag"
  | .missingFlagEnd => "missing -, : or )"
  | .missingFlag => "missing flag"
  | .missingColon => "missing :"
  | .globalFlagOn => "bad inline flags: cannot turn on global flag"
  | .globalFlagOff => "bad inline flags: cannot turn off global flag"
  | .typeFlagOff => "bad inline flags: cannot turn off flags 'a', 'u' and 'L'"
  | .flagBothWays => "bad inline flags: flag turned on and off"
  | .unbalanced => "unbalanced parenthesis"
  | .lookbehindTooWide => "looks too much behind"
  | .lookbehindWidth => "look-behind requires fixed-width pattern"
  | .templateRepeat kind => "internal: unsupported template operator " ++ kind.operator

/-- Reading a pattern ends early with a rejection, or with a fault that is not about the grammar. -/
inductive Stop where
  | rejected (reason : Rejection)
  | fault (fault : Fault)

abbrev Reading := Except Stop

def reject {α : Type} (reason : Rejection) : Reading α :=
  .error (.rejected reason)

end EdgeRoutes.Pattern.Grammar
