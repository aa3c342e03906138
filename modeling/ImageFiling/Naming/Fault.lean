import ImageFiling.Text.Numeral
import ImageFiling.Time.Moment
import ImageFiling.Url.Split

/-!
# Faults of naming

Why a pattern is not accepted, and why no name can be formed from it for a page.
-/

namespace ImageFiling

inductive PatternFault where
  | notRooted
  | malformed
  | unsupported (token : Text)
  | tokenCharacters (token : Text)
  /-- A part of a directory that is no file name. -/
  | directoryCharacters (segment : Text)
  | fileNameCharacters
  deriving DecidableEq, Repr

def PatternFault.message : PatternFault → Text
  | .notRooted => "Directory path must start with /"
  | .malformed => "Template is not well-formed, please check the curly braces"
  | .unsupported token => "Unsupported parameter: " ++ token
  | .tokenCharacters token => "Invalid character(s) found in parameter: " ++ token
  | .directoryCharacters segment => "Invalid character(s) found in directory path: " ++ segment
  | .fileNameCharacters => "Invalid character(s) found."

inductive NamingFault where
  | malformed (text : Text)
  | unsupported (token : Text)
  | missingFormat (token : Text)
  /-- A path parameter for a page without a path. -/
  | shortPath (number : Text)
  | badPathNumber (number : Text)
  | longPathNumber (f : Text.LongNumeral)
  /-- A path parameter for a part that the path does not have. -/
  | noSegment (number : Text) (value : Nat)
  | noQueryValue (name : Text)
  | notAbsolute (url : Text)
  | pattern (f : PatternFault)
  /-- A pattern of a field that has no preview. -/
  | noPreview
  | url (f : Url.Fault)
  | time (f : TimeFault)
  deriving DecidableEq, Repr

namespace NamingFault

def pathToken (number : Text) : Text := "\x7bpath-" ++ number ++ "\x7d"

def queryToken (name : Text) : Text := "\x7bquery-" ++ name ++ "\x7d"

def message : NamingFault → Text
  | malformed text => "Template is not well-formed: " ++ text
  | unsupported token => "Unsupported parameter: " ++ token
  | missingFormat _ => "Missing date/time format"
  | shortPath _ => "Too short pathname"
  | badPathNumber number => "Invalid path#: " ++ number
  | longPathNumber f => f.message
  | noSegment _ value => "Invalid path# or out of boundary: " ++ Text.numeral value
  | noQueryValue name => "Query string parameter is not found: " ++ name
  | notAbsolute page => "Invalid page URL: " ++ page
  | pattern f => f.message
  | noPreview => "Only directory and file name patterns can be tested"
  | url f => f.message
  | time f => f.message

def token? : NamingFault → Option Text
  | unsupported token => some token
  | missingFormat token => some token
  | shortPath number => some (pathToken number)
  | badPathNumber number => some (pathToken number)
  | noSegment number _ => some (pathToken number)
  | noQueryValue name => some (queryToken name)
  | _ => none

end NamingFault

end ImageFiling
