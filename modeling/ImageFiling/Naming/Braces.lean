import ImageFiling.Text.Regex

/-!
# Braces

A naming pattern is plain text with groups in braces, its tokens. A pattern is read only if its
braces match: every one of them is part of a group, and groups are not empty and do not nest.
-/

namespace ImageFiling.Naming

def isPlain (c : Char) : Bool := c != '\x7b' && c != '\x7d'

def opening : Regex := .one (· == '\x7b')

def closing : Regex := .one (· == '\x7d')

def plain : Regex := .one isPlain

/-- A group with plain text in it. -/
def token : Regex := opening.seq (plain.atLeastOne.seq closing)

/-- A group inside a group. -/
def nestedGroup : Regex :=
  opening.seq <| plain.many.seq <| opening.seq <| plain.many.seq <| closing.seq <|
    plain.many.seq closing

/-- Plain text with tokens in it. -/
def balanced : Regex := (plain.many.seq token).many.seq plain.many

def hasMatchedBraces (t : Text) : Bool := !nestedGroup.occursIn t && balanced.spans t

/-- The tokens of a pattern, if its braces match. -/
def tokens? (t : Text) : Option (List Text) :=
  if hasMatchedBraces t then some (token.findAll t) else none

end ImageFiling.Naming
