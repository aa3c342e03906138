import ImageFiling.Text.Basic

/-!
# URL patterns

In a URL pattern an asterisk stands for any text and every other character for itself. `row` decides
the match for all suffixes of a text at once, going through the pattern from its end, so that a match
takes time in proportion to the product of both lengths.
-/

namespace ImageFiling.Glob

/-- For each suffix of a text, the longest first, whether some suffix of it is marked. -/
def spread : List Bool → List Bool
  | [] => []
  | b :: r =>
    let marks := spread r
    (b || marks.headD false) :: marks

/-- For each suffix of `t`, the longest first, whether it starts with `c` and what follows is
marked. -/
def step (c : Char) : Text → List Bool → List Bool
  | d :: t, _ :: marks => (c == d && marks.headD false) :: step c t marks
  | _, _ => [false]

/-- For each suffix of `t`, the longest first, whether it matches the pattern. -/
def row (t : Text) : Text → List Bool
  | [] => List.replicate t.length false ++ [true]
  | c :: pattern => if c = '*' then spread (row t pattern) else step c t (row t pattern)

/-- Whether a URL matches a pattern; nothing matches the empty pattern. -/
def accepts (pattern url : Text) : Bool := !pattern.isEmpty && (row url pattern).headD false

/-- Whether a URL matches a pattern that need not be there; nothing matches a missing one. -/
def admits (pattern : Option Text) (url : Text) : Bool := pattern.any (accepts · url)

end ImageFiling.Glob
