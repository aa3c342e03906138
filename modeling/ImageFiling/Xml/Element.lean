import ImageFiling.Text.Basic

/-!
# Elements

A document as a tree of elements. Elements are looked up by local name, in any namespace or none.
-/

namespace ImageFiling.Xml

/-- An element: its namespace, its local name, the text before its first child, and its children. -/
inductive Element where
  | element (space name text : Text) (children : List Element)

namespace Element

def name : Element → Text
  | element _ name _ _ => name

def text : Element → Text
  | element _ _ text _ => text

def children : Element → List Element
  | element _ _ _ children => children

def named (e : Element) (name : Text) : List Element := e.children.filter (·.name = name)

/-- The elements at the ends of all paths of local names from an element. -/
def along (e : Element) : List Text → List Element
  | [] => [e]
  | name :: rest => (e.named name).flatMap (·.along rest)

mutual

/-- The elements inside an element, in the order in which they begin. -/
def inside : Element → List Element
  | element _ _ _ children => insideAll children

def insideAll : List Element → List Element
  | [] => []
  | e :: rest => e :: (e.inside ++ insideAll rest)

end

end Element

end ImageFiling.Xml
