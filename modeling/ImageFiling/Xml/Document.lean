import ImageFiling.Xml.Element
import ImageFiling.Xml.Prolog

/-!
# Documents

A document is one element, apart from what may stand before and after it. Reading one refuses tags
that do not match, attributes that are given twice, and prefixes without a namespace.
-/

namespace ImageFiling.Xml

/-- The namespaces by prefix; the empty prefix is that of names without colon. -/
abbrev Scope := List (Text × Text)

def xmlSpace : Text := "http://www.w3.org/XML/1998/namespace"

def declarationSpace : Text := "http://www.w3.org/2000/xmlns/"

/-- The prefix that an attribute declares a namespace for. -/
def declaredPrefix? (name : Text) : Option Text :=
  match splitName name with
  | ([], local_) => if local_ = "xmlns" then some [] else none
  | (first, local_) => if first = "xmlns" then some local_ else none

def mayDeclare (start space : Text) : Bool :=
  if start = "xml" then space = xmlSpace
  else start ≠ "xmlns" && (start.isEmpty || !space.isEmpty) && !space.contains '\x7d' &&
    space ≠ xmlSpace && space ≠ declarationSpace

def Scope.inside (scope : Scope) : List (Text × Text) → Option Scope
  | [] => some scope
  | (name, value) :: rest =>
    match declaredPrefix? name with
    | some start => if mayDeclare start value then Scope.inside ((start, value) :: scope) rest else none
    | none => Scope.inside scope rest

def Scope.expand (scope : Scope) (name : Text) : Option (Text × Text) :=
  match splitName name with
  | ([], local_) => some ((scope.lookup []).getD [], local_)
  | (start, local_) => (scope.lookup start).map (·, local_)

/-- The attributes' full names; one without a prefix is in no namespace. -/
def Scope.expandAttributes (scope : Scope) (attributes : List (Text × Text)) :
    Option (List (Text × Text)) :=
  (attributes.filter fun a => (declaredPrefix? a.1).isNone).mapM fun a =>
    if a.1.contains ':' then scope.expand a.1 else some ([], a.1)

def areDistinct [BEq α] : List α → Bool
  | [] => true
  | a :: rest => !rest.contains a && areDistinct rest

/-- An element whose closing tag was not read yet; the pieces of its text and its children are
reversed. -/
structure OpenElement where
  tag : Text
  scope : Scope
  space : Text
  name : Text
  texts : List Text := []
  children : List Element := []

def OpenElement.close (o : OpenElement) : Element :=
  .element o.space o.name o.texts.reverse.flatten o.children.reverse

/-- How far a document was read: the open elements, the innermost first, and the root if it is
complete. -/
structure Progress where
  opened : List OpenElement := []
  root : Option Element := none

namespace Progress

def push (p : Progress) (tag : Text) (attributes : List (Text × Text)) : Option Progress := do
  if p.opened.isEmpty ∧ p.root.isSome then none
  if !areDistinct (attributes.map (·.1)) then none
  let scope ← Scope.inside ((p.opened.head?.map (·.scope)).getD [("xml", xmlSpace)]) attributes
  let (space, name) ← scope.expand tag
  let full ← scope.expandAttributes attributes
  if !areDistinct full then none
  some { p with opened := { tag, scope, space, name } :: p.opened }

def pop (p : Progress) (tag : Text) : Option Progress :=
  match p.opened with
  | [] => none
  | o :: rest =>
    if o.tag ≠ tag then none
    else match rest with
      | [] => some ⟨[], some o.close⟩
      | outer :: rest => some ⟨{ outer with children := o.close :: outer.children } :: rest, none⟩

def write (p : Progress) (t : Text) (plain : Bool) : Option Progress :=
  match p.opened with
  | [] => if plain && t.all isSpace then some p else none
  | o :: rest =>
    let o := if o.children.isEmpty then { o with texts := t :: o.texts } else o
    some { p with opened := o :: rest }

def step (p : Progress) : Piece → Option Progress
  | .opening tag attributes => p.push tag attributes
  | .closing tag => p.pop tag
  | .text t => p.write t true
  | .literal t => p.write t false

end Progress

def parse? (t : Text) : Option Element := do
  let t := match t with
    | '\uFEFF' :: r => r
    | t => t
  if !t.all (isAllowed ·.toNat) then none
  let t ← skipDeclaration (Text.unifyLineEnds t)
  let (entities, t) ← readProlog t
  let ps ← pieces entities entities.length t
  let p ← ps.foldlM Progress.step {}
  if p.opened.isEmpty then p.root else none

end ImageFiling.Xml
