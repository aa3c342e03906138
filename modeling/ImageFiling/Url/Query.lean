import ImageFiling.Text.Percent

/-!
# Queries

A query is a list of pairs of a name and a value: pieces between ampersands, cut at the first equals
sign, in which `+` is a space. The canonical form of a query sorts the pairs as they are encoded.
-/

namespace ImageFiling.Query

def decodePart (t : Text) : Text := Percent.decode (t.map fun c => if c = '+' then ' ' else c)

def pairs (query : Text) : List (Text × Text) :=
  ((query.pieces '&').filter (!·.isEmpty)).map fun piece =>
    let (name, value) := piece.cut '='
    (decodePart name, decodePart (value.getD []))

def first? (query name : Text) : Option Text := (pairs query).lookup name

def encodePair (pair : Text × Text) : Text × Text :=
  (Percent.encode Percent.isUnreserved pair.1, Percent.encode Percent.isUnreserved pair.2)

/-- Order by the name, then by the value. -/
def pairLe (p q : Text × Text) : Bool :=
  if p.1 = q.1 then p.2.le q.2 else p.1.le q.1

def canonical (query : Text) : Text :=
  let encoded := ((pairs query).map encodePair).mergeSort pairLe
  Text.joined "&" (encoded.map fun (name, value) => name ++ '=' :: value)

end ImageFiling.Query
