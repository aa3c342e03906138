import ImageFiling.Proofs.Text.Percent
import ImageFiling.Proofs.Text.Utf8
import ImageFiling.Proofs.Url.Site
import ImageFiling.Url.Query
import Mathlib.Data.List.Forall2

/-!
# Queries as they are written

A text is spelled in a query by its characters and by escapes for their bytes, with a plus sign for a
space. A query of spelled pairs is read as these pairs, wherever it stands in a URL and whatever empty
pieces stand between them (`pairs_of_isQueryPart`).
-/

namespace ImageFiling.Query

/-- A hexadecimal digit in either case. -/
inductive IsHex : Nat → Char → Prop where
  | upper {d : Nat} (small : d < 16) : IsHex d (Percent.upperHexDigit d)
  | lower {d : Nat} (small : d < 16) : IsHex d (Text.hexDigit d)

def IsEscape (b : UInt8) (t : Text) : Prop :=
  ∃ high low, IsHex (b.toNat / 16) high ∧ IsHex (b.toNat % 16) low ∧ t = ['%', high, low]

/-- Whether a character may stand in a name or a value, an escape included. -/
def isPartChar (c : Char) : Bool := c != '&' && c != '=' && c != '#' && !Url.isSkipped c

def isLiteral (c : Char) : Bool := c != '%' && c != '+' && isPartChar c

/-- A part of a query and the text that it stands for. -/
inductive Spells : Text → Text → Prop where
  | nil : Spells [] []
  | plus {u t : Text} (rest : Spells u t) : Spells ('+' :: u) (' ' :: t)
  | literal {c : Char} {u t : Text} (plain : isLiteral c = true) (rest : Spells u t) :
    Spells (c :: u) (c :: t)
  | escaped {c : Char} {escapes : List Text} {u t : Text}
    (bytes : List.Forall₂ IsEscape (Utf8.encodeChar c) escapes) (rest : Spells u t) :
    Spells (escapes.flatten ++ u) (c :: t)

def IsPair (piece : Text) (pair : Text × Text) : Prop :=
  ∃ name value, Spells name pair.1 ∧ Spells value pair.2 ∧ piece = name ++ '=' :: value

/-- The query of a URL with its question mark; it may be left out if there are no pairs. -/
inductive IsQueryPart : List (Text × Text) → Text → Prop where
  | absent : IsQueryPart [] []
  | query {pieces : List Text} {pairs : List (Text × Text)}
    (spelled : List.Forall₂ IsPair (pieces.filter (!·.isEmpty)) pairs) :
    IsQueryPart pairs ('?' :: Text.joined ['&'] pieces)

/-! ### Spelled texts -/

theorem IsHex.hexValue? {d : Nat} {c : Char} (hex : IsHex d c) : Percent.hexValue? c = some d := by
  cases hex with
  | upper small => exact Percent.hexValue?_upperHexDigit d small
  | lower small =>
    have all : ∀ d < 16, Percent.hexValue? (Text.hexDigit d) = some d := by decide
    exact all d small

theorem IsHex.isAlphanum {d : Nat} {c : Char} (hex : IsHex d c) : c.isAlphanum = true := by
  cases hex with
  | upper small => exact Percent.upperHexDigit_isAlphanum d small
  | lower small => exact Text.hexDigit_isAlphanum d small

theorem isPartChar_of_isAlphanum {c : Char} (alphanum : c.isAlphanum = true) :
    isPartChar c = true ∧ c ≠ '+' := by
  have bounds := Text.toNat_of_isAlphanum alphanum
  exact Text.forall_ascii (P := fun c => c.isAlphanum = true → isPartChar c = true ∧ c ≠ '+')
    (by decide) (by omega) alphanum

theorem IsEscape.chars {b : UInt8} {t : Text} (escape : IsEscape b t) :
    ∀ c ∈ t, isPartChar c = true ∧ c ≠ '+' := by
  obtain ⟨high, low, first, second, rfl⟩ := escape
  simp only [List.forall_mem_cons]
  exact ⟨by decide, isPartChar_of_isAlphanum first.isAlphanum,
    isPartChar_of_isAlphanum second.isAlphanum, nofun⟩

theorem escapes_chars {bytes : Bytes} {escapes : List Text}
    (escaped : List.Forall₂ IsEscape bytes escapes) :
    ∀ c ∈ escapes.flatten, isPartChar c = true ∧ c ≠ '+' := by
  induction escaped with
  | nil => exact List.forall_mem_nil _
  | cons escape _ ih =>
    rw [List.flatten_cons, List.forall_mem_append]
    exact ⟨escape.chars, ih⟩

theorem decodeBytes_escapes {bytes : Bytes} {escapes : List Text}
    (escaped : List.Forall₂ IsEscape bytes escapes) (r : Text) :
    Percent.decodeBytes (escapes.flatten ++ r) = bytes ++ Percent.decodeBytes r := by
  induction escaped with
  | nil => rfl
  | @cons b t bytes escapes escape _ ih =>
    obtain ⟨high, low, first, second, rfl⟩ := escape
    have byte := Percent.byte?_of_hexValue? first.hexValue? second.hexValue?
    change Percent.decodeBytes ('%' :: high :: low :: (escapes.flatten ++ r)) =
      b :: (bytes ++ Percent.decodeBytes r)
    rw [Percent.decodeBytes, byte, ih]

theorem of_isLiteral {c : Char} (plain : isLiteral c = true) :
    c ≠ '%' ∧ c ≠ '+' ∧ isPartChar c = true := by
  simpa [isLiteral, and_assoc] using plain

theorem Spells.chars {u t : Text} (spelled : Spells u t) : ∀ c ∈ u, isPartChar c = true := by
  induction spelled with
  | nil => exact List.forall_mem_nil _
  | plus _ ih => exact List.forall_mem_cons.mpr ⟨rfl, ih⟩
  | literal plain _ ih => exact List.forall_mem_cons.mpr ⟨(of_isLiteral plain).2.2, ih⟩
  | escaped bytes _ ih =>
    exact List.forall_mem_append.mpr ⟨fun c member => (escapes_chars bytes c member).1, ih⟩

theorem Spells.decodeBytes {u t : Text} (spelled : Spells u t) :
    Percent.decodeBytes (u.map fun c => if c = '+' then ' ' else c) = Utf8.encode t := by
  induction spelled with
  | nil => rfl
  | @plus u t _ ih =>
    change Percent.decodeBytes (' ' :: u.map fun c => if c = '+' then ' ' else c) = _
    rw [Percent.decodeBytes_cons_ne (by decide), ih]
    rfl
  | @literal c u t plain _ ih =>
    obtain ⟨percent, plus, -⟩ := of_isLiteral plain
    rw [List.map_cons, if_neg plus, Percent.decodeBytes_cons_ne percent, ih]
    rfl
  | @escaped c escapes u t bytes _ ih =>
    have stays : escapes.flatten.map (fun c => if c = '+' then ' ' else c) = escapes.flatten := by
      rw [List.map_congr_left fun c member => if_neg (escapes_chars bytes c member).2, List.map_id']
    rw [List.map_append, stays, decodeBytes_escapes bytes, ih]
    rfl

theorem decodePart_of_spells {u t : Text} (spelled : Spells u t) : decodePart u = t := by
  simp [decodePart, Percent.decode, spelled.decodeBytes]

/-! ### Spelled pairs -/

theorem isPartChar_ne {c : Char} (part : isPartChar c = true) :
    c ≠ '&' ∧ c ≠ '=' ∧ c ≠ '#' ∧ Url.isSkipped c = false := by
  simpa [isPartChar, and_assoc] using part

theorem IsPair.chars {piece : Text} {pair : Text × Text} (isPair : IsPair piece pair) :
    ∀ c ∈ piece, c ≠ '&' ∧ c ≠ '#' ∧ Url.isSkipped c = false := by
  obtain ⟨name, value, named, valued, rfl⟩ := isPair
  have part {u t : Text} (spelled : Spells u t) :
      ∀ c ∈ u, c ≠ '&' ∧ c ≠ '#' ∧ Url.isSkipped c = false := by
    intro c member
    obtain ⟨ampersand, -, number, shown⟩ := isPartChar_ne (spelled.chars c member)
    exact ⟨ampersand, number, shown⟩
  exact List.forall_mem_append.mpr ⟨part named, List.forall_mem_cons.mpr ⟨by decide, part valued⟩⟩

/-- A pair is cut where it was put together and both parts are read back. -/
theorem IsPair.read {piece : Text} {pair : Text × Text} (isPair : IsPair piece pair) :
    (decodePart (piece.cut '=').1, decodePart ((piece.cut '=').2.getD [])) = pair := by
  obtain ⟨name, value, named, valued, rfl⟩ := isPair
  have clean : '=' ∉ name := fun member => (isPartChar_ne (named.chars '=' member)).2.1 rfl
  simp [clean, decodePart_of_spells named, decodePart_of_spells valued]

section

variable {pieces : List Text} {spelled : List (Text × Text)}
  (all : List.Forall₂ IsPair (pieces.filter (!·.isEmpty)) spelled)

include all

theorem pieces_chars : ∀ piece ∈ pieces, ∀ c ∈ piece, c ≠ '&' ∧ c ≠ '#' ∧ Url.isSkipped c = false := by
  intro piece member c inside
  have filled : (!piece.isEmpty) = true := by
    rw [Bool.not_eq_true', List.isEmpty_eq_false_iff]
    exact List.ne_nil_of_mem inside
  have each := (List.forall₂_and_left _ _).mp
    (all.imp fun piece pair isPair => ⟨isPair.chars, isPair⟩)
  exact each.1 piece (List.mem_filter.mpr ⟨member, filled⟩) c inside

theorem pairs_joined : pairs (Text.joined ['&'] pieces) = spelled := by
  have clean : ∀ piece ∈ pieces, '&' ∉ piece := fun piece member inside =>
    (pieces_chars all piece member '&' inside).1 rfl
  cases pieces with
  | nil =>
    cases all
    rfl
  | cons piece rest =>
    rw [pairs, Text.pieces_joined (List.cons_ne_nil piece rest) clean, ← List.forall₂_eq_eq_eq,
      List.forall₂_map_left_iff]
    exact all.imp fun piece pair isPair => isPair.read

end

theorem IsQueryPart.chars {spelled : List (Text × Text)} {t : Text} (query : IsQueryPart spelled t) :
    ∀ c ∈ t, c ≠ '#' ∧ Url.isSkipped c = false := by
  cases query with
  | absent => exact List.forall_mem_nil _
  | query all =>
    refine List.forall_mem_cons.mpr ⟨by decide, fun c member => ?_⟩
    rcases Text.mem_joined member with separator | ⟨piece, inPieces, inside⟩
    · rw [List.mem_singleton.mp separator]
      decide
    · exact (pieces_chars all piece inPieces c inside).2

/-- The query of a URL is read as the pairs that it was spelled from. -/
theorem pairs_of_isQueryPart {spelled : List (Text × Text)} {before query fragment : Text}
    (isQuery : IsQueryPart spelled query) (inside : ∀ c ∈ before, Url.endsPath c = false)
    (begins : fragment.head?.all (· == '#') = true) {url : Url}
    (accepted : Url.split (before ++ (query ++ fragment)) = .ok url) : pairs url.query = spelled := by
  have number : '#' ∉ query := fun member => (isQuery.chars '#' member).1 rfl
  have later : (Text.cut '#' (fragment.filter (!Url.isSkipped ·))).1 = [] := by
    cases fragment with
    | nil => rfl
    | cons c fragment =>
      obtain rfl : c = '#' := by simpa using begins
      rfl
  have follows : (query ++ fragment).head?.all Url.endsPath = true := by
    cases isQuery with
    | query => rfl
    | absent =>
      cases fragment with
      | nil => rfl
      | cons c fragment =>
        obtain rfl : c = '#' := by simpa using begins
        rfl
  rw [Url.eq_parts_of_split accepted, Url.query_parts inside follows, List.filter_append,
    Url.filter_visible fun c member => (isQuery.chars c member).2, Text.cut_append number, later,
    List.append_nil]
  cases isQuery with
  | absent => rfl
  | query all =>
    simpa using pairs_joined all

end ImageFiling.Query
