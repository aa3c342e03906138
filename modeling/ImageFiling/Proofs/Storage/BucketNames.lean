import ImageFiling.Proofs.Xml.Places
import ImageFiling.Storage.ObjectStore

/-!
# Lists of buckets

A store answers with a document whose root has `Buckets`, with a `Bucket` for each bucket and the
name in it. `bucketNames_by_place` says which texts of a document are taken for names, and that
neither namespaces nor other elements make a difference.
-/

namespace ImageFiling.ObjectStore

open Xml (Element)
open Xml.Element (Reached placed)

def listNames : List Text := ["Buckets", "Bucket", "Name"]

mutual

/-- A document goes over into another one: elements are put into other namespaces, and elements of
names that a list of buckets does not have are put in, but so that the text of a `Name` stays. -/
inductive Extends : Element → Element → Prop where
  | element {space space' name text text' : Text} {children children' : List Element}
      (keeps : name = "Name" → text' = text) (inside : ExtendsAll children children') :
      Extends (.element space name text children) (.element space' name text' children')

inductive ExtendsAll : List Element → List Element → Prop where
  | nil : ExtendsAll [] []
  | kept {e e' : Element} {rest rest' : List Element} (first : Extends e e')
      (others : ExtendsAll rest rest') : ExtendsAll (e :: rest) (e' :: rest')
  | inserted {e : Element} {rest rest' : List Element} (other : e.name ∉ listNames)
      (others : ExtendsAll rest rest') : ExtendsAll rest (e :: rest')

end

theorem Extends.name_eq {e e' : Element} (ext : Extends e e') : e'.name = e.name := by
  cases ext
  rfl

theorem Extends.children {e e' : Element} (ext : Extends e e') :
    ExtendsAll e.children e'.children := by
  cases ext with
  | element _ inside => exact inside

theorem Extends.text_eq {e e' : Element} (ext : Extends e e') (named : e.name = "Name") :
    e'.text = e.text := by
  cases ext with
  | element keeps _ => exact keeps named

/-- The elements of a name that a list of buckets has stay, in their order. -/
theorem ExtendsAll.named {es es' : List Element} (ext : ExtendsAll es es') {name : Text}
    (listed : name ∈ listNames) :
    List.Forall₂ Extends (es.filter (·.name = name)) (es'.filter (·.name = name)) := by
  match ext with
  | .nil => exact .nil
  | .kept first others =>
    have later := others.named listed
    simp only [List.filter_cons, first.name_eq]
    split
    · exact .cons first later
    · exact later
  | @ExtendsAll.inserted e _ _ other others =>
    have passed : e.name ≠ name := by
      rintro rfl
      exact other listed
    rw [List.filter_cons_of_neg (by simpa using passed)]
    exact others.named listed

theorem Extends.along {e e' : Element} (ext : Extends e e') {names : List Text}
    (listed : ∀ name ∈ names, name ∈ listNames) :
    List.Forall₂ Extends (e.along names) (e'.along names) := by
  induction names generalizing e e' with
  | nil => exact .cons ext .nil
  | cons name rest ih =>
    obtain ⟨first, later⟩ := List.forall_mem_cons.mp listed
    exact List.rel_flatMap (ext.children.named first) fun _ _ below => ih below later

theorem name_of_mem_along {root e : Element} (member : e ∈ root.along listNames) :
    e.name = "Name" := by
  have last : root.along listNames = (root.along ["Buckets", "Bucket"]).flatMap (·.named "Name") :=
    Element.along_concat root ["Buckets", "Bucket"] "Name"
  rw [last] at member
  obtain ⟨bucket, -, inside⟩ := List.mem_flatMap.mp member
  exact of_decide_eq_true (List.mem_filter.mp inside).2

theorem Extends.bucketNames_eq {root root' : Element} (ext : Extends root root') :
    bucketNames root' = bucketNames root := by
  have texts : List.Forall₂ (fun e e' => e'.text = e.text) (root.along listNames)
      (root'.along listNames) := by
    have named : ∀ e ∈ root.along listNames, e.name = "Name" := fun _ => name_of_mem_along
    refine ((List.forall₂_and_left _ _).mpr ⟨named, ext.along fun _ => id⟩).imp ?_
    rintro e e' ⟨isName, ext⟩
    exact ext.text_eq isName
  have same : (root'.along listNames).map (·.text) = (root.along listNames).map (·.text) := by
    rw [← List.forall₂_eq_eq_eq, List.forall₂_map_left_iff, List.forall₂_map_right_iff]
    exact texts.flip
  exact congrArg (List.filter (!·.isEmpty)) same

/-! ### Documents of given names -/

def nameElement (name : Text) : Element := .element [] "Name" name []

def bucketElement (names : List Text) : Element := .element [] "Bucket" [] (names.map nameElement)

def bucketsElement (buckets : List (List Text)) : Element :=
  .element [] "Buckets" [] (buckets.map bucketElement)

theorem along_map {α : Type} {space name text first : Text} (f : α → Element)
    (named : ∀ x, (f x).name = first) (xs : List α) (rest : List Text) :
    (Element.element space name text (xs.map f)).along (first :: rest) =
      xs.flatMap fun x => (f x).along rest := by
  have all : (Element.element space name text (xs.map f)).named first = xs.map f := by
    refine List.filter_eq_self.mpr ?_
    intro e member
    obtain ⟨x, -, rfl⟩ := List.mem_map.mp member
    exact decide_eq_true (named x)
  rw [Element.along, all, List.flatMap_map]

theorem along_bucketElement (names : List Text) :
    (bucketElement names).along ["Name"] = names.map nameElement := by
  refine (along_map nameElement (fun _ => rfl) names []).trans ?_
  rw [List.map_eq_flatMap]
  rfl

theorem along_bucketsElement (buckets : List (List Text)) :
    (bucketsElement buckets).along ["Bucket", "Name"] = buckets.flatten.map nameElement := by
  refine (along_map bucketElement (fun _ => rfl) buckets ["Name"]).trans ?_
  simp only [along_bucketElement, List.map_flatten, List.flatMap_def]

theorem bucketNames_map (space name text : Text) {lists : List (List (List Text))}
    (filled : ∀ n ∈ lists.flatten.flatten, n ≠ []) :
    bucketNames (.element space name text (lists.map bucketsElement)) = lists.flatten.flatten := by
  have names : (Element.element space name text (lists.map bucketsElement)).along listNames =
      lists.flatten.flatten.map nameElement := by
    refine (along_map bucketsElement (fun _ => rfl) lists ["Bucket", "Name"]).trans ?_
    simp only [along_bucketsElement]
    rw [← List.map_flatMap, List.flatMap_def, List.flatten_flatten]
  have texts : (lists.flatten.flatten.map nameElement).map (·.text) = lists.flatten.flatten := by
    rw [List.map_map]
    exact List.map_id _
  show ((Element.along _ listNames).map (·.text)).filter (!·.isEmpty) = lists.flatten.flatten
  rw [names, texts, List.filter_eq_self]
  intro n member
  simpa using filled n member

/-- The names are the texts of the elements at the places `Buckets`, `Bucket`, `Name` under the root,
each of them once and in the order of the document, but for those without text. Namespaces and
elements of other names make no difference to them, so the names that a document is made of are the
ones that are read from it. -/
theorem bucketNames_by_place (root : Element) :
    (∃ found : List (List Nat × Element), found.Pairwise (fun p q => p.1 < q.1) ∧
      (∀ place e, (place, e) ∈ found ↔
        Reached root place ["Buckets", "Bucket", "Name"] e ∧ e.text ≠ []) ∧
      bucketNames root = found.map (·.2.text)) ∧
    (∀ root', Extends root root' → bucketNames root' = bucketNames root) ∧
    ∀ lists : List (List (List Text)), (∀ n ∈ lists.flatten.flatten, n ≠ []) →
      ExtendsAll (lists.map bucketsElement) root.children →
      bucketNames root = lists.flatten.flatten := by
  refine ⟨?_, fun _ => Extends.bucketNames_eq, ?_⟩
  · refine ⟨(root.placed listNames).filter fun p => !p.2.text.isEmpty, ?_, ?_, ?_⟩
    · exact (Element.pairwise_placed root listNames).filter _
    · intro place e
      rw [List.mem_filter, Element.mem_placed]
      simp [listNames]
    · have texts := congrArg (List.map (·.text)) (Element.map_placed root listNames)
      rw [List.map_map] at texts
      unfold bucketNames
      show (List.map _ (root.along listNames)).filter _ = _
      rw [← texts, List.filter_map]
      rfl
  · intro lists filled inside
    obtain ⟨space, name, text, children⟩ := root
    have ext : Extends (.element space name text (lists.map bucketsElement))
        (.element space name text children) := .element (fun _ => rfl) inside
    exact ext.bucketNames_eq.trans (bucketNames_map space name text filled)

/-- Two buckets, in the namespace of the store and beside an owner that has a name. -/
def shelfList : Element :=
  .element "store" "ListAllMyBucketsResult" [] [
    .element "store" "Owner" [] [.element "store" "Name" "Ada" []],
    .element "store" "Buckets" "\n" [
      .element "store" "Bucket" [] [.element "store" "Name" "images" [],
        .element "store" "CreationDate" "2024" []],
      .element "store" "Bucket" [] [.element "store" "Name" "backup" []]]]

def shelfNames : List (List (List Text)) := [[["images"], ["backup"]]]

theorem shelfList_extends : ExtendsAll (shelfNames.map bucketsElement) shelfList.children := by
  refine .inserted (by decide) (.kept (.element (fun same => absurd same (by decide)) ?_) .nil)
  refine .kept (.element (fun same => absurd same (by decide)) ?_)
    (.kept (.element (fun same => absurd same (by decide)) ?_) .nil)
  · exact .kept (.element (fun _ => rfl) .nil) (.inserted (by decide) .nil)
  · exact .kept (.element (fun _ => rfl) .nil) .nil

theorem shelfList_names :
    (∀ n ∈ shelfNames.flatten.flatten, n ≠ []) ∧
      ExtendsAll (shelfNames.map bucketsElement) shelfList.children ∧
      bucketNames shelfList = ["images", "backup"] := by
  have filled : ∀ n ∈ shelfNames.flatten.flatten, n ≠ [] := by decide
  exact ⟨filled, shelfList_extends,
    (bucketNames_by_place shelfList).2.2 shelfNames filled shelfList_extends⟩

end ImageFiling.ObjectStore
