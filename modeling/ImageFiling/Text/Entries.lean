import ImageFiling.Text.Basic

/-!
# Entries

Values by name, in the order in which the names first came: the members of an object, the headers of
a message. Setting a name that is there keeps its place.
-/

namespace ImageFiling

/-- Values by name, in order. -/
abbrev Entries (α : Type) := List (Text × α)

namespace Entries

variable {α : Type}

def get? (entries : Entries α) (name : Text) : Option α := entries.lookup name

/-- The entries with one of them set: in its place if there is one of the name, else at the end. -/
def put (entries : Entries α) (name : Text) (value : α) : Entries α :=
  match entries with
  | [] => [(name, value)]
  | (n, v) :: rest => if n = name then (n, value) :: rest else (n, v) :: put rest name value

def putAll (entries others : Entries α) : Entries α :=
  others.foldl (fun es (name, value) => put es name value) entries

@[simp] theorem get?_put_self (entries : Entries α) (name : Text) (value : α) :
    get? (put entries name value) name = some value := by
  induction entries with
  | nil => simp [put, get?]
  | cons e rest ih =>
    obtain ⟨n, v⟩ := e
    by_cases h : n = name
    · simp [put, get?, h]
    · have h' : (name == n) = false := by simpa using fun e => h e.symm
      simpa [put, get?, h, List.lookup_cons, h'] using ih

@[simp] theorem get?_put_of_ne (entries : Entries α) {name other : Text} (value : α) (h : other ≠ name) :
    get? (put entries name value) other = get? entries other := by
  induction entries with
  | nil =>
    have h' : (other == name) = false := by simpa using h
    simp [put, get?, List.lookup_cons, h']
  | cons e rest ih =>
    obtain ⟨n, v⟩ := e
    by_cases hn : n = name
    · subst hn
      have h' : (other == n) = false := by simpa using h
      simp [put, get?, List.lookup_cons, h']
    · simp only [put, if_neg hn, get?, List.lookup_cons]
      split
      · rfl
      · exact ih

end Entries

end ImageFiling
