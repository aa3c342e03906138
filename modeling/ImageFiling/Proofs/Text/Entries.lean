import ImageFiling.Text.Entries

/-!
# What stands in entries

Setting values brings in nothing but what is set (`get?_putAll`), and no name comes to stand twice
(`nodup_putAll`). Where no name stands twice, the order of entries matters neither to what is found
(`get?_of_perm`) nor to what is set (`put_perm`).
-/

namespace ImageFiling.Entries

variable {α : Type}

theorem mem_put {entries : Entries α} {name : Text} {value : α} {e : Text × α}
    (member : e ∈ put entries name value) : e = (name, value) ∨ e ∈ entries := by
  induction entries with
  | nil => exact .inl (List.mem_singleton.mp member)
  | cons first rest ih =>
    obtain ⟨n, v⟩ := first
    unfold put at member
    split at member
    · next same =>
      subst same
      rcases List.mem_cons.mp member with rfl | later
      · exact .inl rfl
      · exact .inr (List.mem_cons_of_mem _ later)
    · rcases List.mem_cons.mp member with rfl | later
      · exact .inr List.mem_cons_self
      · rcases ih later with new | old
        · exact .inl new
        · exact .inr (List.mem_cons_of_mem _ old)

theorem mem_putAll {entries others : Entries α} {e : Text × α}
    (member : e ∈ putAll entries others) : e ∈ entries ∨ e ∈ others := by
  induction others generalizing entries with
  | nil => exact .inl member
  | cons first rest ih =>
    rcases ih member with old | later
    · rcases mem_put old with rfl | before
      · exact .inr List.mem_cons_self
      · exact .inl before
    · exact .inr (List.mem_cons_of_mem _ later)

theorem mem_of_get? {entries : Entries α} {name : Text} {value : α}
    (found : get? entries name = some value) : (name, value) ∈ entries := by
  obtain ⟨before, after, whole, -⟩ := List.lookup_eq_some_iff.mp found
  rw [whole]
  exact List.mem_append_right _ List.mem_cons_self

theorem get?_of_absent {entries : Entries α} {name : Text} (absent : ∀ e ∈ entries, e.1 ≠ name) :
    get? entries name = none := by
  apply List.lookup_eq_none_iff.mpr
  intro e member
  rw [bne_iff_ne]
  exact Ne.symm (absent e member)

theorem put_of_absent {entries : Entries α} {name : Text} (absent : ∀ e ∈ entries, e.1 ≠ name)
    (value : α) : put entries name value = entries ++ [(name, value)] := by
  induction entries with
  | nil => rfl
  | cons first rest ih =>
    obtain ⟨n, v⟩ := first
    have other : n ≠ name := absent (n, v) List.mem_cons_self
    rw [put, if_neg other, ih fun e member => absent e (List.mem_cons_of_mem _ member)]
    rfl

theorem nodup_put {entries : Entries α} (distinct : (entries.map Prod.fst).Nodup) (name : Text)
    (value : α) : ((put entries name value).map Prod.fst).Nodup := by
  induction entries with
  | nil => simp [put]
  | cons first rest ih =>
    obtain ⟨n, v⟩ := first
    obtain ⟨absent, later⟩ := List.nodup_cons.mp distinct
    unfold put
    split
    · exact distinct
    · next other =>
      refine List.nodup_cons.mpr ⟨?_, ih later⟩
      intro again
      obtain ⟨e, member, same⟩ := List.mem_map.mp again
      rcases mem_put member with rfl | old
      · exact other same.symm
      · exact absent (List.mem_map.mpr ⟨e, old, same⟩)

theorem nodup_putAll (entries others : Entries α) (distinct : (entries.map Prod.fst).Nodup) :
    ((putAll entries others).map Prod.fst).Nodup := by
  induction others generalizing entries with
  | nil => exact distinct
  | cons first rest ih =>
    obtain ⟨name, value⟩ := first
    exact ih (put entries name value) (nodup_put distinct name value)

/-- What is set counts, and what was there where nothing is set. -/
theorem get?_putAll (entries : Entries α) {others : Entries α}
    (distinct : (others.map Prod.fst).Nodup) (name : Text) :
    get? (putAll entries others) name = (get? others name).or (get? entries name) := by
  induction others generalizing entries with
  | nil => rfl
  | cons first rest ih =>
    obtain ⟨n, v⟩ := first
    obtain ⟨absent, later⟩ := List.nodup_cons.mp distinct
    have step : get? (putAll entries ((n, v) :: rest)) name =
        (get? rest name).or (get? (put entries n v) name) := ih (put entries n v) later
    by_cases same : name = n
    · subst same
      have unset : get? rest name = none :=
        get?_of_absent fun e member equal => absent (List.mem_map.mpr ⟨e, member, equal⟩)
      have set : get? ((name, v) :: rest) name = some v := by simp [get?]
      rw [step, unset, get?_put_self, set]
      rfl
    · have passed : get? ((n, v) :: rest) name = get? rest name := by
        simp [get?, List.lookup_cons, beq_eq_false_iff_ne.mpr same]
      rw [step, get?_put_of_ne entries v same, passed]

/-! ### Entries in another order -/

theorem get?_of_mem {entries : Entries α} (distinct : (entries.map Prod.fst).Nodup) {name : Text}
    {value : α} (member : (name, value) ∈ entries) : get? entries name = some value := by
  obtain ⟨before, after, whole⟩ := List.append_of_mem member
  refine List.lookup_eq_some_iff.mpr ⟨before, after, whole, ?_⟩
  rw [whole, List.map_append] at distinct
  intro e inside
  have other : e.1 ≠ name :=
    (List.nodup_append.mp distinct).2.2 e.1 (List.mem_map_of_mem inside) name List.mem_cons_self
  exact bne_iff_ne.mpr (Ne.symm other)

theorem get?_of_perm {entries others : Entries α} (distinct : (entries.map Prod.fst).Nodup)
    (perm : entries.Perm others) (name : Text) : get? entries name = get? others name := by
  have distinct' : (others.map Prod.fst).Nodup := (perm.map Prod.fst).nodup_iff.mp distinct
  cases found : get? others name with
  | some value =>
    have member := perm.mem_iff.mpr (mem_of_get? found)
    exact get?_of_mem distinct member
  | none =>
    cases other : get? entries name with
    | none => rfl
    | some value =>
      rw [get?_of_mem distinct' (perm.mem_iff.mp (mem_of_get? other))] at found
      cases found

theorem put_perm_cons_filter {entries : Entries α} (distinct : (entries.map Prod.fst).Nodup)
    (name : Text) (value : α) :
    (put entries name value).Perm ((name, value) :: entries.filter (·.1 ≠ name)) := by
  induction entries with
  | nil => exact .refl _
  | cons first rest ih =>
    obtain ⟨n, v⟩ := first
    obtain ⟨absent, later⟩ := List.nodup_cons.mp distinct
    by_cases same : n = name
    · subst same
      have others : ((n, v) :: rest).filter (·.1 ≠ n) = rest := by
        rw [List.filter_cons_of_neg (by simp)]
        apply List.filter_eq_self.mpr
        intro e member
        refine decide_eq_true fun again => ?_
        exact absent (List.mem_map.mpr ⟨e, member, again⟩)
      rw [put, if_pos rfl, others]
    · have kept : ((n, v) :: rest).filter (·.1 ≠ name) = (n, v) :: rest.filter (·.1 ≠ name) :=
        List.filter_cons_of_pos (decide_eq_true same)
      rw [put, if_neg same, kept]
      exact ((ih later).cons (n, v)).trans (.swap _ _ _)

theorem put_perm {entries others : Entries α} (distinct : (entries.map Prod.fst).Nodup)
    (perm : entries.Perm others) (name : Text) (value : α) :
    (put entries name value).Perm (put others name value) := by
  have distinct' : (others.map Prod.fst).Nodup := (perm.map Prod.fst).nodup_iff.mp distinct
  have kept := (perm.filter (·.1 ≠ name)).cons (name, value)
  exact (put_perm_cons_filter distinct name value).trans
    (kept.trans (put_perm_cons_filter distinct' name value).symm)

theorem putAll_of_distinct {entries others : Entries α}
    (distinct : ((entries ++ others).map Prod.fst).Nodup) :
    putAll entries others = entries ++ others := by
  induction others generalizing entries with
  | nil => exact (List.append_nil entries).symm
  | cons first rest ih =>
    obtain ⟨name, value⟩ := first
    have absent : ∀ e ∈ entries, e.1 ≠ name := by
      intro e member
      rw [List.map_append] at distinct
      exact (List.nodup_append.mp distinct).2.2 e.1 (List.mem_map_of_mem member) name
        List.mem_cons_self
    have whole : entries ++ (name, value) :: rest = (entries ++ [(name, value)]) ++ rest := by simp
    show putAll (put entries name value) rest = _
    rw [whole] at distinct ⊢
    rw [put_of_absent absent, ih distinct]

end ImageFiling.Entries
