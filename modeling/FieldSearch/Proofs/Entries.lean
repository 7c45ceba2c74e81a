import FieldSearch.Entries

/-!
# Entries that are put one after the other

Of several values put under one name the last is found, and the name stands once. Entries that
have distinct names already are kept as they are.
-/

namespace FieldSearch.Entries

variable {α β : Type}

/-! ## Look-up -/

/-- What is found in one list after another is found in the first, or else in the second. -/
theorem find?_append (first next : List (Text × α)) (name : Text) :
    find? (first ++ next) name = (find? first name).or (find? next name) := by
  induction first with
  | nil => rfl
  | cons entry rest ih =>
    by_cases same : entry.1 = name
    · simp [find?, same]
    · simpa [find?, same] using ih

/-- Nothing is found under a name that is not there. -/
theorem find?_eq_none_iff {entries : List (Text × α)} {name : Text} :
    find? entries name = none ↔ name ∉ names entries := by
  induction entries with
  | nil => simp [find?, names]
  | cons entry rest ih =>
    by_cases same : entry.1 = name
    · simp [find?, names, same]
    · simpa [find?, names, same, Ne.symm same] using ih

/-- Something is found under the names that are there. -/
theorem isSome_find?_iff {entries : List (Text × α)} {name : Text} :
    (find? entries name).isSome ↔ name ∈ names entries := by
  rw [Option.isSome_iff_ne_none, ne_eq, find?_eq_none_iff, Decidable.not_not]

/-- Changed values are found changed; a change that fails for no value leaves none out. -/
theorem find?_filterMap {f : α → Option β} {entries : List (Text × α)}
    (total : ∀ entry ∈ entries, (f entry.2).isSome) (name : Text) :
    find? (entries.filterMap fun entry => (f entry.2).map (entry.1, ·)) name =
      (find? entries name).bind f := by
  induction entries with
  | nil => rfl
  | cons entry rest ih =>
    obtain ⟨value, changed⟩ := Option.isSome_iff_exists.mp (total entry List.mem_cons_self)
    have later := ih fun other member => total other (List.mem_cons_of_mem entry member)
    rw [List.filterMap_cons, changed]
    by_cases same : entry.1 = name
    · simp [find?, same, changed]
    · simpa [find?, same] using later

/-- The names changed by `f` are what `f` makes of the names. -/
theorem mem_names_renamed {f : Text → Text} {entries : List (Text × α)} {name : Text} :
    name ∈ names (entries.map fun entry => (f entry.1, entry.2)) ↔
      ∃ original ∈ names entries, f original = name := by
  simp [names]

/-- Entries whose names `f` keeps are not changed by renaming them. -/
theorem renamed_eq_self {f : Text → Text} {entries : List (Text × α)}
    (kept : ∀ name ∈ names entries, f name = name) :
    (entries.map fun entry => (f entry.1, entry.2)) = entries := by
  refine (List.map_congr_left fun entry member => ?_).trans (List.map_id entries)
  rw [kept entry.1 (List.mem_map.mpr ⟨entry, member, rfl⟩)]
  rfl

/-- Under names changed by `f` a value is found where it was, if no other name is changed into the
one looked for and that one is kept. -/
theorem find?_renamed {f : Text → Text} {entries : List (Text × α)} {name : Text}
    (apart : ∀ other ∈ names entries, f other = name ↔ other = name) :
    find? (entries.map fun entry => (f entry.1, entry.2)) name = find? entries name := by
  induction entries with
  | nil => rfl
  | cons entry rest ih =>
    obtain ⟨first, others⟩ := List.forall_mem_cons.mp apart
    have later := ih others
    simp only [List.map_cons, find?, first, later]

/-! ## Putting -/

/-- Of the values put under a name the last is found, before any that was there. -/
theorem find?_putAll (entries : Entries α) (added : List (Text × α)) (name : Text) :
    (entries.putAll added).find? name = (find? added.reverse name).or (entries.find? name) := by
  induction added generalizing entries with
  | nil => rfl
  | cons entry rest ih =>
    have step : entries.putAll (entry :: rest) = (entries.put entry.1 entry.2).putAll rest := rfl
    rw [step, ih, find?_put, List.reverse_cons, find?_append]
    by_cases same : entry.1 = name <;> simp [find?, same]

/-- Of several values under one name the last is found. -/
theorem find?_ofList (pairs : List (Text × α)) (name : Text) :
    (ofList pairs).find? name = find? pairs.reverse name := by
  rw [ofList, find?_putAll, find?, Option.or_none]

/-- A name is there after it is put, and the others as before. -/
theorem mem_names_put {entries : Entries α} {name other : Text} {value : α} :
    other ∈ (entries.put name value).names ↔ other = name ∨ other ∈ entries.names := by
  rw [← isSome_find?_iff, ← isSome_find?_iff, find?_put]
  by_cases same : name = other
  · simp [same]
  · simp [same, Ne.symm same]

/-- Putting a value keeps the names distinct. -/
theorem nodup_names_put {entries : Entries α} (distinct : entries.names.Nodup) (name : Text)
    (value : α) : (entries.put name value).names.Nodup := by
  induction entries with
  | nil => exact List.nodup_cons.mpr ⟨List.not_mem_nil, List.nodup_nil⟩
  | cons entry rest ih =>
    obtain ⟨absent, later⟩ := List.nodup_cons.mp distinct
    by_cases same : entry.1 = name
    · simpa only [put, same, ↓reduceIte, names, List.map_cons] using distinct
    · simp only [put, same, ↓reduceIte, names, List.map_cons]
      refine List.nodup_cons.mpr ⟨fun member => ?_, ih later⟩
      exact (mem_names_put.mp member).elim same absent

/-- Putting values keeps the names distinct. -/
theorem nodup_names_putAll {entries : Entries α} (distinct : entries.names.Nodup)
    (added : List (Text × α)) : (entries.putAll added).names.Nodup := by
  induction added generalizing entries with
  | nil => exact distinct
  | cons entry rest ih => exact ih (nodup_names_put distinct entry.1 entry.2)

/-- The entries of a list have distinct names. -/
theorem nodup_names_ofList (pairs : List (Text × α)) : (ofList pairs).names.Nodup :=
  @nodup_names_putAll α [] List.nodup_nil pairs

/-- The names after values are put are theirs and those that were there. -/
theorem mem_names_putAll {entries : Entries α} {added : List (Text × α)} {name : Text} :
    name ∈ (entries.putAll added).names ↔ name ∈ names added ∨ name ∈ entries.names := by
  rw [← isSome_find?_iff, find?_putAll, Option.isSome_or, Bool.or_eq_true, isSome_find?_iff,
    isSome_find?_iff, names, names, names, List.map_reverse, List.mem_reverse]

/-- The entries of a list have its names. -/
theorem mem_names_ofList {pairs : List (Text × α)} {name : Text} :
    name ∈ (ofList pairs).names ↔ name ∈ names pairs :=
  mem_names_putAll.trans (or_iff_left List.not_mem_nil)

/-- A new name is put at the end. -/
theorem put_of_notMem {entries : Entries α} {name : Text} (absent : name ∉ entries.names)
    (value : α) : entries.put name value = entries ++ [(name, value)] := by
  induction entries with
  | nil => rfl
  | cons entry rest ih =>
    obtain ⟨other, later⟩ := not_or.mp (mt List.mem_cons.mpr absent)
    rw [put, if_neg (Ne.symm other), ih later, List.cons_append]

/-- New names are put at the end, in their order. -/
theorem putAll_of_nodup {entries : Entries α} {added : List (Text × α)}
    (distinct : (names (entries ++ added)).Nodup) : entries.putAll added = entries ++ added := by
  induction added generalizing entries with
  | nil => rw [List.append_nil, putAll, List.foldl_nil]
  | cons entry rest ih =>
    have absent : entry.1 ∉ entries.names := by
      rw [names, List.map_append] at distinct
      intro member
      exact (List.nodup_append.mp distinct).2.2 _ member _ List.mem_cons_self rfl
    have step : entries.putAll (entry :: rest) = (entries.put entry.1 entry.2).putAll rest := rfl
    rw [step, put_of_notMem absent, ih, List.append_assoc, List.singleton_append]
    rwa [List.append_assoc, List.singleton_append]

/-- Entries with distinct names are their own list of entries. -/
theorem ofList_of_nodup {entries : Entries α} (distinct : entries.names.Nodup) :
    ofList entries = entries :=
  putAll_of_nodup distinct

/-- The entries of a list are among its pairs. -/
theorem mem_of_mem_ofList {pairs : List (Text × α)} {entry : Text × α}
    (member : entry ∈ ofList pairs) : entry ∈ pairs := by
  have found := find?_of_mem (nodup_names_ofList pairs) member
  rw [find?_ofList] at found
  exact List.mem_reverse.mp (mem_of_find? found)

/-- Entries put under names changed by `f` are found as before under a name that is kept, if no
other is changed into it. -/
theorem find?_ofList_renamed {f : Text → Text} {entries : Entries α} {name : Text}
    (distinct : entries.names.Nodup)
    (apart : ∀ other ∈ entries.names, f other = name ↔ other = name) :
    (ofList (entries.map fun entry => (f entry.1, entry.2))).find? name = entries.find? name := by
  have backwards : ∀ other ∈ names entries.reverse, f other = name ↔ other = name := by
    intro other member
    rw [names, List.map_reverse, List.mem_reverse] at member
    exact apart other member
  rw [find?_ofList, ← List.map_reverse, find?_renamed backwards, ← find?_ofList,
    ofList_of_nodup distinct]

end FieldSearch.Entries
