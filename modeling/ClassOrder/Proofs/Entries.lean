import ClassOrder.Entries

/-!
# Laws of ordered entries

Writing a value changes what is found under its name and under no other. The names keep
their order: a present name keeps its place, and a new one goes to the end. Whatever is
written, no name is there twice, and pairs whose names differ are written as they stand.
-/
namespace ClassOrder.Entries

variable {Name α : Type}

/-- What is found after some entries stands for them only where they have nothing. -/
theorem get?_append [BEq Name] (entries others : List (Name × α)) (name : Name) :
    get? (entries ++ others) name = (get? entries name).or (get? others name) :=
  List.lookup_append

/-- The first entry is found under its own name and hides no other one. -/
theorem get?_cons [BEq Name] (first name : Name) (value : α) (rest : List (Name × α)) :
    get? ((first, value) :: rest) name = if name == first then some value else get? rest name := by
  simp only [get?, List.lookup_cons]
  split <;> simp_all

/-- What is found is the value of some entry, even where names that are not the same may
compare as such. -/
theorem exists_mem_of_get? [BEq Name] {entries : List (Name × α)} {name : Name} {value : α}
    (found : get? entries name = some value) : ∃ known, (known, value) ∈ entries := by
  induction entries with
  | nil => cases found
  | cons entry rest inductionHypothesis =>
    obtain ⟨first, old⟩ := entry
    rw [get?_cons] at found
    split at found
    · cases found
      exact ⟨first, List.mem_cons_self⟩
    · obtain ⟨known, member⟩ := inductionHypothesis found
      exact ⟨known, List.mem_cons_of_mem _ member⟩

/-- No name is there twice when there are no entries. -/
theorem nodup_names_nil : (names ([] : List (Name × α))).Nodup :=
  List.nodup_nil

/-- Names in another order are the names of the entries in another order. -/
theorem exists_perm_of_names_perm {entries : List (Name × α)} {arranged : List Name}
    (same : (names entries).Perm arranged) :
    ∃ others, names others = arranged ∧ entries.Perm others := by
  generalize named : names entries = known at same
  induction same generalizing entries with
  | nil =>
    refine ⟨[], rfl, ?_⟩
    rw [List.map_eq_nil_iff.mp named]
  | cons name _ inductionHypothesis =>
    obtain ⟨entry, rest, rfl, rfl, behind⟩ := List.map_eq_cons_iff.mp named
    obtain ⟨others, named, moved⟩ := inductionHypothesis behind
    exact ⟨entry :: others, congrArg (entry.1 :: ·) named, moved.cons entry⟩
  | swap first second rest =>
    obtain ⟨front, further, rfl, rfl, behind⟩ := List.map_eq_cons_iff.mp named
    obtain ⟨next, others, rfl, rfl, rfl⟩ := List.map_eq_cons_iff.mp behind
    exact ⟨next :: front :: others, rfl, List.Perm.swap next front others⟩
  | trans _ _ firstHypothesis secondHypothesis =>
    obtain ⟨between, namedBetween, moved⟩ := firstHypothesis named
    obtain ⟨others, namedOthers, further⟩ := secondHypothesis namedBetween
    exact ⟨others, namedOthers, moved.trans further⟩

variable [BEq Name] [LawfulBEq Name]

/-- Something is found exactly under the names. -/
theorem get?_isSome_iff (entries : List (Name × α)) (name : Name) :
    (get? entries name).isSome ↔ name ∈ names entries := by
  simp only [get?, names, List.lookup_isSome_iff, List.mem_map]
  constructor
  · rintro ⟨entry, member, same⟩
    exact ⟨entry, member, (beq_iff_eq.mp same).symm⟩
  · rintro ⟨entry, member, rfl⟩
    exact ⟨entry, member, beq_self_eq_true _⟩

/-- What is found under a name is an entry of that name. -/
theorem mem_of_get? {entries : List (Name × α)} {name : Name} {value : α}
    (found : get? entries name = some value) : (name, value) ∈ entries := by
  obtain ⟨before, after, rfl, _⟩ := List.lookup_eq_some_iff.mp found
  simp

/-- Nothing is found exactly under what is not a name. -/
theorem get?_eq_none_iff (entries : List (Name × α)) (name : Name) :
    get? entries name = none ↔ name ∉ names entries := by
  rw [← get?_isSome_iff, Option.not_isSome_iff_eq_none]

/-- What was written is found, and all else is as before. -/
theorem get?_insert (entries : List (Name × α)) (name other : Name) (value : α) :
    get? (insert entries name value) other =
      if other == name then some value else get? entries other := by
  induction entries with
  | nil => rw [insert, get?_cons]
  | cons entry rest inductionHypothesis =>
    obtain ⟨first, old⟩ := entry
    by_cases present : first = name
    · subst present
      rw [insert, if_pos (beq_self_eq_true _), get?_cons, get?_cons]
      split <;> rfl
    · rw [insert, if_neg (by simpa using present), get?_cons, get?_cons, inductionHypothesis]
      by_cases same : other = first
      · subst same
        simp [present]
      · simp [same]

/-- What is found after writing is what was written, or was there under another name. -/
theorem get?_insert_cases {entries : List (Name × α)} {name other : Name} {value found : α}
    (known : get? (insert entries name value) other = some found) :
    other = name ∧ found = value ∨ other ≠ name ∧ get? entries other = some found := by
  rw [get?_insert] at known
  by_cases same : other = name
  · left
    rw [if_pos (by simpa using same)] at known
    exact ⟨same, (Option.some.inj known).symm⟩
  · right
    rw [if_neg (by simpa using same)] at known
    exact ⟨same, known⟩

/-- Writing under a new name puts the entry at the end. -/
theorem insert_of_fresh {entries : List (Name × α)} {name : Name} (fresh : name ∉ names entries)
    (value : α) : insert entries name value = entries ++ [(name, value)] := by
  induction entries with
  | nil => rfl
  | cons entry rest inductionHypothesis =>
    obtain ⟨first, old⟩ := entry
    have different : first ≠ name := fun same => fresh (same ▸ List.mem_cons_self)
    have freshInRest : name ∉ names rest := fun known => fresh (List.mem_cons_of_mem _ known)
    rw [insert, if_neg (by simpa using different), inductionHypothesis freshInRest,
      List.cons_append]

/-- Where no name is there twice, every entry is found under its name. -/
theorem get?_eq_some_iff {entries : List (Name × α)} (once : (names entries).Nodup) {name : Name}
    {value : α} : get? entries name = some value ↔ (name, value) ∈ entries := by
  constructor
  · exact mem_of_get?
  · intro member
    induction entries with
    | nil => cases member
    | cons entry rest inductionHypothesis =>
      obtain ⟨first, old⟩ := entry
      obtain ⟨fresh, onceRest⟩ := List.nodup_cons.mp once
      rw [get?_cons]
      rcases List.mem_cons.mp member with same | later
      · cases same
        simp
      · have different : name ≠ first := by
          rintro rfl
          exact fresh (List.mem_map.mpr ⟨(name, value), later, rfl⟩)
        simp [different, inductionHypothesis onceRest later]

/-- Where no name is there twice, the order of the entries does not matter to what is found. -/
theorem get?_of_perm {entries others : List (Name × α)} (once : (names entries).Nodup)
    (same : entries.Perm others) (name : Name) : get? others name = get? entries name := by
  have onceToo : (names others).Nodup := (same.map Prod.fst).nodup_iff.mp once
  apply Option.ext
  intro value
  rw [get?_eq_some_iff once, get?_eq_some_iff onceToo, same.mem_iff]

/-- Writing adds no entry but the one that is written. -/
theorem mem_insert {entries : List (Name × α)} {name : Name} {value : α} {entry : Name × α}
    (member : entry ∈ insert entries name value) : entry ∈ entries ∨ entry = (name, value) := by
  induction entries with
  | nil => exact .inr (List.mem_singleton.mp member)
  | cons known rest inductionHypothesis =>
    obtain ⟨first, old⟩ := known
    by_cases present : first = name
    · rw [insert, if_pos (by simpa using present)] at member
      rcases List.mem_cons.mp member with same | later
      · exact .inr (present ▸ same)
      · exact .inl (List.mem_cons_of_mem _ later)
    · rw [insert, if_neg (by simpa using present)] at member
      rcases List.mem_cons.mp member with same | later
      · exact .inl (same ▸ List.mem_cons_self)
      · exact (inductionHypothesis later).imp_left (List.mem_cons_of_mem _)

/-- Writing repeats no name. -/
theorem nodup_names_insert {entries : List (Name × α)} (unique : (names entries).Nodup)
    (name : Name) (value : α) : (names (insert entries name value)).Nodup := by
  rw [names_insert]
  split
  · exact unique
  · rename_i fresh
    refine List.nodup_append.mpr ⟨unique, List.nodup_cons.mpr ⟨List.not_mem_nil, .nil⟩, ?_⟩
    rintro _ member _ single rfl
    cases List.mem_singleton.mp single
    exact fresh (List.any_eq_true.mpr ⟨_, member, beq_self_eq_true _⟩)

/-- Leaving out entries by their names leaves what is found under the other names. -/
theorem get?_filter (keep : Name → Bool) (entries : List (Name × α)) (name : Name) :
    get? (entries.filter fun (other, _) => keep other) name =
      if keep name then get? entries name else none := by
  induction entries with
  | nil => simp [get?]
  | cons entry rest inductionHypothesis =>
    obtain ⟨first, old⟩ := entry
    by_cases kept : keep first = true
    · simp only [List.filter_cons, kept, if_true, get?_cons, inductionHypothesis]
      by_cases same : name = first
      · subst same
        simp [kept]
      · simp [same]
    · simp only [List.filter_cons, kept, if_false, get?_cons, inductionHypothesis,
        Bool.false_eq_true]
      by_cases same : name = first
      · subst same
        simp [kept]
      · simp [same]

/-- Writing under a name that is left out changes nothing about what is left. -/
theorem filter_insert (keep : Name → Bool) {name : Name} (out : keep name = false)
    (entries : List (Name × α)) (value : α) :
    (insert entries name value).filter (fun (other, _) => keep other) =
      entries.filter fun (other, _) => keep other := by
  induction entries with
  | nil => simp [insert, out]
  | cons entry rest inductionHypothesis =>
    obtain ⟨first, old⟩ := entry
    by_cases present : first = name
    · subst present
      simp [insert, out]
    · simp [insert, present, List.filter_cons, inductionHypothesis]

/-- Changing every value changes what is found. -/
theorem get?_map {β : Type} (change : Name → α → β) (entries : List (Name × α)) (name : Name) :
    get? (entries.map fun entry => (entry.1, change entry.1 entry.2)) name =
      (get? entries name).map (change name) := by
  induction entries with
  | nil => rfl
  | cons entry rest inductionHypothesis =>
    obtain ⟨first, value⟩ := entry
    rw [List.map_cons, get?_cons, get?_cons, inductionHypothesis]
    by_cases same : name = first
    · simp [same]
    · simp [same]

/-- Writing entries over others repeats no name. -/
theorem nodup_names_merge {below : Entries α} (unique : (names below).Nodup)
    (above : Entries α) : (names (merge below above)).Nodup := by
  induction above generalizing below with
  | nil => exact unique
  | cons entry rest inductionHypothesis =>
    exact inductionHypothesis (nodup_names_insert unique entry.1 entry.2)

/-- Writing entries over others adds no entries but the written ones. -/
theorem mem_merge {below above : Entries α} {entry : String × α}
    (member : entry ∈ merge below above) : entry ∈ below ∨ entry ∈ above := by
  induction above generalizing below with
  | nil => exact .inl member
  | cons first rest inductionHypothesis =>
    rcases inductionHypothesis member with written | later
    · rcases mem_insert written with old | rfl
      · exact .inl old
      · exact .inr List.mem_cons_self
    · exact .inr (List.mem_cons_of_mem _ later)

/-- What was written over others is found, and else what stands below. -/
theorem get?_merge {above : Entries α} (once : (names above).Nodup) (below : Entries α)
    (name : String) : get? (merge below above) name = (get? above name).or (get? below name) := by
  induction above generalizing below with
  | nil => simp [merge, get?]
  | cons entry rest inductionHypothesis =>
    obtain ⟨first, value⟩ := entry
    obtain ⟨fresh, onceRest⟩ := List.nodup_cons.mp once
    have written : merge below ((first, value) :: rest) = merge (insert below first value) rest :=
      rfl
    rw [written, inductionHypothesis onceRest, get?_insert, get?_cons]
    by_cases same : name = first
    · subst same
      rw [(get?_eq_none_iff rest name).mpr fresh]
      simp
    · simp [same]

/-- Entries of different names, written over others with different names again, come after
these. -/
theorem merge_of_nodup {below above : Entries α} (unique : (names (below ++ above)).Nodup) :
    merge below above = below ++ above := by
  induction above generalizing below with
  | nil => exact (List.append_nil below).symm
  | cons entry rest inductionHypothesis =>
    obtain ⟨name, value⟩ := entry
    have fresh : name ∉ names below := by
      intro known
      rw [names, List.map_append] at unique
      exact (List.nodup_append.mp unique).2.2 name known name List.mem_cons_self rfl
    have written : merge below ((name, value) :: rest) =
        merge (insert below name value) rest := rfl
    rw [written, insert_of_fresh fresh, inductionHypothesis (by simpa using unique),
      List.append_assoc, List.singleton_append]

/-- Pairs with different names are written as they stand. -/
theorem ofPairs_of_nodup {pairs : List (String × α)} (unique : (names pairs).Nodup) :
    ofPairs pairs = pairs :=
  merge_of_nodup (by simpa using unique)

/-- Written pairs have different names. -/
theorem nodup_names_ofPairs (pairs : List (String × α)) : (names (ofPairs pairs)).Nodup := by
  apply nodup_names_merge
  exact nodup_names_nil

/-- What was written is one of the pairs. -/
theorem mem_of_mem_ofPairs {pairs : List (String × α)} {entry : String × α}
    (member : entry ∈ ofPairs pairs) : entry ∈ pairs :=
  (mem_merge member).resolve_left List.not_mem_nil

end ClassOrder.Entries
