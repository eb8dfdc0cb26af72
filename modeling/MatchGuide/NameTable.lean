/-! Tables with one entry per name, in the byte order of the names. The order of strings is by code
point, which is the order of their UTF-8 bytes. -/
namespace MatchGuide

abbrev Entries (α : Type) := List (String × α)

namespace Entries

def insert (name : String) (value : α) : Entries α → Entries α
  | [] => [(name, value)]
  | (key, old) :: rest =>
    if name < key then (name, value) :: (key, old) :: rest
    else if name = key then (name, value) :: rest
    else (key, old) :: insert name value rest

def find? (entries : Entries α) (name : String) : Option α :=
  match entries with
  | [] => none
  | (key, value) :: rest => if key = name then some value else find? rest name

def names (entries : Entries α) : List String := entries.map Prod.fst

def Sorted (entries : Entries α) : Prop := entries.names.Pairwise (· < ·)

instance (entries : Entries α) : Decidable entries.Sorted := by
  unfold Sorted; infer_instance

theorem memNamesInsert {name key : String} {value : α} {entries : Entries α}
    (h : key ∈ (entries.insert name value).names) : key = name ∨ key ∈ entries.names := by
  induction entries with
  | nil => simpa [insert, names] using h
  | cons head rest ih =>
    obtain ⟨k, old⟩ := head
    unfold insert at h
    split at h
    · simpa [names] using h
    split at h
    · simp only [names, List.map_cons, List.mem_cons] at h ⊢
      exact h.imp id Or.inr
    · simp only [names, List.map_cons, List.mem_cons] at h ⊢
      rcases h with rfl | h
      · exact Or.inr (Or.inl rfl)
      · exact (ih h).imp id Or.inr

theorem insertSorted (name : String) (value : α) {entries : Entries α} (h : entries.Sorted) :
    (entries.insert name value).Sorted := by
  induction entries with
  | nil => simp [insert, Sorted, names]
  | cons head rest ih =>
    obtain ⟨key, old⟩ := head
    have ⟨first, tail⟩ := List.pairwise_cons.1 h
    unfold insert
    split
    · rename_i lt
      refine List.pairwise_cons.2 ⟨?_, h⟩
      intro k mem
      rcases List.mem_cons.1 mem with rfl | mem
      · exact lt
      · exact String.lt_trans lt (first k mem)
    split
    · rename_i eq; subst eq
      exact List.pairwise_cons.2 ⟨first, tail⟩
    · rename_i notLt ne
      refine List.pairwise_cons.2 ⟨?_, ih tail⟩
      intro k mem
      rcases memNamesInsert mem with rfl | mem
      · exact Decidable.byContradiction fun no =>
          ne (String.le_antisymm (String.not_lt.1 no) (String.not_lt.1 notLt))
      · exact first k mem

theorem findInsertSelf (name : String) (value : α) (entries : Entries α) :
    (entries.insert name value).find? name = some value := by
  induction entries with
  | nil => simp [insert, find?]
  | cons head rest ih =>
    obtain ⟨key, old⟩ := head
    unfold insert
    split
    · simp [find?]
    split
    · simp [find?]
    · rename_i other
      simp [find?, Ne.symm other, ih]

theorem findInsertOther {name key : String} (other : key ≠ name) (value : α)
    (entries : Entries α) : (entries.insert name value).find? key = entries.find? key := by
  induction entries with
  | nil => simp [insert, find?, Ne.symm other]
  | cons head rest ih =>
    obtain ⟨k, old⟩ := head
    unfold insert
    split
    · simp [find?, Ne.symm other]
    split
    · rename_i same
      subst same
      simp [find?, Ne.symm other]
    · simp only [find?, ih]

theorem insertLast {name : String} {entries : Entries α}
    (last : ∀ key ∈ entries.names, key < name) (value : α) :
    entries.insert name value = entries ++ [(name, value)] := by
  induction entries with
  | nil => rfl
  | cons head rest ih =>
    obtain ⟨key, old⟩ := head
    have ⟨less, later⟩ := List.forall_mem_cons.1 last
    have notLess : ¬ name < key := String.lt_asymm less
    have other : name ≠ key := fun same => String.lt_irrefl key (same ▸ less)
    rw [insert, if_neg notLess, if_neg other, ih later, List.cons_append]

theorem memNamesIff {name : String} {entries : Entries α} :
    name ∈ entries.names ↔ (entries.find? name).isSome := by
  induction entries with
  | nil => simp [names, find?]
  | cons head rest ih =>
    obtain ⟨key, value⟩ := head
    by_cases same : key = name
    · simp [names, find?, same]
    · simpa [names, find?, same, Ne.symm same] using ih

theorem findMap {f : String → α → β} (name : String) (entries : Entries α) :
    find? (entries.map fun e => (e.1, f e.1 e.2)) name = (entries.find? name).map (f name) := by
  induction entries with
  | nil => rfl
  | cons head rest ih =>
    obtain ⟨key, value⟩ := head
    by_cases same : key = name
    · simp [find?, same]
    · simpa [find?, same] using ih

theorem namesMap (f : String → α → β) (entries : Entries α) :
    names (entries.map fun e => (e.1, f e.1 e.2)) = entries.names := by
  simp [names]

theorem insertMap (f : String → α → β) (name : String) (value : α) (entries : Entries α) :
    insert name (f name value) (entries.map fun e => (e.1, f e.1 e.2)) =
      (entries.insert name value).map fun e => (e.1, f e.1 e.2) := by
  induction entries with
  | nil => rfl
  | cons head rest ih =>
    obtain ⟨key, old⟩ := head
    rw [List.map_cons, insert, insert]
    split
    · rfl
    split
    · rfl
    · rw [ih, List.map_cons]

end Entries

structure NameTable (α : Type) where
  entries : Entries α
  sorted : entries.Sorted

namespace NameTable

def empty : NameTable α := ⟨[], List.Pairwise.nil⟩

instance : Inhabited (NameTable α) := ⟨empty⟩

def insert (t : NameTable α) (name : String) (value : α) : NameTable α :=
  ⟨t.entries.insert name value, Entries.insertSorted name value t.sorted⟩

def find? (t : NameTable α) (name : String) : Option α := t.entries.find? name

def names (t : NameTable α) : List String := t.entries.names

def size (t : NameTable α) : Nat := t.entries.length

def append (t : NameTable (List α)) (name : String) (item : α) : NameTable (List α) :=
  t.insert name ((t.find? name).getD [] ++ [item])

def ofEntries (entries : Entries α) : NameTable α :=
  entries.foldl (fun t e => t.insert e.1 e.2) empty

theorem findInsertSelf (t : NameTable α) (name : String) (value : α) :
    (t.insert name value).find? name = some value :=
  Entries.findInsertSelf name value t.entries

theorem findInsertOther {name key : String} (other : key ≠ name) (t : NameTable α) (value : α) :
    (t.insert name value).find? key = t.find? key :=
  Entries.findInsertOther other value t.entries

theorem memNamesIff {name : String} {t : NameTable α} :
    name ∈ t.names ↔ (t.find? name).isSome := Entries.memNamesIff

theorem memOfEntries {entries : Entries α} {name : String} {value : α}
    (found : (ofEntries entries).find? name = some value) : (name, value) ∈ entries := by
  have onto (entries : Entries α) (t : NameTable α)
      (there : (entries.foldl (fun t e => t.insert e.1 e.2) t).find? name = some value) :
      (name, value) ∈ entries ∨ t.find? name = some value := by
    induction entries generalizing t with
    | nil => exact Or.inr there
    | cons head rest ih =>
      rcases ih (t.insert head.1 head.2) there with later | before
      · exact Or.inl (List.mem_cons_of_mem _ later)
      · by_cases same : name = head.1
        · subst same
          rw [findInsertSelf] at before
          obtain rfl := Option.some.inj before
          exact Or.inl List.mem_cons_self
        · exact Or.inr (by rwa [findInsertOther same] at before)
  exact (onto entries empty found).resolve_right nofun

theorem findOfEntries {entries : Entries α} (sorted : entries.Sorted) (name : String) :
    (ofEntries entries).find? name = entries.find? name := by
  have onto : ∀ t : NameTable α, (entries.foldl (fun t e => t.insert e.1 e.2) t).find? name =
      (entries.find? name).or (t.find? name) := by
    induction entries with
    | nil => exact fun _ => rfl
    | cons head rest ih =>
      intro t
      obtain ⟨key, value⟩ := head
      have ⟨first, tail⟩ := List.pairwise_cons.1 sorted
      rw [List.foldl_cons, ih tail]
      by_cases same : key = name
      · subst same
        have absent : Entries.find? rest key = none := by
          rw [← Option.not_isSome_iff_eq_none, ← Entries.memNamesIff]
          exact fun mem => String.lt_irrefl key (first key mem)
        simp [Entries.find?, absent, findInsertSelf]
      · simp [Entries.find?, same, findInsertOther (Ne.symm same)]
  rw [ofEntries, onto empty]
  exact Option.or_none

theorem memOfEntriesNames {entries : Entries α} {name : String} :
    name ∈ (ofEntries entries).names ↔ name ∈ entries.names := by
  have onto (t : NameTable α) :
      name ∈ (entries.foldl (fun t e => t.insert e.1 e.2) t).names ↔
        name ∈ entries.names ∨ name ∈ t.names := by
    induction entries generalizing t with
    | nil => simp [Entries.names]
    | cons head rest ih =>
      have grown : name ∈ (t.insert head.1 head.2).names ↔ name = head.1 ∨ name ∈ t.names := by
        by_cases same : name = head.1
        · simp [same, memNamesIff, findInsertSelf]
        · simp [same, memNamesIff, findInsertOther]
      rw [List.foldl_cons, ih, grown, Entries.names, Entries.names, List.map_cons, List.mem_cons,
        or_left_comm, or_assoc]
  exact (onto empty).trans (or_iff_left List.not_mem_nil)

theorem ofEntriesMap (f : String → α → β) (entries : Entries α) :
    (ofEntries (entries.map fun e => (e.1, f e.1 e.2))).entries =
      (ofEntries entries).entries.map fun e => (e.1, f e.1 e.2) := by
  have onto (t : NameTable α) (u : NameTable β)
      (shown : u.entries = t.entries.map fun e => (e.1, f e.1 e.2)) :
      ((entries.map fun e => (e.1, f e.1 e.2)).foldl (fun t e => t.insert e.1 e.2) u).entries =
        (entries.foldl (fun t e => t.insert e.1 e.2) t).entries.map fun e => (e.1, f e.1 e.2) := by
    induction entries generalizing t u with
    | nil => exact shown
    | cons head rest ih =>
      refine ih (t.insert head.1 head.2) (u.insert head.1 (f head.1 head.2)) ?_
      change u.entries.insert head.1 (f head.1 head.2) = (t.entries.insert head.1 head.2).map _
      rw [shown, Entries.insertMap]
  exact onto empty empty rfl

theorem entriesUnique {t u : NameTable α} (same : t.entries = u.entries) : t = u := by
  cases t
  cases u
  cases same
  rfl

theorem ofEntriesSelf (t : NameTable α) : ofEntries t.entries = t := by
  have onto (entries : Entries α) (u : NameTable α)
      (sorted : Entries.Sorted (u.entries ++ entries)) :
      (entries.foldl (fun t e => t.insert e.1 e.2) u).entries = u.entries ++ entries := by
    induction entries generalizing u with
    | nil => exact (List.append_nil _).symm
    | cons head rest ih =>
      have last : ∀ key ∈ u.entries.names, key < head.1 := by
        rw [Entries.Sorted, Entries.names, List.map_append, List.pairwise_append] at sorted
        exact fun key mem => sorted.2.2 key mem head.1 List.mem_cons_self
      have grown : (u.insert head.1 head.2).entries = u.entries ++ [head] := Entries.insertLast last _
      rw [List.foldl_cons, ih _ (by simpa [grown] using sorted), grown]
      simp
  exact entriesUnique (onto t.entries empty t.sorted)

theorem ofSorted {entries : Entries α} (sorted : entries.Sorted) :
    (ofEntries entries).entries = entries :=
  congrArg NameTable.entries (ofEntriesSelf ⟨entries, sorted⟩)

end NameTable
end MatchGuide
