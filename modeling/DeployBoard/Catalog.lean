/-!
# `Catalog` — tables keyed by repository name

The board keeps several tables keyed by repository name: the records themselves, the tag pickers, the messages about
failed commands. A `Catalog` holds its entries in ascending order of their names (by code point), so that
what is listed has one order and equal tables are equal values. The order is part of the type.

The view of a catalog is `get?`; each operation has one lemma that says what it does to that view, and `ext_get?`
says that the view determines the catalog.
-/

namespace DeployBoard

variable {α β : Type}

/-- **A table keyed by name**, in ascending order of the names. -/
structure Catalog (α : Type) where
  entries : List (String × α)
  ascending : entries.Pairwise (fun a b => a.1 < b.1)

namespace Catalog

/-- The table without entries. -/
def empty : Catalog α := ⟨[], List.Pairwise.nil⟩

instance : EmptyCollection (Catalog α) := ⟨empty⟩
instance : Inhabited (Catalog α) := ⟨empty⟩

theorem eq_of_entries_eq {a b : Catalog α} (h : a.entries = b.entries) : a = b := by
  cases a; cases b; cases h; rfl

instance [DecidableEq α] : DecidableEq (Catalog α) := fun a b =>
  if h : a.entries = b.entries then isTrue (eq_of_entries_eq h)
  else isFalse (fun e => h (e ▸ rfl))

/-- The names, ascending. -/
def names (t : Catalog α) : List String := t.entries.map (·.1)

/-- The values, in the order of their names. -/
def values (t : Catalog α) : List α := t.entries.map (·.2)

/-- Number of entries. -/
def size (t : Catalog α) : Nat := t.entries.length

/-- There is no entry. -/
def isEmpty (t : Catalog α) : Bool := t.entries.isEmpty

/-- The value of the first entry with the name. -/
def findEntry (name : String) : List (String × α) → Option α
  | [] => none
  | (n, v) :: rest => if name = n then some v else findEntry name rest

/-- The value under a name. -/
def get? (t : Catalog α) (name : String) : Option α := findEntry name t.entries

/-- A name has an entry. -/
def contains (t : Catalog α) (name : String) : Bool := (t.get? name).isSome

/-- The position of a name. -/
def position? (t : Catalog α) (name : String) : Option Nat := t.names.findIdx? (· == name)

/-! ## Insertion -/

/-- Puts an entry at its place, replacing the entry of the same name. -/
def insertEntry (name : String) (value : α) : List (String × α) → List (String × α)
  | [] => [(name, value)]
  | (n, v) :: rest =>
    if name < n then (name, value) :: (n, v) :: rest
    else if name = n then (name, value) :: rest
    else (n, v) :: insertEntry name value rest

theorem mem_insertEntry {name : String} {value : α} {e : String × α} {es : List (String × α)} :
    e ∈ insertEntry name value es → e = (name, value) ∨ e ∈ es := by
  induction es with
  | nil => simp [insertEntry]
  | cons hd rest ih =>
    obtain ⟨n, v⟩ := hd
    unfold insertEntry
    split
    · simp
    · split
      · intro h
        rcases List.mem_cons.mp h with h | h
        · exact Or.inl h
        · exact Or.inr (List.mem_cons_of_mem _ h)
      · intro h
        rcases List.mem_cons.mp h with h | h
        · exact Or.inr (h ▸ List.mem_cons_self)
        · exact (ih h).imp id (List.mem_cons_of_mem _)

theorem insertEntry_ascending (name : String) (value : α) {es : List (String × α)}
    (h : es.Pairwise (fun a b => a.1 < b.1)) :
    (insertEntry name value es).Pairwise (fun a b => a.1 < b.1) := by
  induction es with
  | nil => simp [insertEntry]
  | cons hd rest ih =>
    obtain ⟨n, v⟩ := hd
    have hrest := List.pairwise_cons.mp h
    unfold insertEntry
    split
    · rename_i hlt
      refine List.pairwise_cons.mpr ⟨fun e he => ?_, h⟩
      rcases List.mem_cons.mp he with he | he
      · exact he ▸ hlt
      · exact String.lt_trans hlt (hrest.1 e he)
    · split
      · rename_i heq
        exact List.pairwise_cons.mpr ⟨fun e he => heq ▸ hrest.1 e he, hrest.2⟩
      · rename_i hnlt hne
        refine List.pairwise_cons.mpr ⟨fun e he => ?_, ih hrest.2⟩
        rcases mem_insertEntry he with he | he
        · subst he
          rcases Std.lt_trichotomy n name with hl | he | hg
          · exact hl
          · exact absurd he.symm hne
          · exact absurd hg hnlt
        · exact hrest.1 e he

/-- **Writes** a value under a name. -/
def insert (t : Catalog α) (name : String) (value : α) : Catalog α :=
  ⟨insertEntry name value t.entries, insertEntry_ascending name value t.ascending⟩

/-- The catalog of a list of entries; of two entries with one name the later counts. -/
def ofList (es : List (String × α)) : Catalog α :=
  es.foldl (fun t e => t.insert e.1 e.2) empty

/-! ## Keeping, changing and dropping entries -/

theorem mem_filterMap_name {f : String → α → Option β} {es : List (String × α)} {e : String × β}
    (he : e ∈ es.filterMap (fun e => (f e.1 e.2).map (e.1, ·))) : ∃ v, (e.1, v) ∈ es := by
  obtain ⟨⟨n, v⟩, hmem, heq⟩ := List.mem_filterMap.mp he
  cases hf : f n v with
  | none => simp [hf] at heq
  | some b =>
    simp [hf] at heq
    exact ⟨v, heq ▸ hmem⟩

theorem filterMap_ascending (f : String → α → Option β) {es : List (String × α)}
    (h : es.Pairwise (fun a b => a.1 < b.1)) :
    (es.filterMap (fun e => (f e.1 e.2).map (e.1, ·))).Pairwise (fun a b => a.1 < b.1) := by
  induction es with
  | nil => simp
  | cons hd rest ih =>
    have hrest := List.pairwise_cons.mp h
    cases hf : f hd.1 hd.2 with
    | none => simpa [List.filterMap_cons, hf] using ih hrest.2
    | some b =>
      simp only [List.filterMap_cons, hf, Option.map_some]
      refine List.pairwise_cons.mpr ⟨fun e he => ?_, ih hrest.2⟩
      obtain ⟨v, hv⟩ := mem_filterMap_name he
      exact hrest.1 _ hv

/-- Every entry is changed by `f`, or dropped where `f` gives nothing. -/
def filterMap (t : Catalog α) (f : String → α → Option β) : Catalog β :=
  ⟨t.entries.filterMap (fun e => (f e.1 e.2).map (e.1, ·)), filterMap_ascending f t.ascending⟩

/-- The entries that satisfy `p`. -/
def filter (t : Catalog α) (p : String → α → Bool) : Catalog α :=
  t.filterMap fun name value => if p name value then some value else none

/-- The table without the entry of a name. -/
def erase (t : Catalog α) (name : String) : Catalog α := t.filter fun n _ => n ≠ name

/-- Every value is changed by `f`. -/
def map (t : Catalog α) (f : String → α → β) : Catalog β := t.filterMap fun name value => some (f name value)

/-- The value under a name, if there is one, is changed by `f`. -/
def modify (t : Catalog α) (name : String) (f : α → α) : Catalog α :=
  t.map fun n value => if n = name then f value else value

/-! ## The view `get?` -/

@[simp] theorem get?_empty (name : String) : (empty : Catalog α).get? name = none := rfl

theorem findEntry_insertEntry (name : String) (value : α) (es : List (String × α)) (key : String) :
    findEntry key (insertEntry name value es) = if key = name then some value else findEntry key es := by
  induction es with
  | nil => rfl
  | cons hd rest ih =>
    obtain ⟨n, v⟩ := hd
    unfold insertEntry
    split
    · rfl
    · split
      · rename_i heq
        subst heq
        by_cases hk : key = name <;> simp [findEntry, hk]
      · rename_i hne
        simp only [findEntry, ih]
        by_cases hk : key = n
        · subst hk
          simp [Ne.symm hne]
        · simp [hk]

/-- What is written is read back, and nothing else changes. -/
@[simp] theorem get?_insert (t : Catalog α) (name : String) (value : α) (key : String) :
    (t.insert name value).get? key = if key = name then some value else t.get? key :=
  findEntry_insertEntry name value t.entries key

theorem mem_of_findEntry {name : String} {value : α} {es : List (String × α)}
    (h : findEntry name es = some value) : (name, value) ∈ es := by
  induction es with
  | nil => simp [findEntry] at h
  | cons hd rest ih =>
    obtain ⟨n, v⟩ := hd
    unfold findEntry at h
    split at h
    · rename_i hk
      subst hk
      cases h
      exact List.mem_cons_self
    · exact List.mem_cons_of_mem _ (ih h)

theorem findEntry_isSome_iff {name : String} {es : List (String × α)} :
    (findEntry name es).isSome = true ↔ ∃ value, (name, value) ∈ es := by
  induction es with
  | nil => simp [findEntry]
  | cons hd rest ih =>
    obtain ⟨n, v⟩ := hd
    by_cases hk : name = n
    · subst hk
      simp only [findEntry, if_pos, Option.isSome_some, List.mem_cons, true_iff]
      exact ⟨v, Or.inl rfl⟩
    · simp [findEntry, hk, ih]

theorem findEntry_filterMap (f : String → α → Option β) {es : List (String × α)}
    (h : es.Pairwise (fun a b => a.1 < b.1)) (key : String) :
    findEntry key (es.filterMap (fun e => (f e.1 e.2).map (e.1, ·))) = (findEntry key es).bind (f key) := by
  induction es with
  | nil => rfl
  | cons hd rest ih =>
    obtain ⟨n, v⟩ := hd
    have hrest := List.pairwise_cons.mp h
    have ih' := ih hrest.2
    by_cases hk : key = n
    · subst hk
      cases hf : f key v with
      | some b => simp [hf, findEntry]
      | none =>
        simp only [List.filterMap_cons, hf, Option.map_none, findEntry, if_pos, Option.bind_some]
        rw [ih']
        cases hl : findEntry key rest with
        | none => rfl
        | some w => exact absurd (hrest.1 _ (mem_of_findEntry hl)) (String.lt_irrefl key)
    · cases hf : f n v with
      | none => simpa [hf, findEntry, hk] using ih'
      | some b => simpa [hf, findEntry, hk] using ih'

/-- Reading a filtered table reads the table and then asks `f`. -/
@[simp] theorem get?_filterMap (t : Catalog α) (f : String → α → Option β) (key : String) :
    (t.filterMap f).get? key = (t.get? key).bind (f key) :=
  findEntry_filterMap f t.ascending key

@[simp] theorem get?_filter (t : Catalog α) (p : String → α → Bool) (key : String) :
    (t.filter p).get? key = (t.get? key).filter (p key) := by
  simp only [filter, get?_filterMap]
  cases t.get? key <;> simp [Option.filter]

@[simp] theorem get?_erase (t : Catalog α) (name key : String) :
    (t.erase name).get? key = if key = name then none else t.get? key := by
  simp only [erase, get?_filter]
  cases t.get? key <;> by_cases hk : key = name <;> simp [Option.filter, hk]

@[simp] theorem get?_map (t : Catalog α) (f : String → α → β) (key : String) :
    (t.map f).get? key = (t.get? key).map (f key) := by
  simp only [map, get?_filterMap]
  cases t.get? key <;> simp

@[simp] theorem get?_modify (t : Catalog α) (name : String) (f : α → α) (key : String) :
    (t.modify name f).get? key = if key = name then (t.get? key).map f else t.get? key := by
  by_cases hk : key = name <;> simp [modify, hk]

/-- A name is listed exactly when it has a value. -/
theorem mem_names_iff {t : Catalog α} {name : String} : name ∈ t.names ↔ (t.get? name).isSome = true := by
  unfold names get?
  rw [findEntry_isSome_iff]
  simp only [List.mem_map]
  constructor
  · rintro ⟨⟨n, v⟩, he, rfl⟩
    exact ⟨v, he⟩
  · rintro ⟨v, he⟩
    exact ⟨(name, v), he, rfl⟩

/-- A value is read under a name exactly when the entry is in the table. -/
theorem get?_eq_some_iff {t : Catalog α} {name : String} {value : α} :
    t.get? name = some value ↔ (name, value) ∈ t.entries := by
  refine ⟨mem_of_findEntry, fun hmem => ?_⟩
  obtain ⟨es, hes⟩ := t
  simp only [get?] at hmem ⊢
  induction es with
  | nil => simp at hmem
  | cons hd rest ih =>
    obtain ⟨n, v⟩ := hd
    have hrest := List.pairwise_cons.mp hes
    rcases List.mem_cons.mp hmem with h | h
    · cases h
      simp [findEntry]
    · have hlt : n < name := hrest.1 _ h
      have hne : name ≠ n := fun e => String.lt_irrefl n (e ▸ hlt)
      simpa [findEntry, hne] using ih hrest.2 h

theorem entries_eq_of_mem_iff {es fs : List (String × α)} (he : es.Pairwise (fun a b => a.1 < b.1))
    (hf : fs.Pairwise (fun a b => a.1 < b.1)) (h : ∀ e, e ∈ es ↔ e ∈ fs) : es = fs := by
  induction es generalizing fs with
  | nil =>
    cases fs with
    | nil => rfl
    | cons f fs => exact absurd ((h f).mpr List.mem_cons_self) List.not_mem_nil
  | cons e es ih =>
    cases fs with
    | nil => exact absurd ((h e).mp List.mem_cons_self) List.not_mem_nil
    | cons f fs =>
      have he' := List.pairwise_cons.mp he
      have hf' := List.pairwise_cons.mp hf
      have heq : e = f := by
        rcases List.mem_cons.mp ((h e).mp List.mem_cons_self) with h1 | h1
        · exact h1
        · rcases List.mem_cons.mp ((h f).mpr List.mem_cons_self) with h2 | h2
          · exact h2.symm
          · exact absurd (he'.1 f h2) (String.lt_asymm (hf'.1 e h1))
      subst heq
      refine congrArg (e :: ·) (ih he'.2 hf'.2 fun x => ⟨fun hx => ?_, fun hx => ?_⟩)
      · rcases List.mem_cons.mp ((h x).mp (List.mem_cons_of_mem _ hx)) with h1 | h1
        · exact absurd (h1 ▸ he'.1 x hx) (String.lt_irrefl _)
        · exact h1
      · rcases List.mem_cons.mp ((h x).mpr (List.mem_cons_of_mem _ hx)) with h1 | h1
        · exact absurd (h1 ▸ hf'.1 x hx) (String.lt_irrefl _)
        · exact h1

/-- **The view determines the table.** -/
theorem ext_get? {a b : Catalog α} (h : ∀ name, a.get? name = b.get? name) : a = b :=
  eq_of_entries_eq <| entries_eq_of_mem_iff a.ascending b.ascending fun e => by
    rw [← get?_eq_some_iff (t := a), ← get?_eq_some_iff (t := b), h e.1]

theorem insertEntry_append {es : List (String × α)} {name : String} (value : α) (h : ∀ e ∈ es, e.1 < name) :
    insertEntry name value es = es ++ [(name, value)] := by
  induction es with
  | nil => rfl
  | cons hd rest ih =>
    obtain ⟨n, v⟩ := hd
    have hn : n < name := h (n, v) List.mem_cons_self
    have hne : name ≠ n := fun e => String.lt_irrefl n (e ▸ hn)
    rw [insertEntry, if_neg (String.lt_asymm hn), if_neg hne, ih fun e he => h e (List.mem_cons_of_mem _ he),
      List.cons_append]

/-- Entries in order are written one behind the other. -/
theorem entries_foldl_insert {t : Catalog α} {es : List (String × α)}
    (h : (t.entries ++ es).Pairwise (fun a b => a.1 < b.1)) :
    (es.foldl (fun t e => t.insert e.1 e.2) t).entries = t.entries ++ es := by
  induction es generalizing t with
  | nil => exact (List.append_nil _).symm
  | cons e es ih =>
    have hlast : (t.insert e.1 e.2).entries = t.entries ++ [e] :=
      insertEntry_append e.2 fun d hd => (List.pairwise_append.mp h).2.2 d hd e List.mem_cons_self
    have hsame : (t.insert e.1 e.2).entries ++ es = t.entries ++ e :: es := by
      rw [hlast, List.append_assoc, List.singleton_append]
    exact (ih (hsame ▸ h)).trans hsame

/-- **A table is the table of its entries.** -/
theorem ofList_entries (t : Catalog α) : ofList t.entries = t :=
  eq_of_entries_eq (entries_foldl_insert (t := empty) t.ascending)

/-- The names ascend strictly. -/
theorem names_ascending (t : Catalog α) : t.names.Pairwise (· < ·) :=
  List.pairwise_map.mpr t.ascending

theorem entries_map (t : Catalog α) (f : String → α → β) :
    (t.map f).entries = t.entries.map fun e => (e.1, f e.1 e.2) :=
  congrFun List.filterMap_eq_map t.entries

/-- Changing the values leaves the names. -/
@[simp] theorem names_map (t : Catalog α) (f : String → α → β) : (t.map f).names = t.names := by
  simp [names, entries_map]

/-! ## Places in the list -/

@[simp] theorem length_names (t : Catalog α) : t.names.length = t.size := List.length_map ..

theorem isEmpty_iff_size {t : Catalog α} : t.isEmpty = true ↔ t.size = 0 := by
  unfold isEmpty size
  rw [List.isEmpty_iff, List.length_eq_zero_iff]

theorem isEmpty_eq_false_iff_size {t : Catalog α} : t.isEmpty = false ↔ 0 < t.size := by
  rw [← Bool.not_eq_true, isEmpty_iff_size, Nat.pos_iff_ne_zero]

theorem contains_iff_mem_names {t : Catalog α} {name : String} : t.contains name = true ↔ name ∈ t.names :=
  mem_names_iff.symm

theorem contains_of_get? {t : Catalog α} {name : String} {value : α} (h : t.get? name = some value) :
    t.contains name = true := by
  unfold contains
  rw [h]
  rfl

theorem contains_eq_false_iff {t : Catalog α} {name : String} : t.contains name = false ↔ t.get? name = none := by
  unfold contains
  exact Option.isSome_eq_false_iff.trans Option.isNone_iff_eq_none

theorem contains_insert (t : Catalog α) (name : String) (value : α) (key : String) :
    (t.insert name value).contains key = if name = key then true else t.contains key := by
  unfold contains
  rw [get?_insert]
  by_cases h : name = key
  · rw [if_pos h, if_pos h.symm]
    rfl
  · rw [if_neg h, if_neg (Ne.symm h)]

theorem contains_erase (t : Catalog α) (name key : String) :
    (t.erase name).contains key = if name = key then false else t.contains key := by
  unfold contains
  rw [get?_erase]
  by_cases h : name = key
  · rw [if_pos h, if_pos h.symm]
    rfl
  · rw [if_neg h, if_neg (Ne.symm h)]

theorem size_pos_of_contains {t : Catalog α} {name : String} (h : t.contains name = true) : 0 < t.size := by
  rw [← length_names]
  exact List.length_pos_of_mem (contains_iff_mem_names.mp h)

/-- The position of a name is where it stands in the list. -/
theorem getElem?_names_of_position {t : Catalog α} {name : String} {i : Nat} (h : t.position? name = some i) :
    t.names[i]? = some name := by
  obtain ⟨hi, hname, _⟩ := List.findIdx?_eq_some_iff_getElem.mp h
  rw [List.getElem?_eq_getElem hi, eq_of_beq hname]

/-- Just the listed names have a position. -/
theorem position?_isSome (t : Catalog α) (name : String) : (t.position? name).isSome = t.contains name := by
  rw [Bool.eq_iff_iff, contains_iff_mem_names]
  unfold position?
  simp

end Catalog

end DeployBoard
