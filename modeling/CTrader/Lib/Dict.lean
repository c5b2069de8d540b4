import Mathlib.Algebra.GroupWithZero.Nat
import Mathlib.Data.List.Nodup

/-! Finite maps that remember insertion order, as the built-in dictionary of the source does. -/

/-- A dictionary: entries in insertion order, with no key stored twice. -/
structure Dict (κ α : Type) where
  entries : List (κ × α)
  nodup : (entries.map Prod.fst).Nodup

namespace Dict

variable {κ α β : Type}

instance [DecidableEq κ] [DecidableEq α] : DecidableEq (Dict κ α) := fun d e =>
  decidable_of_iff (d.entries = e.entries) (by
    cases d
    cases e
    simp)

/-- The dictionary with no entries. -/
def empty : Dict κ α := ⟨[], List.nodup_nil⟩

/-- The keys in insertion order. -/
def keys (d : Dict κ α) : List κ := d.entries.map Prod.fst

/-- The values in insertion order. -/
def values (d : Dict κ α) : List α := d.entries.map Prod.snd

variable [DecidableEq κ]

/-- The value stored first under a key. -/
def lookup (key : κ) : List (κ × α) → Option α
  | [] => none
  | (k, value) :: rest => if k = key then some value else lookup key rest

/-- Entries with one key written, in its old place or else at the end. -/
def write (key : κ) (value : α) : List (κ × α) → List (κ × α)
  | [] => [(key, value)]
  | (k, old) :: rest => if k = key then (key, value) :: rest else (k, old) :: write key value rest

/-- The value stored under a key. -/
def get? (d : Dict κ α) (key : κ) : Option α := lookup key d.entries

/-- Writing changes the key list only by a new key at its end. -/
theorem write_keys (key : κ) (value : α) (entries : List (κ × α)) :
    (write key value entries).map Prod.fst =
      if key ∈ entries.map Prod.fst then entries.map Prod.fst
      else entries.map Prod.fst ++ [key] := by
  -- The write walks past every other key before it either replaces or appends.
  induction entries with
  | nil => simp [write]
  | cons entry rest ih =>
    obtain ⟨k, old⟩ := entry
    by_cases same : k = key
    · simp [write, same]
    · by_cases later : key ∈ rest.map Prod.fst
      · simp only [write, if_neg same, List.map_cons, ih, List.mem_cons, later,
          or_true, if_true]
      · have absent : key ∉ k :: rest.map Prod.fst := by
          simp [Ne.symm same, later]
        simp only [write, if_neg same, List.map_cons, ih, if_neg later, if_neg absent,
          List.cons_append]

/-- The dictionary with a key written, as an item assignment does. -/
def set (d : Dict κ α) (key : κ) (value : α) : Dict κ α where
  entries := write key value d.entries
  nodup := by
    rw [write_keys]
    split
    · exact d.nodup
    · rename_i absent
      exact List.nodup_append'.mpr ⟨d.nodup, List.nodup_singleton key, by simpa using absent⟩

/-- The dictionary without a key, as `pop` with a default leaves it. -/
def erase (d : Dict κ α) (key : κ) : Dict κ α where
  entries := d.entries.filter fun entry => entry.1 ≠ key
  nodup := d.nodup.sublist (List.filter_sublist.map Prod.fst)

/-- The dictionary of a list of items, the later of which overwrite the earlier ones. -/
def ofList (items : List (κ × α)) : Dict κ α := items.foldl (fun d item => d.set item.1 item.2) empty

/-- The dictionary that leads from the values back to their keys. -/
def invert [DecidableEq α] (d : Dict κ α) : Dict α κ := ofList (d.entries.map Prod.swap)

/-- The dictionary with every value replaced and every key in its place. -/
def mapValues (d : Dict κ α) (f : α → β) : Dict κ β where
  entries := d.entries.map fun entry => (entry.1, f entry.2)
  nodup := by simpa [List.map_map, Function.comp_def] using d.nodup

/-- Nothing is found in an empty dictionary. -/
@[simp] theorem get?_empty (key : κ) : (empty : Dict κ α).get? key = none := rfl

/-- Reading entries after a write finds the written value, and the old ones elsewhere. -/
theorem lookup_write (key : κ) (value : α) (other : κ) (entries : List (κ × α)) :
    lookup other (write key value entries) =
      if other = key then some value else lookup other entries := by
  -- Both sides walk the same entries, so the induction follows the write.
  induction entries with
  | nil =>
    by_cases same : other = key
    · simp [write, lookup, same]
    · simp [write, lookup, same, Ne.symm same]
  | cons entry rest ih =>
    obtain ⟨k, old⟩ := entry
    by_cases here : k = key
    · subst here
      by_cases same : other = k
      · simp [write, lookup, same]
      · simp [write, lookup, same, Ne.symm same]
    · simp only [write, if_neg here, lookup, ih]
      by_cases found : k = other
      · subst found
        simp [here]
      · simp [found]

/-- Reading entries after a removal finds nothing under the key, and the old values elsewhere. -/
theorem lookup_filter (key other : κ) (entries : List (κ × α)) :
    lookup other (entries.filter fun entry => entry.1 ≠ key) =
      if other = key then none else lookup other entries := by
  induction entries with
  | nil => simp [lookup]
  | cons entry rest ih =>
    obtain ⟨k, value⟩ := entry
    -- The entry is removed, kept under the key asked for, or kept under another.
    by_cases here : k = key
    · subst here
      by_cases same : other = k
      · simpa [lookup, same] using ih
      · simpa [lookup, same, Ne.symm same] using ih
    · by_cases found : k = other
      · subst found
        simp [lookup, here]
      · simpa [lookup, here, found] using ih

/-- Reading entries after their values were replaced finds the replaced value. -/
theorem lookup_map (f : α → β) (key : κ) (entries : List (κ × α)) :
    lookup key (entries.map fun entry => (entry.1, f entry.2)) = (lookup key entries).map f := by
  induction entries with
  | nil => rfl
  | cons entry rest ih =>
    obtain ⟨k, value⟩ := entry
    by_cases here : k = key
    · simp [lookup, here]
    · simpa [lookup, here] using ih

/-- Reading after a write finds the written value under its key and the old ones elsewhere. -/
theorem get?_set (d : Dict κ α) (key : κ) (value : α) (other : κ) :
    (d.set key value).get? other = if other = key then some value else d.get? other :=
  lookup_write key value other d.entries

/-- Reading what was just written finds it. -/
@[simp] theorem get?_set_self (d : Dict κ α) (key : κ) (value : α) :
    (d.set key value).get? key = some value := by
  rw [get?_set, if_pos rfl]

/-- Reading another key after a write finds what was there. -/
theorem get?_set_of_ne (d : Dict κ α) {key other : κ} (value : α) (different : other ≠ key) :
    (d.set key value).get? other = d.get? other := by
  rw [get?_set, if_neg different]

/-- Reading after a removal finds nothing under the removed key and the old values elsewhere. -/
theorem get?_erase (d : Dict κ α) (key other : κ) :
    (d.erase key).get? other = if other = key then none else d.get? other :=
  lookup_filter key other d.entries

/-- Reading what was just removed finds nothing. -/
@[simp] theorem get?_erase_self (d : Dict κ α) (key : κ) : (d.erase key).get? key = none := by
  rw [get?_erase, if_pos rfl]

/-- Entries written twice under one key hold the second value only. -/
theorem write_write (key : κ) (value next : α) (entries : List (κ × α)) :
    write key next (write key value entries) = write key next entries := by
  induction entries with
  | nil => simp [write]
  | cons entry rest ih =>
    obtain ⟨k, old⟩ := entry
    by_cases here : k = key
    · simp [write, here]
    · simp [write, here, ih]

/-- Entries written under a key and then rid of it are the old ones rid of it. -/
theorem filter_write (key : κ) (value : α) (entries : List (κ × α)) :
    (write key value entries).filter (fun entry => entry.1 ≠ key) =
      entries.filter fun entry => entry.1 ≠ key := by
  induction entries with
  | nil => simp [write]
  | cons entry rest ih =>
    obtain ⟨k, old⟩ := entry
    by_cases here : k = key
    · simp [write, here]
    · simp only [write, if_neg here, List.filter_cons, ih]

/-- Writing one key twice is writing the second value. -/
@[simp] theorem set_set (d : Dict κ α) (key : κ) (value next : α) :
    (d.set key value).set key next = d.set key next := by
  simp only [set, write_write]

/-- Removing a key that was just written is removing the old one. -/
@[simp] theorem erase_set (d : Dict κ α) (key : κ) (value : α) :
    (d.set key value).erase key = d.erase key := by
  simp only [set, erase, filter_write]

/-- Replacing the values replaces each value found. -/
theorem get?_mapValues (d : Dict κ α) (f : α → β) (key : κ) :
    (d.mapValues f).get? key = (d.get? key).map f :=
  lookup_map f key d.entries

/-- An entry is in the dictionary exactly when its key reads back its value. -/
theorem mem_entries_iff (d : Dict κ α) {key : κ} {value : α} :
    (key, value) ∈ d.entries ↔ d.get? key = some value := by
  -- No key occurs twice, so the first entry under a key is the only one.
  obtain ⟨entries, nodup⟩ := d
  unfold get?
  induction entries with
  | nil => simp [lookup]
  | cons entry rest ih =>
    obtain ⟨k, old⟩ := entry
    simp only [List.map_cons, List.nodup_cons, List.mem_map] at nodup
    by_cases here : k = key
    · subst here
      have alone : (k, value) ∉ rest := fun member => nodup.1 ⟨(k, value), member, rfl⟩
      simp [lookup, alone, eq_comm]
    · have := ih nodup.2
      simp only [List.mem_cons, Prod.mk.injEq, Ne.symm here, false_and, false_or, lookup, if_neg here]
      exact this

/-- Items under distinct keys are all there to be read, before what was there already. -/
theorem get?_foldl_set (items : List (κ × α)) (nodup : (items.map Prod.fst).Nodup) (d : Dict κ α)
    (key : κ) :
    (items.foldl (fun d item => d.set item.1 item.2) d).get? key =
      (lookup key items).or (d.get? key) := by
  induction items generalizing d with
  | nil => rfl
  | cons item rest ih =>
    obtain ⟨k, value⟩ := item
    obtain ⟨fresh, others⟩ := List.nodup_cons.mp nodup
    rw [List.foldl_cons, ih others, get?_set]
    by_cases here : key = k
    · subst here
      -- No later item has this key, so its own value is the one that stays.
      have absent : lookup key rest = none := by
        cases found : lookup key rest with
        | none => rfl
        | some later =>
          have listed := (mem_entries_iff ⟨rest, others⟩).mpr found
          exact absurd (List.mem_map_of_mem (f := Prod.fst) listed) fresh
      simp [lookup, absent]
    · simp [lookup, here, Ne.symm here]

/-- No entry is lost when a dictionary with distinct values is inverted. -/
theorem get?_invert [DecidableEq α] {d : Dict κ α} (distinct : d.values.Nodup) (key : κ) (value : α) :
    d.invert.get? value = some key ↔ d.get? key = some value := by
  -- The inverted entries have distinct keys because the values were distinct.
  have nodup : ((d.entries.map Prod.swap).map Prod.fst).Nodup := by
    rw [List.map_map]
    exact distinct
  have read := get?_foldl_set (d.entries.map Prod.swap) nodup empty value
  rw [get?_empty, Option.or_none] at read
  have listed : (value, key) ∈ d.entries.map Prod.swap ↔
      lookup value (d.entries.map Prod.swap) = some key :=
    mem_entries_iff ⟨d.entries.map Prod.swap, nodup⟩
  calc d.invert.get? value = some key
      ↔ lookup value (d.entries.map Prod.swap) = some key := by rw [invert, ofList, read]
    _ ↔ (value, key) ∈ d.entries.map Prod.swap := listed.symm
    _ ↔ (key, value) ∈ d.entries := by simp
    _ ↔ d.get? key = some value := mem_entries_iff d

/-- A key is listed exactly when it reads back some value. -/
theorem mem_keys_iff (d : Dict κ α) {key : κ} : key ∈ d.keys ↔ ∃ value, d.get? key = some value := by
  simp only [keys, List.mem_map, Prod.exists, exists_and_right, exists_eq_right, mem_entries_iff]

/-- A dictionary that lists no keys reads back no values. -/
theorem get?_eq_none_of_keys {d : Dict κ α} (none' : d.keys = []) (key : κ) : d.get? key = none := by
  cases found : d.get? key with
  | none => rfl
  | some value =>
    have listed := d.mem_keys_iff.mpr ⟨value, found⟩
    rw [none'] at listed
    cases listed

/-- A dictionary that reads back no values is the empty one. -/
theorem eq_empty_of_get? {d : Dict κ α} (none' : ∀ key, d.get? key = none) : d = empty := by
  obtain ⟨entries, nodup⟩ := d
  cases entries with
  | nil => rfl
  | cons entry rest =>
    have read := none' entry.1
    simp [get?, lookup] at read

/-- A value is listed exactly when some key reads it back. -/
theorem mem_values_iff (d : Dict κ α) {value : α} :
    value ∈ d.values ↔ ∃ key, d.get? key = some value := by
  simp only [values, List.mem_map, Prod.exists, exists_eq_right, mem_entries_iff]

/-- A write adds no value but its own. -/
theorem mem_values_set {d : Dict κ α} {key : κ} {value other : α}
    (listed : other ∈ (d.set key value).values) : other = value ∨ other ∈ d.values := by
  obtain ⟨found, read⟩ := (mem_values_iff _).mp listed
  rw [get?_set] at read
  split at read
  · cases read
    exact .inl rfl
  · exact .inr ((mem_values_iff d).mpr ⟨found, read⟩)

/-- A removal adds no value. -/
theorem mem_values_erase {d : Dict κ α} {key : κ} {value : α}
    (listed : value ∈ (d.erase key).values) : value ∈ d.values := by
  obtain ⟨found, read⟩ := (mem_values_iff _).mp listed
  rw [get?_erase] at read
  split at read
  · cases read
  · exact (mem_values_iff d).mpr ⟨found, read⟩

/-- The sum of what every value counts for. -/
def total (d : Dict κ α) (weight : α → Nat) : Nat := (d.values.map weight).sum

/-- Writing over a stored value exchanges what it counts for. -/
theorem total_set (d : Dict κ α) (weight : α → Nat) {key : κ} {old : α}
    (found : d.get? key = some old) (value : α) :
    (d.set key value).total weight + weight old = d.total weight + weight value := by
  have exchange (entries : List (κ × α)) (found : lookup key entries = some old) :
      (((write key value entries).map Prod.snd).map weight).sum + weight old =
        ((entries.map Prod.snd).map weight).sum + weight value := by
    -- Only the entry that the lookup stops at is written, so the induction follows the lookup.
    induction entries with
    | nil => cases found
    | cons entry rest ih =>
      obtain ⟨k, held⟩ := entry
      by_cases same : k = key
      · simp only [lookup, if_pos same, Option.some.injEq] at found
        subst found
        simp only [write, if_pos same, List.map_cons, List.sum_cons]
        omega
      · simp only [lookup, if_neg same] at found
        have tail := ih found
        simp only [write, if_neg same, List.map_cons, List.sum_cons]
        omega
  exact exchange d.entries found

/-- Writing a new key adds what its value counts for. -/
theorem total_set_of_absent (d : Dict κ α) (weight : α → Nat) {key : κ}
    (absent : d.get? key = none) (value : α) :
    (d.set key value).total weight = d.total weight + weight value := by
  -- An absent key is written behind all entries.
  have appended (entries : List (κ × α)) (absent : lookup key entries = none) :
      write key value entries = entries ++ [(key, value)] := by
    induction entries with
    | nil => rfl
    | cons entry rest ih =>
      obtain ⟨k, held⟩ := entry
      by_cases same : k = key
      · simp [lookup, same] at absent
      · simp only [lookup, if_neg same] at absent
        rw [write, if_neg same, ih absent, List.cons_append]
  simp [total, values, set, appended d.entries absent]

end Dict
