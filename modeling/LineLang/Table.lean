/-!
# Ordered tables

A table keeps its entries in the order in which their keys first came in. Writing to a key that is
present keeps the place of its entry. An entry that was erased and comes in again stands at the end.
-/

namespace LineLang

/-- A table from keys to values, as the list of its entries. -/
structure Table (κ α : Type) where
  entries : List (κ × α) := []
  deriving DecidableEq, Repr

namespace Table

variable {κ α : Type}

/-- The keys, oldest entry first. -/
def keys (t : Table κ α) : List κ :=
  t.entries.map Prod.fst

/-- The values, oldest entry first. -/
def values (t : Table κ α) : List α :=
  t.entries.map Prod.snd

variable [DecidableEq κ]

/-- The value at a key. -/
def find? (t : Table κ α) (k : κ) : Option α :=
  (t.entries.find? fun e => e.1 = k).map Prod.snd

/-- Whether a key has an entry. -/
def contains (t : Table κ α) (k : κ) : Bool :=
  t.entries.any fun e => e.1 = k

/-- Changes the value at a key; a key without an entry is left alone. -/
def modify (t : Table κ α) (k : κ) (f : α → α) : Table κ α :=
  ⟨t.entries.map fun e => if e.1 = k then (e.1, f e.2) else e⟩

/-- Writes a value at a key, in place if the key has an entry and at the end otherwise. -/
def insert (t : Table κ α) (k : κ) (a : α) : Table κ α :=
  if t.contains k then t.modify k fun _ => a else ⟨t.entries ++ [(k, a)]⟩

/-- Removes the entry at a key. -/
def erase (t : Table κ α) (k : κ) : Table κ α :=
  ⟨t.entries.filter fun e => ¬ e.1 = k⟩

/-- The table of a list of entries, or the first key that occurs a second time. -/
def ofDistinct (entries : List (κ × α)) : Except κ (Table κ α) :=
  entries.foldlM
    (fun t e => if t.contains e.1 then .error e.1 else .ok (t.insert e.1 e.2)) {}

/-! ## Keys and look-up after each operation -/

@[simp]
theorem keys_modify (t : Table κ α) (k : κ) (f : α → α) : (t.modify k f).keys = t.keys := by
  simp only [keys, modify, List.map_map]
  congr 1
  funext e
  by_cases h : e.1 = k <;> simp [h]

theorem contains_iff_mem_keys (t : Table κ α) (k : κ) : t.contains k = true ↔ k ∈ t.keys := by
  simp only [contains, keys, List.any_eq_true, List.mem_map, decide_eq_true_eq]

theorem keys_insert (t : Table κ α) (k : κ) (a : α) :
    (t.insert k a).keys = if k ∈ t.keys then t.keys else t.keys ++ [k] := by
  unfold insert
  by_cases h : t.contains k
  · simp [h, (t.contains_iff_mem_keys k).1 h]
  · have hk : k ∉ t.keys := fun hk => h ((t.contains_iff_mem_keys k).2 hk)
    rw [if_neg hk, if_neg h]
    simp [keys]

@[simp]
theorem keys_erase (t : Table κ α) (k : κ) :
    (t.erase k).keys = t.keys.filter fun j => ¬ j = k := by
  simp only [keys, erase, List.filter_map, Function.comp_def]

theorem find?_cons (e : κ × α) (es : List (κ × α)) (j : κ) :
    find? ⟨e :: es⟩ j = if e.1 = j then some e.2 else find? ⟨es⟩ j := by
  by_cases h : e.1 = j <;> simp [find?, h]

theorem find?_modify (t : Table κ α) (k j : κ) (f : α → α) :
    (t.modify k f).find? j = if j = k then (t.find? j).map f else t.find? j := by
  obtain ⟨es⟩ := t
  induction es with
  | nil => simp [find?, modify]
  | cons e es ih =>
    have hm : modify ⟨e :: es⟩ k f =
        ⟨(if e.1 = k then (e.1, f e.2) else e) :: (modify ⟨es⟩ k f).entries⟩ := rfl
    rw [hm, find?_cons, find?_cons, ih]
    by_cases hk : e.1 = k <;> by_cases hj : e.1 = j <;> grind

theorem find?_eq_none_iff (t : Table κ α) (k : κ) : t.find? k = none ↔ k ∉ t.keys := by
  simp only [find?, keys, Option.map_eq_none_iff, List.find?_eq_none, List.mem_map,
    decide_eq_true_eq, not_exists, not_and]

theorem mem_keys_iff_find? (t : Table κ α) (k : κ) : k ∈ t.keys ↔ ∃ a, t.find? k = some a := by
  rw [← Option.isSome_iff_exists, Option.isSome_iff_ne_none, Ne, find?_eq_none_iff,
    Decidable.not_not]

theorem mem_entries_of_find? {t : Table κ α} {k : κ} {a : α} (h : t.find? k = some a) :
    (k, a) ∈ t.entries := by
  obtain ⟨⟨j, a⟩, first, rfl⟩ := Option.map_eq_some_iff.1 h
  obtain rfl : j = k := by simpa using List.find?_some first
  exact List.mem_of_find?_eq_some first

theorem find?_insert (t : Table κ α) (k j : κ) (a : α) :
    (t.insert k a).find? j = if j = k then some a else t.find? j := by
  unfold insert
  by_cases h : t.contains k
  · have hk := (t.contains_iff_mem_keys k).1 h
    simp only [h, if_true, find?_modify]
    by_cases hj : j = k
    · subst hj
      cases hf : t.find? j with
      | none => exact absurd hk ((t.find?_eq_none_iff j).1 hf)
      | some b => simp
    · simp [hj]
  · have hk : k ∉ t.keys := fun hk => h ((t.contains_iff_mem_keys k).2 hk)
    simp only [h, Bool.false_eq_true, if_false, find?, List.find?_append]
    by_cases hj : j = k
    · subst hj
      have hn : t.entries.find? (fun e => e.1 = j) = none := by
        have := (t.find?_eq_none_iff j).2 hk
        simpa [find?] using this
      simp [hn]
    · have hkj : ¬ k = j := fun e => hj e.symm
      cases hf : t.entries.find? (fun e => e.1 = j) <;> simp [hj, hkj]

theorem find?_erase (t : Table κ α) (k j : κ) :
    (t.erase k).find? j = if j = k then none else t.find? j := by
  obtain ⟨es⟩ := t
  induction es with
  | nil => simp [find?, erase]
  | cons e es ih =>
    by_cases hk : e.1 = k
    · have he : erase ⟨e :: es⟩ k = erase ⟨es⟩ k := by simp [erase, hk]
      rw [he, ih, find?_cons]
      grind
    · have he : erase ⟨e :: es⟩ k = ⟨e :: (erase ⟨es⟩ k).entries⟩ := by simp [erase, hk]
      rw [he, find?_cons, find?_cons, ih]
      grind

/-! ## Tables in which no key has two entries -/

theorem nodup_keys_insert {t : Table κ α} (distinct : t.keys.Nodup) (k : κ) (a : α) :
    (t.insert k a).keys.Nodup := by
  rw [keys_insert]
  split
  · exact distinct
  · next new =>
    refine List.nodup_append.2 ⟨distinct, by simp, ?_⟩
    rintro j old j' last rfl
    exact new (List.mem_singleton.1 last ▸ old)

/-- Look-up finds every entry. -/
theorem find?_of_mem_entries {t : Table κ α} (distinct : t.keys.Nodup) {e : κ × α}
    (member : e ∈ t.entries) : t.find? e.1 = some e.2 := by
  obtain ⟨es⟩ := t
  induction es with
  | nil => cases member
  | cons first es ih =>
    obtain ⟨new, distinct⟩ := List.nodup_cons.1 distinct
    rw [find?_cons]
    obtain rfl | member := List.mem_cons.1 member
    · exact if_pos rfl
    · have other : first.1 ≠ e.1 := fun same => new (same ▸ List.mem_map_of_mem member)
      rw [if_neg other]
      exact ih distinct member

/-- Tables with the same keys in the same order are equal if look-up finds the same in both. -/
theorem ext_find? {t t' : Table κ α} (distinct : t.keys.Nodup) (keys : t'.keys = t.keys)
    (same : ∀ k, t'.find? k = t.find? k) : t' = t := by
  have entries : t'.entries = t.entries := by
    apply List.ext_getElem
    · simpa [Table.keys] using congrArg List.length keys
    · intro i bound' bound
      have key : t'.entries[i].1 = t.entries[i].1 := by
        have at_i := congrArg (fun ks => ks[i]?) keys
        simpa [Table.keys, bound, bound'] using at_i
      have found' : t'.find? t'.entries[i].1 = some t'.entries[i].2 :=
        find?_of_mem_entries (keys ▸ distinct) (List.getElem_mem bound')
      have found : t.find? t.entries[i].1 = some t.entries[i].2 :=
        find?_of_mem_entries distinct (List.getElem_mem bound)
      rw [key, same, found] at found'
      exact Prod.ext key (Option.some.inj found').symm
  exact congrArg Table.mk entries

end Table

end LineLang
