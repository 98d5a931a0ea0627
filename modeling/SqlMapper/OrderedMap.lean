/-! Maps with text keys that keep the order in which the keys came first. -/

namespace SqlMapper

structure OrderedMap (β : Type) where
  entries : List (String × β)
  keys_nodup : (entries.map Prod.fst).Nodup

namespace OrderedMap

/-- The entries with a value put under a key: in the place of the key if it is there, or else
at the end. -/
def insertEntry (key : String) (value : β) : List (String × β) → List (String × β)
  | [] => [(key, value)]
  | (k, v) :: rest =>
    if k = key then (key, value) :: rest else (k, v) :: insertEntry key value rest

theorem keys_insertEntry (key : String) (value : β) (entries : List (String × β)) :
    (insertEntry key value entries).map Prod.fst =
      if key ∈ entries.map Prod.fst then entries.map Prod.fst
      else entries.map Prod.fst ++ [key] := by
  induction entries with
  | nil => simp [insertEntry]
  | cons e rest ih =>
    obtain ⟨k, v⟩ := e
    by_cases h : k = key
    · simp [insertEntry, h]
    · have h' : ¬ key = k := fun e => h e.symm
      simp only [insertEntry, h, if_false, List.map_cons, ih, List.mem_cons, h', false_or]
      split <;> simp

theorem lookup_cons_eq (k : String) (v : β) (rest : List (String × β)) (key : String) :
    ((k, v) :: rest).lookup key = if key = k then some v else rest.lookup key := by
  by_cases h : key = k
  · simp [h]
  · simp [List.lookup_cons, beq_eq_false_iff_ne.mpr h, h]

theorem lookup_eq_none {entries : List (String × β)} {key : String}
    (h : key ∉ entries.map Prod.fst) : entries.lookup key = none := by
  rw [List.lookup_eq_none_iff]
  intro e he
  have hne : key ≠ e.1 := fun hk => h (hk ▸ List.mem_map_of_mem he)
  simpa using hne

theorem lookup_insertEntry (key : String) (value : β) (entries : List (String × β)) (k : String) :
    (insertEntry key value entries).lookup k =
      if k = key then some value else entries.lookup k := by
  induction entries with
  | nil => rw [insertEntry, lookup_cons_eq]
  | cons e rest ih =>
    obtain ⟨l, v⟩ := e
    by_cases hl : l = key
    · rw [insertEntry, if_pos hl, lookup_cons_eq, lookup_cons_eq, hl]
      split <;> rfl
    · rw [insertEntry, if_neg hl, lookup_cons_eq, lookup_cons_eq, ih]
      have hkl : ¬key = l := fun h => hl h.symm
      by_cases hk : k = key <;> simp [hk, hkl]

def empty : OrderedMap β := ⟨[], List.nodup_nil⟩

instance : Inhabited (OrderedMap β) := ⟨empty⟩

def keys (m : OrderedMap β) : List String :=
  m.entries.map Prod.fst

def get? (m : OrderedMap β) (key : String) : Option β :=
  m.entries.lookup key

def contains (m : OrderedMap β) (key : String) : Bool :=
  m.keys.contains key

def insert (m : OrderedMap β) (key : String) (value : β) : OrderedMap β where
  entries := insertEntry key value m.entries
  keys_nodup := by
    rw [keys_insertEntry]
    have hk := m.keys_nodup
    split
    · exact hk
    · rename_i hn
      refine List.nodup_append.2 ⟨hk, by simp, ?_⟩
      intro a ha b hb
      simp only [List.mem_singleton] at hb
      rintro rfl
      exact hn (hb ▸ ha)

theorem get?_insert (m : OrderedMap β) (key : String) (value : β) (k : String) :
    (m.insert key value).get? k = if k = key then some value else m.get? k :=
  lookup_insertEntry key value m.entries k

/-- The map of a sequence of entries, a later one replacing the value of an earlier one. -/
def ofList (entries : List (String × β)) : OrderedMap β :=
  entries.foldl (fun m e => m.insert e.1 e.2) empty

theorem get?_foldl_insert {entries : List (String × β)} (h : (entries.map Prod.fst).Nodup)
    (m : OrderedMap β) (key : String) :
    (entries.foldl (fun m e => m.insert e.1 e.2) m).get? key =
      (entries.lookup key).or (m.get? key) := by
  induction entries generalizing m with
  | nil => simp
  | cons e rest ih =>
    obtain ⟨k, v⟩ := e
    obtain ⟨hk, hrest⟩ := List.nodup_cons.mp h
    rw [List.foldl_cons, ih hrest, get?_insert, lookup_cons_eq]
    by_cases he : key = k
    · simp [he, lookup_eq_none hk]
    · simp [he]

theorem get?_ofList {entries : List (String × β)} (h : (entries.map Prod.fst).Nodup)
    (key : String) : (ofList entries).get? key = entries.lookup key := by
  rw [ofList, get?_foldl_insert h]
  exact Option.or_none

end OrderedMap

end SqlMapper
