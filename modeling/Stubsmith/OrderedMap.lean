/-!
# Maps that keep the order of insertion

A finite map from texts that remembers in which order its keys were first given. Setting a key that
is present replaces its value and leaves it in place. That no key occurs twice is part of the type.
-/

namespace Stubsmith

/-- A finite map keyed by texts, in order of first insertion. -/
structure OrderedMap (α : Type) where
  entries : List (String × α)
  nodup : (entries.map Prod.fst).Nodup := by simp

namespace OrderedMap

variable {α : Type}

/-- Sets a key in a list of entries: in place if it is present, otherwise at the end. -/
def setEntry (key : String) (value : α) : List (String × α) → List (String × α)
  | [] => [(key, value)]
  | (k, v) :: rest => if k = key then (key, value) :: rest else (k, v) :: setEntry key value rest

theorem keys_setEntry_of_mem {key : String} (value : α) {l : List (String × α)}
    (h : key ∈ l.map Prod.fst) : (setEntry key value l).map Prod.fst = l.map Prod.fst := by
  induction l with
  | nil => simp at h
  | cons entry rest ih =>
    obtain ⟨k, v⟩ := entry
    by_cases hk : k = key
    · simp [setEntry, hk]
    · simp only [List.map_cons, List.mem_cons] at h
      simp [setEntry, hk, ih (h.resolve_left fun e => hk e.symm)]

theorem setEntry_of_not_mem {key : String} (value : α) {l : List (String × α)}
    (h : key ∉ l.map Prod.fst) : setEntry key value l = l ++ [(key, value)] := by
  induction l with
  | nil => rfl
  | cons entry rest ih =>
    obtain ⟨k, v⟩ := entry
    simp only [List.map_cons, List.mem_cons, not_or] at h
    rw [setEntry, if_neg (Ne.symm h.1), ih h.2, List.cons_append]

theorem keys_setEntry_of_not_mem {key : String} (value : α) {l : List (String × α)}
    (h : key ∉ l.map Prod.fst) : (setEntry key value l).map Prod.fst = l.map Prod.fst ++ [key] := by
  rw [setEntry_of_not_mem value h, List.map_append]
  rfl

theorem nodup_setEntry (key : String) (value : α) {l : List (String × α)}
    (h : (l.map Prod.fst).Nodup) : ((setEntry key value l).map Prod.fst).Nodup := by
  by_cases hk : key ∈ l.map Prod.fst
  · rwa [keys_setEntry_of_mem value hk]
  · rw [keys_setEntry_of_not_mem value hk, List.nodup_append]
    refine ⟨h, by simp, ?_⟩
    intro a ha b hb
    simp only [List.mem_singleton] at hb
    exact fun e => hk (by rw [← hb, ← e]; exact ha)

/-- The map without entries. -/
def empty : OrderedMap α :=
  ⟨[], by simp⟩

/-- Sets the value of a key. -/
def insert (m : OrderedMap α) (key : String) (value : α) : OrderedMap α :=
  ⟨setEntry key value m.entries, nodup_setEntry key value m.nodup⟩

/-- The value of a key. -/
def get? (m : OrderedMap α) (key : String) : Option α :=
  m.entries.lookup key

/-- Sets the keys of a list one after another, so that of a repeated key the last value stays. -/
def ofList (l : List (String × α)) : OrderedMap α :=
  l.foldl (fun m entry => m.insert entry.1 entry.2) empty

/-- Two maps are alike if they hold the same keys with alike values, in whatever order. -/
def alike [BEq α] (a b : OrderedMap α) : Bool :=
  a.entries.length == b.entries.length
    && a.entries.all fun (key, value) =>
      match b.get? key with
      | some other => value == other
      | none => false

theorem lookup_setEntry (key name : String) (value : α) (l : List (String × α)) :
    (setEntry key value l).lookup name = if name = key then some value else l.lookup name := by
  have hcons (k : String) (v : α) (l : List (String × α)) :
      ((k, v) :: l).lookup name = if name = k then some v else l.lookup name := by
    by_cases h : name = k
    · simp [h]
    · rw [List.lookup_cons, beq_false_of_ne h, if_neg h]
  induction l with
  | nil => exact hcons key value []
  | cons entry rest ih =>
    obtain ⟨k, v⟩ := entry
    by_cases hk : k = key
    · rw [setEntry, if_pos hk, hcons, hcons, hk]
      split <;> rfl
    · rw [setEntry, if_neg hk, hcons, hcons, ih]
      by_cases h : name = k
      · rw [if_pos h, if_neg fun heq => hk (h.symm.trans heq), if_pos h]
      · rw [if_neg h, if_neg h]

/-- Setting a key to the value it has changes nothing. -/
theorem setEntry_eq_self {key : String} {value : α} {l : List (String × α)}
    (h : l.lookup key = some value) : setEntry key value l = l := by
  induction l with
  | nil => cases h
  | cons entry rest ih =>
    obtain ⟨k, v⟩ := entry
    by_cases hk : k = key
    · subst hk
      rw [List.lookup_cons_self, Option.some.injEq] at h
      rw [setEntry, if_pos rfl, h]
    · rw [List.lookup_cons, beq_false_of_ne (Ne.symm hk)] at h
      rw [setEntry, if_neg hk, ih h]

theorem entries_foldl_insert (m : OrderedMap α) {l : List (String × α)}
    (h : ((m.entries ++ l).map Prod.fst).Nodup) :
    (l.foldl (fun m entry => m.insert entry.1 entry.2) m).entries = m.entries ++ l := by
  induction l generalizing m with
  | nil => rw [List.append_nil]; rfl
  | cons entry rest ih =>
    obtain ⟨key, value⟩ := entry
    have hkey : key ∉ m.entries.map Prod.fst := by
      rw [List.map_append, List.nodup_append] at h
      exact fun hmem => h.2.2 key hmem key (by simp) rfl
    have hinsert : (m.insert key value).entries = m.entries ++ [(key, value)] :=
      setEntry_of_not_mem value hkey
    rw [List.foldl_cons, ih _ (by rw [hinsert]; simpa using h), hinsert, List.append_assoc]
    rfl

/-- Keys that do not repeat stay in their order with their values. -/
theorem entries_ofList {l : List (String × α)} (h : (l.map Prod.fst).Nodup) :
    (ofList l).entries = l :=
  entries_foldl_insert empty h

theorem lookup_eq_some_iff_mem {l : List (String × α)} (h : (l.map Prod.fst).Nodup) {key : String}
    {value : α} : l.lookup key = some value ↔ (key, value) ∈ l := by
  induction l with
  | nil => simp
  | cons entry rest ih =>
    obtain ⟨k, v⟩ := entry
    rw [List.map_cons, List.nodup_cons] at h
    by_cases hk : key = k
    · subst hk
      have hrest : (key, value) ∉ rest := fun hmem => h.1 (List.mem_map.mpr ⟨_, hmem, rfl⟩)
      simp [hrest, eq_comm]
    · rw [List.lookup_cons, beq_false_of_ne hk, List.mem_cons, ih h.2]
      simp [hk]

/-- The value of a key stands beside it. -/
theorem get?_eq_some_iff (m : OrderedMap α) {key : String} {value : α} :
    m.get? key = some value ↔ (key, value) ∈ m.entries :=
  lookup_eq_some_iff_mem m.nodup

/-- Maps that hold a key with the same values have the same value for it. -/
theorem get?_congr {a b : OrderedMap α} {key : String}
    (h : ∀ value, (key, value) ∈ a.entries ↔ (key, value) ∈ b.entries) :
    a.get? key = b.get? key := by
  apply Option.ext
  intro value
  rw [get?_eq_some_iff, get?_eq_some_iff, h]

@[ext] theorem ext {a b : OrderedMap α} (h : a.entries = b.entries) : a = b := by
  cases a; cases b; cases h; rfl

instance : Inhabited (OrderedMap α) := ⟨empty⟩

end OrderedMap

end Stubsmith
