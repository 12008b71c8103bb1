import Mathlib.Data.List.Basic
import Stubsmith.Disk.Basic

/-!
# What stands at a place

The view of a disk in which a place holds nothing, a directory or a file, and what is in a directory
is seen at the places below it only. Putting a file or an empty directory where no directory stands
changes this view at that one place (`Disk.standing?_put`), so what an operation does to the disk
can be said place by place.
-/

namespace Stubsmith

/-- What stands at a place, without what is below it. -/
inductive Standing where
  | directory
  | file (content : ByteArray)

namespace Tree

/-- What stands at the top of the tree. -/
def standing : Tree → Standing
  | directory _ => .directory
  | file content => .file content

/-- What stands at a place, if there is something. -/
def standing? (t : Tree) (place : List String) : Option Standing :=
  (t.at? place).map standing

/-- Whether there is nothing below the top of the tree. -/
def IsLeaf (t : Tree) : Prop :=
  ∀ name, t.child? name = none

section

variable {t u : Tree} {name : String} {place : List String}

/-! ## Entries -/

/-- What has something below it is a directory. -/
theorem standing_of_child? (h : t.child? name = some u) : t.standing = .directory := by
  cases t with
  | file content => cases h
  | directory entries => rfl

/-- What is no directory has nothing below it. -/
theorem isLeaf_of_standing_ne (h : t.standing ≠ .directory) : t.IsLeaf := by
  intro name
  cases t with
  | file content => rfl
  | directory entries => exact absurd rfl h

theorem child?_setChild (ht : t.standing = .directory) (name other : String) (u : Tree) :
    (t.setChild name u).child? other = if other = name then some u else t.child? other := by
  cases t with
  | file content => cases ht
  | directory entries => exact OrderedMap.lookup_setEntry name other u entries

theorem standing_setChild (t : Tree) (name : String) (u : Tree) :
    (t.setChild name u).standing = t.standing := by
  cases t <;> rfl

/-! ## Places -/

theorem at?_cons_some (h : t.child? name = some u) (rest : List String) :
    t.at? (name :: rest) = u.at? rest := by
  rw [at?, h]

theorem at?_cons_none (h : t.child? name = none) (rest : List String) :
    t.at? (name :: rest) = none := by
  rw [at?, h]

theorem at?_append (t : Tree) (place rest : List String) :
    t.at? (place ++ rest) = (t.at? place).bind (·.at? rest) := by
  induction place generalizing t with
  | nil => rfl
  | cons name others ih =>
      cases h : t.child? name with
      | none =>
          rw [List.cons_append, at?_cons_none h, at?_cons_none h]
          rfl
      | some u => rw [List.cons_append, at?_cons_some h, at?_cons_some h, ih]

/-- Where no directory stands, nothing is below. -/
theorem at?_append_cons_eq_none (h : t.standing? place ≠ some .directory) (rest : List String) :
    t.at? (place ++ name :: rest) = none := by
  rw [at?_append]
  cases hplace : t.at? place with
  | none => rfl
  | some u =>
      have hu : u.standing ≠ .directory := by
        intro hu
        rw [standing?, hplace, Option.map_some, hu] at h
        exact h rfl
      exact at?_cons_none (isLeaf_of_standing_ne hu name) rest

theorem setAt_cons (h : t.child? name = some u) {rest : List String} (hrest : rest ≠ [])
    (v : Tree) : t.setAt (name :: rest) v = t.setChild name (u.setAt rest v) := by
  cases rest with
  | nil => exact absurd rfl hrest
  | cons second rest =>
      rw [setAt, h]
      exact hrest

/-- Putting at a place what stands there changes nothing. -/
theorem setAt_eq_self (h : t.at? place = some u) : t.setAt place u = t := by
  induction place generalizing t with
  | nil => exact (Option.some.inj h).symm
  | cons name rest ih =>
      cases t with
      | file content => cases h
      | directory entries =>
          obtain ⟨inner, hinner⟩ : ∃ inner, (directory entries).child? name = some inner := by
            cases hchild : (directory entries).child? name with
            | none =>
                rw [at?_cons_none hchild] at h
                cases h
            | some inner => exact ⟨inner, rfl⟩
          rw [at?_cons_some hinner] at h
          have hset : (directory entries).setChild name inner = directory entries :=
            congrArg directory (OrderedMap.setEntry_eq_self hinner)
          cases rest with
          | nil =>
              injection h with h
              rw [setAt, ← h, hset]
          | cons second rest => rw [setAt_cons hinner (List.cons_ne_nil second rest), ih h, hset]

/-- Setting an entry of a directory is seen at the places that begin with its name. -/
theorem standing?_setChild (ht : t.standing = .directory) (name : String) (u : Tree)
    (other : String) (rest : List String) :
    (t.setChild name u).standing? (other :: rest)
      = if other = name then u.standing? rest else t.standing? (other :: rest) := by
  have hchild := child?_setChild ht name other u
  by_cases h : other = name
  · rw [if_pos h] at hchild ⊢
    rw [standing?, at?_cons_some hchild, standing?]
  · rw [if_neg h] at hchild ⊢
    rw [standing?, standing?, at?, at?, hchild]

/-- A leaf that is put where no directory stands is seen there, and nothing else changes. -/
theorem standing?_setAt (hu : u.IsLeaf) (habove : t.standing? place = some .directory)
    (hfree : t.standing? (place ++ [name]) ≠ some .directory) (other : List String) :
    (t.setAt (place ++ [name]) u).standing? other
      = if other = place ++ [name] then some u.standing else t.standing? other := by
  induction place generalizing t other with
  | nil =>
      -- the leaf becomes an entry of the tree itself
      have ht : t.standing = .directory := Option.some.inj habove
      rw [List.nil_append] at hfree ⊢
      rw [setAt]
      cases other with
      | nil =>
          rw [if_neg (by simp)]
          exact congrArg some (standing_setChild t name u)
      | cons first rest =>
          rw [standing?_setChild ht]
          by_cases hfirst : first = name
          · subst hfirst
            rw [if_pos rfl]
            cases rest with
            | nil => rw [if_pos rfl]; rfl
            | cons second rest =>
                -- the leaf has nothing below it, and neither has the file it may replace
                have hold : t.standing? ([first] ++ second :: rest) = none := by
                  rw [standing?, at?_append_cons_eq_none hfree]
                  rfl
                rw [if_neg (by simp), standing?, at?_cons_none (hu second)]
                exact hold.symm
          · rw [if_neg hfirst, if_neg (by simp [hfirst])]
  | cons first rest ih =>
      obtain ⟨inner, hinner⟩ : ∃ inner, t.child? first = some inner := by
        cases hchild : t.child? first with
        | none =>
            rw [standing?, at?_cons_none hchild] at habove
            cases habove
        | some inner => exact ⟨inner, rfl⟩
      have ht : t.standing = .directory := standing_of_child? hinner
      rw [standing?, at?_cons_some hinner] at habove
      rw [List.cons_append, standing?, at?_cons_some hinner] at hfree
      rw [List.cons_append, setAt_cons hinner (by simp)]
      cases other with
      | nil =>
          rw [if_neg (by simp)]
          exact congrArg some (standing_setChild t first _)
      | cons second others =>
          rw [standing?_setChild ht]
          by_cases hsecond : second = first
          · subst hsecond
            rw [if_pos rfl, ih habove hfree]
            simp only [List.cons.injEq, true_and]
            rw [standing?, standing?, at?_cons_some hinner]
          · rw [if_neg hsecond, if_neg (by simp [hsecond])]

end

end Tree

namespace Disk

/-- What stands at a place, if there is something. -/
def standing? (d : Disk) (place : List String) : Option Standing :=
  d.root.standing? place

section

variable {d : Disk} {t : Tree} {place : List String} {name : String}

theorem isDirectoryAt_iff :
    d.isDirectoryAt place = true ↔ d.standing? place = some .directory := by
  rw [isDirectoryAt, standing?, Tree.standing?, at?]
  cases d.root.at? place with
  | none => simp
  | some t => cases t <;> simp [Tree.isDirectory, Tree.standing]

theorem isSome_at?_iff : (d.at? place).isSome = true ↔ d.standing? place ≠ none := by
  rw [standing?, Tree.standing?, at?]
  cases d.root.at? place <;> simp

theorem at?_eq_file_iff {content : ByteArray} :
    d.at? place = some (.file content) ↔ d.standing? place = some (.file content) := by
  rw [standing?, Tree.standing?, at?]
  cases d.root.at? place with
  | none => simp
  | some t => cases t <;> simp [Tree.standing]

/-- Where no directory stands, nothing is below. -/
theorem standing?_append_cons_eq_none (h : d.standing? place ≠ some .directory)
    (rest : List String) : d.standing? (place ++ name :: rest) = none := by
  rw [standing?, Tree.standing?, Tree.at?_append_cons_eq_none h]
  rfl

/-- Where nothing stands, nothing is below. -/
theorem standing?_append_eq_none (h : d.standing? place = none) (rest : List String) :
    d.standing? (place ++ rest) = none := by
  rw [standing?, Tree.standing?, Option.map_eq_none_iff] at h ⊢
  rw [Tree.at?_append, h]
  rfl

/-- A directory lies in a directory. -/
theorem standing?_dropLast (h : d.standing? place = some .directory) :
    d.standing? place.dropLast = some .directory := by
  rcases List.eq_nil_or_concat' place with rfl | ⟨above, name, rfl⟩
  · exact h
  · rw [List.dropLast_concat]
    by_contra habove
    rw [standing?_append_cons_eq_none habove] at h
    cases h

/-- A leaf that is put where no directory stands is seen there, and nothing else changes. -/
theorem standing?_put (ht : t.IsLeaf) (habove : d.standing? place = some .directory)
    (hfree : d.standing? (place ++ [name]) ≠ some .directory) (other : List String) :
    (d.put (place ++ [name]) t).standing? other
      = if other = place ++ [name] then some t.standing else d.standing? other :=
  Tree.standing?_setAt ht habove hfree other

/-- Putting at a place what stands there changes nothing. -/
theorem put_eq_self (h : d.at? place = some t) : d.put place t = d := by
  rw [put, Tree.setAt_eq_self h]

end

end Disk

end Stubsmith
