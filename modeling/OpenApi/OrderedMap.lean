/-!
# Ordered maps

Lists of pairs in which a key stands once, in the order of its first insertion. A key that is
inserted again keeps its place and takes the new value.
-/

namespace OpenApi

/-- Keys with their values, in order of first insertion. -/
abbrev OrderedMap (κ α : Type) := List (κ × α)

namespace OrderedMap

variable {κ α β : Type} [DecidableEq κ]

def get? : OrderedMap κ α → κ → Option α
  | [], _ => none
  | (k, v) :: rest, key => if k = key then some v else get? rest key

def contains (m : OrderedMap κ α) (key : κ) : Bool :=
  (get? m key).isSome

/-- A known key keeps its place; a new one goes to the end. -/
def insert : OrderedMap κ α → κ → α → OrderedMap κ α
  | [], key, value => [(key, value)]
  | (k, v) :: rest, key, value =>
    if k = key then (k, value) :: rest else (k, v) :: insert rest key value

/-- Takes the key out; the others close up. -/
def erase : OrderedMap κ α → κ → OrderedMap κ α
  | [], _ => []
  | (k, v) :: rest, key => if k = key then rest else (k, v) :: erase rest key

/-- Inserts the pairs one after the other. -/
def insertAll (m : OrderedMap κ α) (pairs : List (κ × α)) : OrderedMap κ α :=
  pairs.foldl (fun m p => insert m p.1 p.2) m

def ofList (pairs : List (κ × α)) : OrderedMap κ α :=
  insertAll [] pairs

omit [DecidableEq κ] in
def keys (m : OrderedMap κ α) : List κ :=
  m.map Prod.fst

omit [DecidableEq κ] in
def values (m : OrderedMap κ α) : List α :=
  m.map Prod.snd

@[simp] theorem get?_nil (key : κ) : get? ([] : OrderedMap κ α) key = none := rfl

theorem get?_cons (k : κ) (v : α) (rest : OrderedMap κ α) (key : κ) :
    get? ((k, v) :: rest) key = if k = key then some v else get? rest key := rfl

@[simp] theorem get?_insert_self (m : OrderedMap κ α) (key : κ) (value : α) :
    get? (insert m key value) key = some value := by
  induction m with
  | nil => simp [insert, get?]
  | cons p rest ih =>
    obtain ⟨k, v⟩ := p
    by_cases h : k = key <;> simp [insert, get?, h, ih]

theorem get?_insert_of_ne (m : OrderedMap κ α) {key other : κ} (value : α) (ne : other ≠ key) :
    get? (insert m key value) other = get? m other := by
  induction m with
  | nil => simp [insert, get?, ne.symm]
  | cons p rest ih =>
    obtain ⟨k, v⟩ := p
    by_cases h : k = key
    · subst h
      simp [insert, get?, ne.symm]
    · simp only [insert, h, if_false, get?, ih]

theorem keys_insert (m : OrderedMap κ α) (key : κ) (value : α) :
    keys (insert m key value) = if key ∈ keys m then keys m else keys m ++ [key] := by
  induction m with
  | nil => simp [insert, keys]
  | cons p rest ih =>
    obtain ⟨k, v⟩ := p
    by_cases h : k = key
    · simp [insert, keys, h]
    · simp only [keys] at ih
      by_cases hm : key ∈ rest.map Prod.fst
      · simp_all [insert, keys]
      · simp_all [insert, keys, Ne.symm h]

theorem nodup_keys_insert {m : OrderedMap κ α} (nodup : (keys m).Nodup) (key : κ) (value : α) :
    (keys (insert m key value)).Nodup := by
  rw [keys_insert]
  split
  · exact nodup
  · rename_i h
    refine List.nodup_append.2 ⟨nodup, by simp, fun a ha b hb e => h ?_⟩
    rw [← List.mem_singleton.1 hb, ← e]
    exact ha

theorem nodup_keys_insertAll {m : OrderedMap κ α} (nodup : (keys m).Nodup)
    (pairs : List (κ × α)) : (keys (insertAll m pairs)).Nodup := by
  induction pairs generalizing m with
  | nil => exact nodup
  | cons p rest ih => exact ih (nodup_keys_insert nodup p.1 p.2)

theorem nodup_keys_ofList (pairs : List (κ × α)) : (keys (ofList pairs)).Nodup :=
  nodup_keys_insertAll (by simp [keys]) pairs

end OrderedMap

end OpenApi
