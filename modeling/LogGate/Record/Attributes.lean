/-!
# Attributes

The attributes of a record are a finite map from texts to texts, kept as a list of pairs whose keys
increase strictly. Texts are compared by their code points, which is also the order of their UTF-8
bytes. Each map has one such list, so two maps with the same pairs are equal. Adding a pair under a
key that is there replaces its value.
-/

namespace LogGate

/-- A finite map from texts to texts. -/
structure Attributes where
  /-- The pairs, in the order of their keys. -/
  entries : List (String × String)
  sorted : entries.Pairwise (·.1 < ·.1)
  deriving DecidableEq, Repr

namespace Attributes

/-- No attributes. -/
def empty : Attributes := ⟨[], .nil⟩

instance : Inhabited Attributes := ⟨empty⟩

instance : EmptyCollection Attributes := ⟨empty⟩

/-- Puts a pair in its place among pairs in order, instead of the one with the same key if there is
one. -/
def insertEntry (key value : String) : List (String × String) → List (String × String)
  | [] => [(key, value)]
  | entry :: rest =>
    if key < entry.1 then (key, value) :: entry :: rest
    else if key = entry.1 then (key, value) :: rest
    else entry :: insertEntry key value rest

/-- The keys after an insertion are the one inserted and those before. -/
theorem mem_keys_insertEntry {key value k : String} {entries : List (String × String)} :
    k ∈ (insertEntry key value entries).map Prod.fst ↔ k = key ∨ k ∈ entries.map Prod.fst := by
  induction entries with
  | nil => simp [insertEntry]
  | cons entry rest ih =>
    simp only [insertEntry]
    split
    · simp
    · split
      · rename_i h
        simp [h]
      · rw [List.map_cons, List.mem_cons, ih, List.map_cons, List.mem_cons]
        constructor
        · rintro (h | h | h) <;> simp [h]
        · rintro (h | h | h) <;> simp [h]

/-- Of two texts in no order, one comes after the other unless they are equal. -/
theorem lt_of_not_lt_of_ne {a b : String} (h : ¬ a < b) (hne : a ≠ b) : b < a := by
  have hle : b ≤ a := String.not_lt.1 h
  refine Decidable.byContradiction fun hlt => hne ?_
  exact String.le_antisymm (String.not_lt.1 hlt) hle

/-- An insertion keeps the keys in order. -/
theorem insertEntry_sorted {key value : String} {entries : List (String × String)}
    (h : entries.Pairwise (·.1 < ·.1)) :
    (insertEntry key value entries).Pairwise (·.1 < ·.1) := by
  induction entries with
  | nil => exact List.pairwise_singleton _ _
  | cons entry rest ih =>
    obtain ⟨hfirst, hrest⟩ := List.pairwise_cons.1 h
    simp only [insertEntry]
    split
    · rename_i hlt
      refine List.pairwise_cons.2 ⟨fun e he => ?_, h⟩
      rcases List.mem_cons.1 he with rfl | he
      · exact hlt
      · exact String.lt_trans hlt (hfirst e he)
    · split
      · rename_i heq
        exact List.pairwise_cons.2 ⟨fun e he => heq ▸ hfirst e he, hrest⟩
      · rename_i hlt hne
        refine List.pairwise_cons.2 ⟨fun e he => ?_, ih hrest⟩
        have hmem : e.1 ∈ (insertEntry key value rest).map Prod.fst := List.mem_map_of_mem he
        rcases mem_keys_insertEntry.1 hmem with hkey | hmem
        · rw [hkey]; exact lt_of_not_lt_of_ne hlt hne
        · obtain ⟨e', he', hk⟩ := List.mem_map.1 hmem
          rw [← hk]; exact hfirst e' he'

/-- Adds a pair, or replaces the value of a key. -/
def insert (key value : String) (a : Attributes) : Attributes :=
  ⟨insertEntry key value a.entries, insertEntry_sorted a.sorted⟩

/-- The value of a key. -/
def get? (a : Attributes) (key : String) : Option String :=
  (a.entries.find? (·.1 == key)).map Prod.snd

/-- Adds pairs one after the other. -/
def ofList (pairs : List (String × String)) : Attributes :=
  pairs.foldl (fun a p => a.insert p.1 p.2) empty

end Attributes

end LogGate
