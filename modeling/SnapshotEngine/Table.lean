/-!
# Tables

A table holds at most one value for each key.  All that is ever asked of it is
the value of a key, and that is what the lemmas say of each operation; the
order in which the entries are kept carries no meaning.

* `get?_insert`, `get?_erase`, `get?_modify` — what a key holds after each
  operation;
* `erase_eq_self`, `modify_eq_self` — a key that holds nothing;
* `modify_modify`, `insert_modify`, `erase_modify` — what becomes of a change.
-/

namespace SnapshotEngine

/-- At most one value for each key. -/
structure Table (κ : Type) (α : Type) where
  entries : List (κ × α)
deriving Inhabited, Repr

namespace Table

variable {κ : Type} {α : Type} [DecidableEq κ]

/-- The table without any entry. -/
def empty : Table κ α := ⟨[]⟩

/-- The first value that a list of entries has for a key. -/
def lookupIn (k : κ) : List (κ × α) → Option α
  | [] => none
  | e :: es => if e.1 = k then some e.2 else lookupIn k es

/-- The value of a key. -/
def get? (t : Table κ α) (k : κ) : Option α := lookupIn k t.entries

/-- Gives a key a value, in place of the one it had. -/
def insert (t : Table κ α) (k : κ) (a : α) : Table κ α :=
  ⟨(k, a) :: t.entries.filter fun e => e.1 ≠ k⟩

/-- Takes the value of a key away. -/
def erase (t : Table κ α) (k : κ) : Table κ α :=
  ⟨t.entries.filter fun e => e.1 ≠ k⟩

/-- Changes the value of a key, if it has one. -/
def modify (t : Table κ α) (k : κ) (f : α → α) : Table κ α :=
  ⟨t.entries.map fun e => if e.1 = k then (e.1, f e.2) else e⟩

/-- Whether a key has a value. -/
def contains (t : Table κ α) (k : κ) : Bool := (t.get? k).isSome

/-- The keys that have a value. -/
def keys (t : Table κ α) : List κ := t.entries.map (·.1)

/-- The table with the given entries; of two entries for one key the later one
counts. -/
def ofList (entries : List (κ × α)) : Table κ α :=
  entries.foldl (fun t e => t.insert e.1 e.2) empty

omit [DecidableEq κ] in
@[simp] theorem entries_empty : (empty : Table κ α).entries = [] := rfl

theorem lookupIn_filter_self (k : κ) (es : List (κ × α)) :
    lookupIn k (es.filter fun e => e.1 ≠ k) = none := by
  induction es with
  | nil => rfl
  | cons e es ih =>
      by_cases h : e.1 = k
      · simpa [List.filter_cons, h] using ih
      · simpa [List.filter_cons, h, lookupIn] using ih

theorem lookupIn_filter_other {k l : κ} (h : l ≠ k) (es : List (κ × α)) :
    lookupIn l (es.filter fun e => e.1 ≠ k) = lookupIn l es := by
  induction es with
  | nil => rfl
  | cons e es ih =>
      by_cases hk : e.1 = k
      · have hl : e.1 ≠ l := fun hel => h (hel ▸ hk)
        simpa [List.filter_cons, hk, lookupIn, hl, h.symm] using ih
      · by_cases hl : e.1 = l
        · simp [lookupIn, hl, h]
        · simpa [List.filter_cons, hk, lookupIn, hl] using ih

/-- After an insertion the key holds the new value and the others what they
held. -/
theorem get?_insert (t : Table κ α) (k l : κ) (a : α) :
    (t.insert k a).get? l = if k = l then some a else t.get? l := by
  by_cases h : k = l
  · simp [insert, get?, lookupIn, h]
  · simp only [insert, get?, lookupIn, h, if_false]
    exact lookupIn_filter_other (fun hl => h hl.symm) t.entries

/-- After an erasure the key holds nothing and the others what they held. -/
theorem get?_erase (t : Table κ α) (k l : κ) :
    (t.erase k).get? l = if k = l then none else t.get? l := by
  by_cases h : k = l
  · subst h
    simpa [erase, get?] using lookupIn_filter_self k t.entries
  · simp only [erase, get?, h, if_false]
    exact lookupIn_filter_other (fun hl => h hl.symm) t.entries

/-- There is nothing to take away from a key that holds nothing. -/
theorem erase_eq_self {t : Table κ α} {k : κ} (h : t.get? k = none) : t.erase k = t := by
  obtain ⟨es⟩ := t
  simp only [get?, erase, mk.injEq] at *
  induction es with
  | nil => rfl
  | cons e es ih =>
      by_cases he : e.1 = k
      · simp [lookupIn, he] at h
      · rw [lookupIn, if_neg he] at h
        rw [List.filter_cons_of_pos (by simpa using he), ih h]

/-- A change reaches the value of its key and nothing else. -/
theorem get?_modify (t : Table κ α) (k l : κ) (f : α → α) :
    (t.modify k f).get? l = if k = l then (t.get? l).map f else t.get? l := by
  obtain ⟨es⟩ := t
  simp only [modify, get?]
  induction es with
  | nil => simp [lookupIn]
  | cons e es ih =>
      by_cases hk : e.1 = k
      · by_cases hl : k = l
        · simp [lookupIn, hk, hl]
        · have hel : e.1 ≠ l := fun h => hl (hk ▸ h)
          simpa [List.map_cons, hk, lookupIn, hl, hel] using ih
      · by_cases hl : e.1 = l
        · have hkl : k ≠ l := fun h => hk (hl.trans h.symm)
          simp [lookupIn, hl, hkl, hkl.symm]
        · simpa [List.map_cons, hk, lookupIn, hl] using ih

/-- Of two changes to one key, the second is made to what the first has left. -/
theorem modify_modify (t : Table κ α) (k : κ) (f g : α → α) :
    (t.modify k f).modify k g = t.modify k fun a => g (f a) := by
  simp only [modify, List.map_map, mk.injEq]
  apply List.map_congr_left
  intro e _
  by_cases h : e.1 = k <;> simp [h]

/-- A changed value may be put in as well as the value it was changed from. -/
theorem insert_modify (t : Table κ α) (k : κ) (f : α → α) (a : α) :
    (t.modify k f).insert k (f a) = (t.insert k a).modify k f := by
  simp only [insert, modify, List.map_cons, if_true, List.filter_map, mk.injEq, List.cons.injEq,
    true_and]
  refine congrArg (List.map _) (List.filter_congr fun e _ => ?_)
  by_cases h : e.1 = k <;> simp [h]

/-- A change is lost with the value. -/
theorem erase_modify (t : Table κ α) (k : κ) (f : α → α) : (t.modify k f).erase k = t.erase k := by
  obtain ⟨es⟩ := t
  simp only [erase, modify, mk.injEq]
  induction es with
  | nil => rfl
  | cons e es ih =>
      by_cases h : e.1 = k
      · simpa [h] using ih
      · simpa [h] using ih

/-- There is nothing to change of a key that holds nothing. -/
theorem modify_eq_self {t : Table κ α} {k : κ} (h : t.get? k = none) (f : α → α) :
    t.modify k f = t := by
  obtain ⟨es⟩ := t
  simp only [get?, modify, mk.injEq] at *
  induction es with
  | nil => rfl
  | cons e es ih =>
      by_cases he : e.1 = k
      · simp [lookupIn, he] at h
      · rw [lookupIn, if_neg he] at h
        rw [List.map_cons, if_neg he, ih h]

theorem contains_iff (t : Table κ α) (k : κ) :
    t.contains k ↔ ∃ a, t.get? k = some a :=
  Option.isSome_iff_exists

end Table

end SnapshotEngine
