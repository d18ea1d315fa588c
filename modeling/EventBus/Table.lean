/-!
Finite tables, kept in the order in which their keys came in.

`set` replaces a value in its place or adds the key at the end; `erase` drops a key.  What a
reader sees of a table is `get?`, and the lemmas here say what `set` and `erase` do to it.
-/

namespace EventBus

/-- A finite table from keys to values. -/
structure Table (K V : Type) where
  entries : List (K × V)
deriving Repr

namespace Table

variable {K V : Type} [DecidableEq K]

def empty : Table K V := ⟨[]⟩

def find (k : K) : List (K × V) → Option V
  | [] => none
  | e :: es => if e.1 = k then some e.2 else find k es

/-- The entries with the value of `k` replaced, or with `k` at the end. -/
def put (k : K) (v : V) : List (K × V) → List (K × V)
  | [] => [(k, v)]
  | e :: es => if e.1 = k then (k, v) :: es else e :: put k v es

def get? (t : Table K V) (k : K) : Option V := find k t.entries

def set (t : Table K V) (k : K) (v : V) : Table K V := ⟨put k v t.entries⟩

def erase (t : Table K V) (k : K) : Table K V := ⟨t.entries.filter (fun e => e.1 ≠ k)⟩

def keys (t : Table K V) : List K := t.entries.map (·.1)

def values (t : Table K V) : List V := t.entries.map (·.2)

def size (t : Table K V) : Nat := t.entries.length

theorem find_put (k k' : K) (v : V) (es : List (K × V)) :
    find k' (put k v es) = if k = k' then some v else find k' es := by
  induction es with
  | nil => simp [put, find]
  | cons e es ih =>
    by_cases h : e.1 = k
    · by_cases h' : k = k' <;> simp_all [put, find]
    · by_cases h' : e.1 = k'
      · have : k ≠ k' := by rintro rfl; exact h h'
        simp_all [put, find]
      · simp_all [put, find]

theorem find_filter (k k' : K) (es : List (K × V)) :
    find k' (es.filter (fun e => e.1 ≠ k)) = if k = k' then none else find k' es := by
  induction es with
  | nil => simp [find]
  | cons e es ih =>
    by_cases h : e.1 = k
    · by_cases h' : k = k' <;> simp_all [find]
    · by_cases h' : e.1 = k'
      · have : k ≠ k' := by rintro rfl; exact h h'
        simp_all [find]
      · simp_all [find]

@[simp] theorem get?_set (t : Table K V) (k k' : K) (v : V) :
    (t.set k v).get? k' = if k = k' then some v else t.get? k' :=
  find_put k k' v t.entries

@[simp] theorem get?_erase (t : Table K V) (k k' : K) :
    (t.erase k).get? k' = if k = k' then none else t.get? k' :=
  find_filter k k' t.entries

@[simp] theorem get?_empty (k : K) : (empty : Table K V).get? k = none := rfl

theorem put_put (k : K) (v w : V) (es : List (K × V)) : put k w (put k v es) = put k w es := by
  induction es with
  | nil => simp [put]
  | cons e es ih => by_cases h : e.1 = k <;> simp [put, h, ih]

theorem filter_put (k : K) (v : V) {es : List (K × V)} (h : find k es = none) :
    (put k v es).filter (fun e => e.1 ≠ k) = es := by
  induction es with
  | nil => simp [put]
  | cons e es ih =>
    by_cases h' : e.1 = k
    · simp [find, h'] at h
    · rw [find, if_neg h'] at h
      rw [put, if_neg h', List.filter_cons_of_pos (by simpa using h'), ih h]

theorem find_ne_none {e : K × V} {es : List (K × V)} (mem : e ∈ es) : find e.1 es ≠ none := by
  induction es with
  | nil => cases mem
  | cons e' es ih =>
    rw [find]
    split
    · nofun
    · cases mem with
      | head => contradiction
      | tail _ mem => exact ih mem

@[simp] theorem set_set (t : Table K V) (k : K) (v w : V) : (t.set k v).set k w = t.set k w :=
  congrArg Table.mk (put_put k v w t.entries)

theorem erase_set {t : Table K V} {k : K} (v : V) (h : t.get? k = none) :
    (t.set k v).erase k = t :=
  congrArg Table.mk (filter_put k v h)

theorem mem_values {t : Table K V} {k : K} {v : V} (found : t.get? k = some v) :
    v ∈ t.values := by
  obtain ⟨entries⟩ := t
  induction entries with
  | nil => cases found
  | cons entry entries ih =>
    rw [get?, find] at found
    split at found
    · cases found
      exact List.mem_cons_self
    · exact List.mem_cons_of_mem _ (ih found)

end Table

end EventBus
