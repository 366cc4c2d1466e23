/-!
# Tables

A `Table` keeps values under texts as keys, in the order in which the keys came in.

* `get?`, `put`, `erase` : look-up, insertion (in place for a key that is there) and removal;
* `get?_put`, `get?_erase` : what a look-up finds afterwards;
* `nodup_keys_put`, `nodup_keys_erase`, `get?_of_mem` : no key stands twice, so that every entry is found.
-/

namespace AccountSecurity

/-- Values under keys, in order of insertion. -/
structure Table (α : Type) where
  entries : List (String × α)

namespace Table
variable {α : Type}

/-- The table without entries. -/
def empty : Table α := ⟨[]⟩

instance : Inhabited (Table α) := ⟨empty⟩

/-- The value under a key. -/
def get? (t : Table α) (key : String) : Option α := t.entries.lookup key

def contains (t : Table α) (key : String) : Bool := (t.get? key).isSome

def keys (t : Table α) : List String := t.entries.map Prod.fst

def values (t : Table α) : List α := t.entries.map Prod.snd

/-- Entries with one of them replaced, or added at the end. -/
def putEntry (key : String) (value : α) : List (String × α) → List (String × α)
  | [] => [(key, value)]
  | (k, v) :: rest => if k = key then (key, value) :: rest else (k, v) :: putEntry key value rest

/-- Puts a value under a key, in the place of the one that is there. -/
def put (t : Table α) (key : String) (value : α) : Table α := ⟨putEntry key value t.entries⟩

/-- Removes a key. -/
def erase (t : Table α) (key : String) : Table α := ⟨t.entries.filter fun e => e.1 != key⟩

/-! ## Look-up -/

@[simp] theorem get?_empty (key : String) : (empty : Table α).get? key = none := rfl

theorem lookup_cons (k key : String) (v : α) (rest : List (String × α)) :
    List.lookup key ((k, v) :: rest) = if k = key then some v else List.lookup key rest := by
  rw [List.lookup_cons]
  by_cases h : k = key
  · subst h; simp
  · have h' : (key == k) = false := by simpa using fun e => h e.symm
    simp [h, h']

theorem lookup_putEntry (k key : String) (v : α) (es : List (String × α)) :
    List.lookup k (putEntry key v es) = if key = k then some v else List.lookup k es := by
  induction es with
  | nil => simp [putEntry, lookup_cons]
  | cons e rest ih =>
    obtain ⟨k', v'⟩ := e
    by_cases hk : k' = key
    · subst hk
      by_cases hx : k' = k <;> simp [putEntry, lookup_cons, hx]
    · by_cases hx : k' = k
      · subst hx
        simp [putEntry, hk, Ne.symm hk]
      · simp [putEntry, lookup_cons, hk, hx, ih]

/-- After `put`, the key has the value and other keys have what they had. -/
theorem get?_put (t : Table α) (key k : String) (v : α) :
    (t.put key v).get? k = if key = k then some v else t.get? k :=
  lookup_putEntry k key v t.entries

theorem lookup_filter_ne (k key : String) (es : List (String × α)) :
    List.lookup k (es.filter fun e => e.1 != key) = if key = k then none else List.lookup k es := by
  induction es with
  | nil => simp
  | cons e rest ih =>
    obtain ⟨k', v'⟩ := e
    by_cases hk : k' = key
    · have hb : (k' != key) = false := by simpa using hk
      rw [List.filter_cons, if_neg (by simp [hb]), ih, lookup_cons]
      by_cases hx : key = k
      · simp [hx]
      · simp [hx, hk]
    · have hb : (k' != key) = true := by simpa using hk
      rw [List.filter_cons, if_pos hb, lookup_cons, lookup_cons, ih]
      by_cases hx : k' = k
      · subst hx
        simp [Ne.symm hk]
      · simp [hx]

/-- After `erase`, the key has no value and other keys have what they had. -/
theorem get?_erase (t : Table α) (key k : String) :
    (t.erase key).get? k = if key = k then none else t.get? k :=
  lookup_filter_ne k key t.entries

/-! ## Keys and values -/

theorem keys_put_subset (t : Table α) (key : String) (v : α) : ∀ k ∈ (t.put key v).keys, k = key ∨ k ∈ t.keys := by
  obtain ⟨entries⟩ := t
  unfold keys put
  induction entries with
  | nil => simp [putEntry]
  | cons p rest ih =>
    obtain ⟨k', x⟩ := p
    dsimp only at ih ⊢
    unfold putEntry
    split
    · next h => simp [h]
    · intro k hk
      rw [List.map_cons, List.mem_cons] at hk ⊢
      obtain rfl | hk := hk
      · exact .inr (.inl rfl)
      · exact (ih k hk).imp_right .inr

theorem nodup_keys_put {t : Table α} (h : t.keys.Nodup) (key : String) (v : α) : (t.put key v).keys.Nodup := by
  obtain ⟨entries⟩ := t
  induction entries with
  | nil => exact List.pairwise_singleton ..
  | cons p rest ih =>
    obtain ⟨k', x⟩ := p
    obtain ⟨hk, hrest⟩ := List.nodup_cons.1 h
    show ((putEntry key v ((k', x) :: rest)).map Prod.fst).Nodup
    unfold putEntry
    split
    · next he => exact List.nodup_cons.2 ⟨he ▸ hk, hrest⟩
    · next he =>
      refine List.nodup_cons.2 ⟨fun hmem => ?_, ih hrest⟩
      obtain heq | hmem := keys_put_subset ⟨rest⟩ key v k' hmem
      · exact he heq
      · exact hk hmem

theorem nodup_keys_erase {t : Table α} (h : t.keys.Nodup) (key : String) : (t.erase key).keys.Nodup :=
  (List.filter_sublist.map Prod.fst).nodup h

theorem mem_of_get? {t : Table α} {key : String} {v : α} (h : t.get? key = some v) : (key, v) ∈ t.entries := by
  obtain ⟨before, after, he, -⟩ := List.lookup_eq_some_iff.1 h
  rw [he]
  exact List.mem_append_right _ List.mem_cons_self

/-- Where no key stands twice, every value is found under its key. -/
theorem get?_of_mem {t : Table α} (h : t.keys.Nodup) {key : String} {v : α} (hv : (key, v) ∈ t.entries) :
    t.get? key = some v := by
  obtain ⟨entries⟩ := t
  induction entries with
  | nil => cases hv
  | cons p rest ih =>
    obtain ⟨k, x⟩ := p
    obtain ⟨hk, hrest⟩ := List.nodup_cons.1 h
    obtain he | hv := List.mem_cons.1 hv
    · cases he
      rw [get?, lookup_cons, if_pos rfl]
    · have hne : k ≠ key := by
        rintro rfl
        exact hk (List.mem_map.2 ⟨_, hv, rfl⟩)
      rw [get?, lookup_cons, if_neg hne]
      exact ih hrest hv

theorem exists_get?_of_mem_values {t : Table α} (h : t.keys.Nodup) {v : α} (hv : v ∈ t.values) :
    ∃ key, t.get? key = some v := by
  obtain ⟨⟨key, _⟩, hmem, rfl⟩ := List.mem_map.1 hv
  exact ⟨key, get?_of_mem h hmem⟩

theorem mem_values_of_get? {t : Table α} {key : String} {v : α} (h : t.get? key = some v) : v ∈ t.values :=
  List.mem_map.2 ⟨_, mem_of_get? h, rfl⟩

/-- A part of the values that tells their keys stands nowhere twice. -/
theorem nodup_map_values {β : Type} {t : Table α} (h : t.keys.Nodup) (f : α → β)
    (hf : ∀ k v k' v', t.get? k = some v → t.get? k' = some v' → f v = f v' → k = k') : (t.values.map f).Nodup := by
  have hkeys : t.entries.Pairwise fun e e' => e.1 ≠ e'.1 := List.pairwise_map.1 h
  unfold values
  rw [List.map_map]
  refine List.pairwise_map.2 (hkeys.imp_of_mem fun he he' hne hsame => hne ?_)
  exact hf _ _ _ _ (get?_of_mem h he) (get?_of_mem h he') hsame

end Table

end AccountSecurity
