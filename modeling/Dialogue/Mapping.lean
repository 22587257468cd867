/-!
Mappings that keep the order of their keys. A new key goes to the end, a known key keeps its place
and takes the new value.
-/
namespace Dialogue

abbrev Mapping (α : Type) := List (String × α)

namespace Mapping

variable {α : Type}

def get? : Mapping α → String → Option α
  | [], _ => none
  | (k, v) :: rest, key => if k = key then some v else get? rest key

def has (m : Mapping α) (key : String) : Bool := (get? m key).isSome

def set : Mapping α → String → α → Mapping α
  | [], key, value => [(key, value)]
  | (k, v) :: rest, key, value =>
      if k = key then (k, value) :: rest else (k, v) :: set rest key value

def erase : Mapping α → String → Mapping α
  | [], _ => []
  | (k, v) :: rest, key => if k = key then erase rest key else (k, v) :: erase rest key

/-- The entries of `changes` set one after the other. -/
def update (m changes : Mapping α) : Mapping α :=
  changes.foldl (fun acc entry => set acc entry.1 entry.2) m

def keys (m : Mapping α) : List String := m.map Prod.fst

/-- The mapping written by a list of entries in which a later entry of a key wins. -/
def ofEntries (entries : List (String × α)) : Mapping α := update [] entries

@[simp] theorem get?_nil (key : String) : get? ([] : Mapping α) key = none := rfl

@[simp] theorem get?_set (m : Mapping α) (key other : String) (value : α) :
    get? (set m key value) other = if key = other then some value else get? m other := by
  induction m with
  | nil => simp [set, get?]
  | cons entry rest ih => simp only [set]; split <;> simp only [get?] <;> grind

@[simp] theorem get?_erase (m : Mapping α) (key other : String) :
    get? (erase m key) other = if key = other then none else get? m other := by
  induction m with
  | nil => simp [erase]
  | cons entry rest ih => simp only [erase]; split <;> simp only [get?] <;> grind

theorem get?_eq_none_iff {m : Mapping α} {key : String} : get? m key = none ↔ key ∉ keys m := by
  induction m with
  | nil => simp [keys]
  | cons entry rest ih =>
      obtain ⟨k, v⟩ := entry
      by_cases hk : k = key
      · simp [get?, keys, hk]
      · simp only [keys, List.map_cons, List.mem_cons, not_or] at ih ⊢
        simp [get?, hk, ih, Ne.symm hk]

theorem keys_set (m : Mapping α) (key : String) (value : α) :
    keys (set m key value) = if key ∈ keys m then keys m else keys m ++ [key] := by
  induction m with
  | nil => simp [set, keys]
  | cons entry rest ih =>
      obtain ⟨k, v⟩ := entry
      by_cases hk : k = key
      · simp [set, keys, hk]
      · simp only [keys] at ih
        by_cases hm : key ∈ rest.map Prod.fst
        · simp only [hm, ↓reduceIte] at ih
          simp [set, keys, hk, ih, hm]
        · simp only [hm, ↓reduceIte] at ih
          simp [set, keys, hk, ih, hm, Ne.symm hk]

theorem mem_keys_set {m : Mapping α} {key other : String} {value : α} :
    other ∈ keys (set m key value) ↔ key = other ∨ other ∈ keys m := by
  rw [keys_set]
  split
  · rename_i hkey
    exact ⟨.inr, fun h => h.elim (fun heq => heq ▸ hkey) id⟩
  · rw [List.mem_append, List.mem_singleton, or_comm, eq_comm]

theorem nodup_keys_set {m : Mapping α} (h : (keys m).Nodup) (key : String) (value : α) :
    (keys (set m key value)).Nodup := by
  rw [keys_set]
  split
  · exact h
  · rename_i hkey
    rw [List.nodup_append]
    exact ⟨h, by simp, fun k hk other hother => by
      rw [List.mem_singleton] at hother
      rintro rfl
      exact hkey (hother ▸ hk)⟩

theorem mem_set {m : Mapping α} {key : String} {value : α} {entry : String × α}
    (h : entry ∈ set m key value) : entry ∈ m ∨ entry = (key, value) := by
  induction m with
  | nil => exact .inr (by simpa [set] using h)
  | cons first rest ih =>
      obtain ⟨k, v⟩ := first
      simp only [set] at h
      split at h
      · rename_i hk
        subst hk
        rcases List.mem_cons.1 h with h | h
        · exact .inr h
        · exact .inl (List.mem_cons_of_mem _ h)
      · rcases List.mem_cons.1 h with h | h
        · exact .inl (by simp [h])
        · exact (ih h).imp_left (List.mem_cons_of_mem _)

theorem set_of_notMem {m : Mapping α} {key : String} (h : key ∉ keys m) (value : α) :
    set m key value = m ++ [(key, value)] := by
  induction m with
  | nil => rfl
  | cons first rest ih =>
      obtain ⟨k, v⟩ := first
      simp only [keys, List.map_cons, List.mem_cons, not_or] at h
      rw [set, if_neg (Ne.symm h.1), ih h.2, List.cons_append]

theorem erase_eq_filter (m : Mapping α) (key : String) :
    erase m key = m.filter (·.1 ≠ key) := by
  induction m with
  | nil => rfl
  | cons first rest ih =>
      obtain ⟨k, v⟩ := first
      by_cases hk : k = key
      · simp [erase, hk, ih]
      · simp [erase, hk, ih]

theorem get?_of_mem {m : Mapping α} (h : (keys m).Nodup) {key : String} {value : α}
    (hmem : (key, value) ∈ m) : get? m key = some value := by
  induction m with
  | nil => cases hmem
  | cons first rest ih =>
      obtain ⟨k, v⟩ := first
      obtain ⟨hk, hrest⟩ := List.nodup_cons.1 h
      rcases List.mem_cons.1 hmem with heq | hmem
      · cases heq
        simp [get?]
      · have hkey : key ∈ rest.map Prod.fst := List.mem_map_of_mem hmem
        have hne : k ≠ key := fun heq => hk (heq ▸ hkey)
        rw [get?, if_neg hne, ih hrest hmem]

theorem mem_of_get? {m : Mapping α} {key : String} {value : α} (h : get? m key = some value) :
    (key, value) ∈ m := by
  induction m with
  | nil => cases h
  | cons first rest ih =>
      obtain ⟨k, v⟩ := first
      simp only [get?] at h
      split at h
      · rename_i hk
        cases h
        rw [hk]
        exact List.mem_cons_self
      · exact List.mem_cons_of_mem _ (ih h)

/-- Keys that are all different are set one after the other. -/
theorem update_of_nodup {m changes : Mapping α} (h : (keys (m ++ changes)).Nodup) :
    update m changes = m ++ changes := by
  induction changes generalizing m with
  | nil => exact (List.append_nil m).symm
  | cons entry rest ih =>
      obtain ⟨key, value⟩ := entry
      have hmoved : m ++ (key, value) :: rest = (m ++ [(key, value)]) ++ rest := by simp
      have hkey : key ∉ keys m := fun hkey => by
        rw [keys, List.map_append, List.nodup_append] at h
        exact h.2.2 key hkey key (by simp) rfl
      rw [hmoved] at h ⊢
      rw [← ih h, ← set_of_notMem hkey]
      rfl

theorem ofEntries_of_nodup {entries : Mapping α} (h : (keys entries).Nodup) :
    ofEntries entries = entries := update_of_nodup h

theorem nodup_keys_update {m : Mapping α} (h : (keys m).Nodup) (changes : Mapping α) :
    (keys (update m changes)).Nodup := by
  induction changes generalizing m with
  | nil => exact h
  | cons first rest ih => exact ih (nodup_keys_set h first.1 first.2)

theorem mem_update {m changes : Mapping α} {entry : String × α} (h : entry ∈ update m changes) :
    entry ∈ m ∨ entry ∈ changes := by
  induction changes generalizing m with
  | nil => exact .inl h
  | cons first rest ih =>
      rcases ih h with h | h
      · exact (mem_set h).imp_right fun h => by simp [h]
      · exact .inr (List.mem_cons_of_mem _ h)

theorem mem_keys_update {m changes : Mapping α} {key : String} :
    key ∈ keys (update m changes) ↔ key ∈ keys m ∨ key ∈ keys changes := by
  induction changes generalizing m with
  | nil => simp [update, keys]
  | cons entry rest ih =>
      rw [update, List.foldl_cons, ← update, ih, mem_keys_set]
      simp only [keys, List.map_cons, List.mem_cons]
      grind

theorem get?_update_cases {m changes : Mapping α} {key : String} {value : α}
    (h : get? (update m changes) key = some value) :
    get? m key = some value ∨ (key, value) ∈ changes := by
  induction changes generalizing m with
  | nil => exact .inl h
  | cons entry rest ih =>
      rcases ih (m := set m entry.1 entry.2) h with hset | hrest
      · rw [get?_set] at hset
        split at hset
        · rename_i hkey
          cases hset
          exact .inr (hkey ▸ .head rest)
        · exact .inl hset
      · exact .inr (.tail entry hrest)

theorem nodup_keys_ofEntries (entries : Mapping α) : (keys (ofEntries entries)).Nodup :=
  nodup_keys_update (by simp [keys]) entries

theorem mem_of_mem_ofEntries {entries : Mapping α} {entry : String × α}
    (h : entry ∈ ofEntries entries) : entry ∈ entries :=
  (mem_update h).resolve_left (by simp)

end Mapping

end Dialogue
