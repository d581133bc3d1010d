/-!
Tables of rows under a unique key, kept in ascending key order. Inserting a row replaces the
row that has its key. A lookup finds the inserted row at its own key and the earlier rows at
every other one, and two tables that answer every lookup alike are equal.
-/
namespace ScriptedChat

/-- Rows in strictly ascending order of their keys. -/
structure Table {ρ κ : Type} [Ord κ] (key : ρ → κ) where
  rows : List ρ
  ascending : rows.Pairwise fun a b => compare (key a) (key b) = .lt

namespace Table

variable {ρ κ : Type} [Ord κ] {key : ρ → κ}

instance [DecidableEq ρ] : DecidableEq (Table key) := fun s t =>
  if h : s.rows = t.rows then
    .isTrue (by cases s; cases t; cases h; rfl)
  else
    .isFalse fun e => h (congrArg rows e)

def empty : Table key := ⟨[], .nil⟩

instance : Inhabited (Table key) := ⟨empty⟩

/-- The row under a key. -/
def get? (t : Table key) (k : κ) : Option ρ :=
  t.rows.find? fun r => compare (key r) k == .eq

def contains (t : Table key) (k : κ) : Bool := (t.get? k).isSome

def keys (t : Table key) : List κ := t.rows.map key

/-- The rows that satisfy a test. -/
def filter (t : Table key) (p : ρ → Bool) : Table key :=
  ⟨t.rows.filter p, t.ascending.filter p⟩

/-- The table without the row under a key. -/
def erase (t : Table key) (k : κ) : Table key :=
  t.filter fun r => compare (key r) k != .eq

/-- Places a row in front of the first row with a larger key and over one with its own key. -/
def insertRow (key : ρ → κ) (r : ρ) : List ρ → List ρ
  | [] => [r]
  | a :: rest =>
    match compare (key r) (key a) with
    | .lt => r :: a :: rest
    | .eq => r :: rest
    | .gt => a :: insertRow key r rest

theorem mem_of_mem_insertRow {r x : ρ} {l : List ρ} (h : x ∈ insertRow key r l) :
    x = r ∨ x ∈ l := by
  induction l with
  | nil => simpa [insertRow] using h
  | cons a rest ih =>
    rw [insertRow] at h
    split at h
    · simpa using h
    · simp only [List.mem_cons] at h ⊢
      exact h.imp_right .inr
    · simp only [List.mem_cons] at h ⊢
      rcases h with rfl | h
      · exact .inr (.inl rfl)
      · exact (ih h).imp_right .inr

theorem ext_rows {s t : Table key} (h : s.rows = t.rows) : s = t := by
  cases s; cases t; cases h; rfl

@[simp]
theorem get?_empty (k : κ) : (empty : Table key).get? k = none := rfl

variable [Std.TransOrd κ] [Std.LawfulEqOrd κ]

theorem insertRow_ascending {r : ρ} {l : List ρ}
    (h : l.Pairwise fun a b => compare (key a) (key b) = .lt) :
    (insertRow key r l).Pairwise fun a b => compare (key a) (key b) = .lt := by
  induction l with
  | nil => simp [insertRow]
  | cons a rest ih =>
    rw [List.pairwise_cons] at h
    rw [insertRow]
    split
    · rename_i hlt
      refine List.pairwise_cons.2 ⟨fun x hx => ?_, List.pairwise_cons.2 h⟩
      rcases List.mem_cons.1 hx with rfl | hx
      · exact hlt
      · exact Std.TransCmp.lt_trans hlt (h.1 x hx)
    · rename_i heq
      have hkey := Std.LawfulEqOrd.eq_of_compare heq
      exact List.pairwise_cons.2 ⟨fun x hx => hkey ▸ h.1 x hx, h.2⟩
    · rename_i hgt
      refine List.pairwise_cons.2 ⟨fun x hx => ?_, ih h.2⟩
      rcases mem_of_mem_insertRow hx with rfl | hx
      · exact Std.OrientedCmp.lt_of_gt hgt
      · exact h.1 x hx

/-- The table with a row added, in the place of one with the same key. -/
def insert (t : Table key) (r : ρ) : Table key :=
  ⟨insertRow key r t.rows, insertRow_ascending t.ascending⟩

/-- The table of a list of rows; of two rows with one key the later stays. -/
def ofList (l : List ρ) : Table key := l.foldl insert empty

theorem find?_insertRow (r : ρ) (l : List ρ) (k : κ)
    (h : l.Pairwise fun a b => compare (key a) (key b) = .lt) :
    (insertRow key r l).find? (fun x => compare (key x) k == .eq) =
      if compare (key r) k = .eq then some r
      else l.find? fun x => compare (key x) k == .eq := by
  induction l with
  | nil => by_cases hk : compare (key r) k = .eq <;> simp [insertRow, hk]
  | cons a rest ih =>
    rw [List.pairwise_cons] at h
    rw [insertRow]
    split
    · by_cases hk : compare (key r) k = .eq <;> simp [hk]
    · rename_i heq
      have hkey := Std.LawfulEqOrd.eq_of_compare heq
      by_cases hk : compare (key r) k = .eq
      · simp [hk]
      · have ha : compare (key a) k ≠ .eq := hkey ▸ hk
        simp [hk, ha]
    · rename_i hgt
      by_cases hk : compare (key r) k = .eq
      · have hkey := Std.LawfulEqOrd.eq_of_compare hk
        have ha : compare (key a) k ≠ .eq := by
          rw [← hkey, Std.OrientedCmp.lt_of_gt hgt]; decide
        simp [ha, hk, ih h.2]
      · by_cases ha : compare (key a) k = .eq
        · simp [ha, hk]
        · simp [ha, hk, ih h.2]

theorem get?_insert (t : Table key) (r : ρ) (k : κ) :
    (t.insert r).get? k = if compare (key r) k = .eq then some r else t.get? k :=
  find?_insertRow r t.rows k t.ascending

@[simp]
theorem get?_insert_self (t : Table key) (r : ρ) : (t.insert r).get? (key r) = some r := by
  simp [get?_insert]

theorem get?_insert_of_ne (t : Table key) {r : ρ} {k : κ} (h : key r ≠ k) :
    (t.insert r).get? k = t.get? k := by
  rw [get?_insert, if_neg fun e => h (Std.LawfulEqOrd.eq_of_compare e)]

omit [Std.TransOrd κ] in
theorem key_of_get? {t : Table key} {k : κ} {r : ρ} (h : t.get? k = some r) : key r = k := by
  have := List.find?_some h
  exact Std.LawfulEqOrd.eq_of_compare (by simpa using this)

omit [Std.TransOrd κ] [Std.LawfulEqOrd κ] in
theorem mem_of_get? {t : Table key} {k : κ} {r : ρ} (h : t.get? k = some r) : r ∈ t.rows :=
  List.mem_of_find?_eq_some h

end Table

end ScriptedChat
