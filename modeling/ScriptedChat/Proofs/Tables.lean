import ScriptedChat.Proofs.Outcome
import ScriptedChat.Table

/-!
A table is determined by its rows, and by the answers it gives. A row lies in a table exactly
when it is found under its own key. Tables that are made from a list without repeated keys
hold the rows of the list and no others; a table is what its own rows make.
-/
namespace ScriptedChat.Table

variable {ρ κ : Type} [Ord κ] {key : ρ → κ}

section Lookup
variable [Std.LawfulEqOrd κ]

private theorem find?_of_mem {l : List ρ} {r : ρ}
    (hl : l.Pairwise fun a b => compare (key a) (key b) = .lt) (hr : r ∈ l) :
    l.find? (fun x => compare (key x) (key r) == .eq) = some r := by
  induction l with
  | nil => cases hr
  | cons a rest ih =>
    rw [List.pairwise_cons] at hl
    rcases List.mem_cons.1 hr with rfl | hr
    · simp
    · have hne : compare (key a) (key r) ≠ .eq := by
        rw [hl.1 r hr]
        decide
      simpa [hne] using ih hl.2 hr

theorem get?_eq_some_iff {t : Table key} {k : κ} {r : ρ} :
    t.get? k = some r ↔ r ∈ t.rows ∧ key r = k := by
  constructor
  · intro h
    exact ⟨mem_of_get? h, key_of_get? h⟩
  · rintro ⟨hr, rfl⟩
    exact find?_of_mem t.ascending hr

theorem get?_key_of_mem {t : Table key} {r : ρ} (h : r ∈ t.rows) : t.get? (key r) = some r :=
  get?_eq_some_iff.2 ⟨h, rfl⟩

theorem get?_eq_none_iff {t : Table key} {k : κ} :
    t.get? k = none ↔ ∀ r ∈ t.rows, key r ≠ k := by
  constructor
  · rintro h r hr rfl
    rw [get?_key_of_mem hr] at h
    cases h
  · intro h
    cases hget : t.get? k with
    | none => rfl
    | some r => exact absurd (key_of_get? hget) (h r (mem_of_get? hget))

theorem contains_eq_false_iff {t : Table key} {k : κ} :
    t.contains k = false ↔ ∀ r ∈ t.rows, key r ≠ k := by
  rw [contains, Option.isSome_eq_false_iff, Option.isNone_iff_eq_none, get?_eq_none_iff]

theorem mem_keys_iff {t : Table key} {k : κ} : k ∈ t.keys ↔ (t.get? k).isSome := by
  rw [Option.isSome_iff_exists]
  simp only [keys, List.mem_map, get?_eq_some_iff]

omit [Std.LawfulEqOrd κ] in
@[simp]
theorem mem_filter {t : Table key} {p : ρ → Bool} {r : ρ} :
    r ∈ (t.filter p).rows ↔ r ∈ t.rows ∧ p r = true :=
  List.mem_filter

omit [Std.LawfulEqOrd κ] in
theorem filter_self (t : Table key) (p : ρ → Bool) : (t.filter p).filter p = t.filter p := by
  refine ext_rows ?_
  simp [filter, List.filter_filter]

theorem get?_filter (t : Table key) (p : ρ → Bool) (k : κ) :
    (t.filter p).get? k = (t.get? k).filter p := by
  refine Option.ext fun r => ?_
  simp only [Option.filter_eq_some_iff, get?_eq_some_iff, mem_filter]
  exact and_right_comm

theorem mem_erase {t : Table key} {k : κ} {r : ρ} :
    r ∈ (t.erase k).rows ↔ r ∈ t.rows ∧ key r ≠ k := by
  simp [erase]

@[simp]
theorem get?_erase_self (t : Table key) (k : κ) : (t.erase k).get? k = none := by
  rw [get?_eq_none_iff]
  intro r hr
  exact (mem_erase.1 hr).2

theorem get?_erase_of_ne (t : Table key) {k l : κ} (h : k ≠ l) :
    (t.erase k).get? l = t.get? l := by
  refine Option.ext fun r => ?_
  simp only [get?_eq_some_iff, mem_erase]
  constructor
  · rintro ⟨⟨hr, _⟩, hl⟩
    exact ⟨hr, hl⟩
  · rintro ⟨hr, hl⟩
    exact ⟨⟨hr, fun hk => h (hk.symm.trans hl)⟩, hl⟩

end Lookup

section Order
variable [Std.TransOrd κ]

theorem ne_of_compare_lt {a b : κ} (h : compare a b = .lt) : a ≠ b := by
  intro hab
  subst hab
  have hself : compare a a = .eq := Std.ReflOrd.compare_self
  rw [hself] at h
  cases h

/-- No two rows have the same key. -/
theorem keys_nodup (t : Table key) : t.keys.Nodup := by
  refine List.pairwise_map.2 (t.ascending.imp ?_)
  intro a b hab
  exact ne_of_compare_lt hab

omit [Std.TransOrd κ] in
theorem keys_ascending (t : Table key) : t.keys.Pairwise fun a b => compare a b = .lt :=
  List.pairwise_map.2 t.ascending

theorem rows_nodup (t : Table key) : t.rows.Nodup := by
  refine t.ascending.imp ?_
  intro a b hab heq
  exact ne_of_compare_lt hab (congrArg key heq)

/-- Two tables with the same rows are equal, whatever the order they were made in. -/
theorem ext_mem {s t : Table key} (h : ∀ r, r ∈ s.rows ↔ r ∈ t.rows) : s = t := by
  have hperm : s.rows.Perm t.rows :=
    (List.perm_ext_iff_of_nodup s.rows_nodup t.rows_nodup).2 h
  refine ext_rows (hperm.eq_of_pairwise ?_ s.ascending t.ascending)
  intro a b _ _ hab hba
  rw [Std.OrientedCmp.gt_of_lt hba] at hab
  cases hab

end Order

variable [Std.TransOrd κ] [Std.LawfulEqOrd κ]

theorem ext_get? {s t : Table key} (h : ∀ k, s.get? k = t.get? k) : s = t := by
  refine ext_mem fun r => ?_
  constructor
  · intro hr
    exact mem_of_get? ((h (key r)).symm.trans (get?_key_of_mem hr))
  · intro hr
    exact mem_of_get? ((h (key r)).trans (get?_key_of_mem hr))

/-- Of two rows under one key only the later one stays. -/
theorem insert_insert (t : Table key) {r x : ρ} (h : key r = key x) :
    (t.insert r).insert x = t.insert x := by
  refine ext_get? fun k => ?_
  rw [get?_insert, get?_insert, get?_insert, h]
  split <;> rfl

theorem mem_insert {t : Table key} {r x : ρ} :
    x ∈ (t.insert r).rows ↔ x = r ∨ x ∈ t.rows ∧ key x ≠ key r := by
  by_cases hk : key r = key x
  · have hget : (t.insert r).get? (key x) = some r := hk ▸ get?_insert_self t r
    constructor
    · intro hx
      rw [get?_key_of_mem hx] at hget
      exact Or.inl (Option.some.inj hget)
    · rintro (rfl | ⟨_, hne⟩)
      · exact mem_of_get? hget
      · exact absurd hk.symm hne
  · have hget : (t.insert r).get? (key x) = t.get? (key x) := get?_insert_of_ne t hk
    constructor
    · intro hx
      exact Or.inr ⟨mem_of_get? (hget.symm.trans (get?_key_of_mem hx)), Ne.symm hk⟩
    · rintro (rfl | ⟨hx, _⟩)
      · exact absurd rfl hk
      · exact mem_of_get? (hget.trans (get?_key_of_mem hx))

theorem contains_insert {t : Table key} {r : ρ} {k : κ} (h : t.contains k = true) :
    (t.insert r).contains k = true := by
  rw [contains, get?_insert]
  split
  · rfl
  · exact h

omit [Std.TransOrd κ] [Std.LawfulEqOrd κ] in
/-- A row with a larger key than all others comes last. -/
theorem insertRow_last [Std.OrientedOrd κ] {r : ρ} {l : List ρ}
    (h : ∀ x ∈ l, compare (key x) (key r) = .lt) : insertRow key r l = l ++ [r] := by
  induction l with
  | nil => rfl
  | cons a rest ih =>
    have ha : compare (key r) (key a) = .gt :=
      Std.OrientedCmp.gt_of_lt (h a List.mem_cons_self)
    rw [insertRow, ha]
    exact congrArg (List.cons a) (ih fun x hx => h x (List.mem_cons_of_mem _ hx))

theorem rows_insert_last {t : Table key} {r : ρ}
    (h : ∀ x ∈ t.rows, compare (key x) (key r) = .lt) : (t.insert r).rows = t.rows ++ [r] :=
  insertRow_last h

/-- Adding rows whose keys are new and all different adds just these rows. -/
theorem mem_foldl_insert {l : List ρ} {t : Table key} (hl : (l.map key).Nodup)
    (hfresh : ∀ r ∈ l, ∀ x ∈ t.rows, key x ≠ key r) {r : ρ} :
    r ∈ (l.foldl insert t).rows ↔ r ∈ t.rows ∨ r ∈ l := by
  induction l generalizing t with
  | nil => simp
  | cons a rest ih =>
    rw [List.map_cons, List.nodup_cons] at hl
    have hrest : ∀ x ∈ rest, ∀ y ∈ (t.insert a).rows, key y ≠ key x := by
      intro x hx y hy
      rcases mem_insert.1 hy with rfl | ⟨hy, _⟩
      · intro heq
        exact hl.1 (heq ▸ List.mem_map_of_mem hx)
      · exact hfresh x (List.mem_cons_of_mem _ hx) y hy
    have ha : ∀ x ∈ t.rows, key x ≠ key a := hfresh a List.mem_cons_self
    rw [List.foldl_cons, ih hl.2 hrest, mem_insert, List.mem_cons]
    constructor
    · rintro ((h | h) | h)
      · exact Or.inr (Or.inl h)
      · exact Or.inl h.1
      · exact Or.inr (Or.inr h)
    · rintro (h | h | h)
      · exact Or.inl (Or.inr ⟨h, ha r h⟩)
      · exact Or.inl (Or.inl h)
      · exact Or.inr h

theorem mem_ofList {l : List ρ} (hl : (l.map key).Nodup) {r : ρ} :
    r ∈ (ofList l : Table key).rows ↔ r ∈ l := by
  have h := mem_foldl_insert (t := empty) hl (fun _ _ x hx => absurd hx List.not_mem_nil) (r := r)
  have hempty : r ∉ (empty : Table key).rows := List.not_mem_nil
  rw [ofList, h]
  exact or_iff_right hempty

/-- Rows under keys of their own make the same table in every order. -/
theorem ofList_perm {l m : List ρ} (h : l.Perm m) (hl : (l.map key).Nodup) :
    (ofList m : Table key) = ofList l := by
  have hm := (h.map key).nodup_iff.1 hl
  refine ext_mem fun r => ?_
  rw [mem_ofList hm, mem_ofList hl, h.mem_iff]

theorem contains_ofList {l : List ρ} (hl : (l.map key).Nodup) {k : κ} :
    (ofList l : Table key).contains k = true ↔ ∃ r ∈ l, key r = k := by
  rw [contains, ← mem_keys_iff, keys, List.mem_map]
  simp only [mem_ofList hl]

/-- Rows of one table can be added in any order and more than once. -/
theorem mem_foldl_insert_of_subset {t u : Table key} {l : List ρ} (hu : ∀ r ∈ u.rows, r ∈ t.rows)
    (hl : ∀ r ∈ l, r ∈ t.rows) {r : ρ} : r ∈ (l.foldl insert u).rows ↔ r ∈ u.rows ∨ r ∈ l := by
  induction l generalizing u with
  | nil => simp
  | cons a rest ih =>
    have ha : a ∈ t.rows := hl a List.mem_cons_self
    have hinsert : ∀ x, x ∈ (u.insert a).rows ↔ x = a ∨ x ∈ u.rows := by
      intro x
      rw [mem_insert]
      constructor
      · intro h
        exact h.imp_right And.left
      · intro h
        by_cases hkey : key x = key a
        · refine Or.inl (h.elim id fun hx => ?_)
          have hget := get?_key_of_mem (hu x hx)
          rw [hkey, get?_key_of_mem ha] at hget
          exact (Option.some.inj hget).symm
        · exact h.imp_right fun hx => ⟨hx, hkey⟩
    have hsub : ∀ x ∈ (u.insert a).rows, x ∈ t.rows := by
      intro x hx
      rcases (hinsert x).1 hx with rfl | hx
      · exact ha
      · exact hu x hx
    rw [List.foldl_cons, ih hsub fun x hx => hl x (List.mem_cons_of_mem _ hx), hinsert,
      List.mem_cons]
    constructor
    · intro h
      rcases h with (h | h) | h
      · exact Or.inr (Or.inl h)
      · exact Or.inl h
      · exact Or.inr (Or.inr h)
    · intro h
      rcases h with h | h | h
      · exact Or.inl (Or.inr h)
      · exact Or.inl (Or.inl h)
      · exact Or.inr h

/-- A table is what a list of its own rows makes, whatever their order. -/
theorem ofList_eq_of_mem {t : Table key} {l : List ρ} (h : ∀ r, r ∈ l ↔ r ∈ t.rows) :
    ofList l = t := by
  refine ext_mem fun r => ?_
  have hempty : ∀ x ∈ (empty : Table key).rows, x ∈ t.rows :=
    fun x hx => absurd hx List.not_mem_nil
  rw [ofList, mem_foldl_insert_of_subset hempty fun x hx => (h x).1 hx, ← h r]
  exact or_iff_right List.not_mem_nil

/-- Taking a table apart and putting it together again gives the same table. -/
@[simp]
theorem ofList_rows (t : Table key) : ofList t.rows = t :=
  ofList_eq_of_mem fun _ => Iff.rfl

section Image
variable {ρ' : Type} {key' : ρ' → κ}

/-- Where two tables hold matching rows under every key, the rows of the one are those of the
other in the same order. -/
theorem rows_eq_map {t : Table key} {t' : Table key'} {f : ρ → ρ'}
    (hkey : ∀ r, key' (f r) = key r) (h : ∀ k, t'.get? k = (t.get? k).map f) :
    t'.rows = t.rows.map f := by
  have hascending : (t.rows.map f).Pairwise fun a b => compare (key' a) (key' b) = .lt := by
    rw [List.pairwise_map]
    simpa only [hkey] using t.ascending
  have hrows : t' = ⟨t.rows.map f, hascending⟩ := by
    refine ext_mem fun r => ?_
    constructor
    · intro hr
      have hget := h (key' r)
      rw [get?_key_of_mem hr] at hget
      obtain ⟨x, hx, hxr⟩ := Option.map_eq_some_iff.1 hget.symm
      exact List.mem_map.2 ⟨x, mem_of_get? hx, hxr⟩
    · intro hr
      obtain ⟨x, hx, rfl⟩ := List.mem_map.1 hr
      have hget := h (key x)
      rw [get?_key_of_mem hx] at hget
      exact mem_of_get? hget
  rw [hrows]

theorem get?_insert_map {t : Table key} {t' : Table key'} {f : ρ → ρ'}
    (hkey : ∀ r, key' (f r) = key r) (h : ∀ k, t'.get? k = (t.get? k).map f) (r : ρ) (k : κ) :
    (t'.insert (f r)).get? k = ((t.insert r).get? k).map f := by
  rw [get?_insert, get?_insert, hkey]
  split
  · rfl
  · exact h k

omit [Std.TransOrd κ] in
theorem get?_erase_map {t : Table key} {t' : Table key'} {f : ρ → ρ'}
    (h : ∀ k, t'.get? k = (t.get? k).map f) (k l : κ) :
    (t'.erase k).get? l = ((t.erase k).get? l).map f := by
  by_cases hkl : k = l
  · subst hkl
    rw [get?_erase_self, get?_erase_self]
    rfl
  · rw [get?_erase_of_ne _ hkl, get?_erase_of_ne _ hkl, h]

omit [Std.TransOrd κ] in
theorem get?_filter_map {t : Table key} {t' : Table key'} {f : ρ → ρ'}
    (h : ∀ k, t'.get? k = (t.get? k).map f) (p : ρ' → Bool) (k : κ) :
    (t'.filter p).get? k = ((t.filter fun r => p (f r)).get? k).map f := by
  rw [get?_filter, get?_filter, h]
  cases t.get? k with
  | none => rfl
  | some r =>
    rw [Option.map_some, Option.filter_some, Option.filter_some]
    split <;> rfl

end Image

/-- Adding rows one by one, where a row is refused for its own sake or for a key that is taken,
succeeds for acceptable rows whose keys are free and all different. -/
theorem foldlM_insert_ok_iff {ε : Type} {add : Table key → ρ → Except ε (Table key)}
    {P : ρ → Prop}
    (hadd : ∀ t r u, add t r = .ok u ↔ P r ∧ t.contains (key r) = false ∧ u = t.insert r)
    {l : List ρ} {t u : Table key} :
    l.foldlM add t = .ok u ↔
      (∀ r ∈ l, P r ∧ t.contains (key r) = false) ∧ (l.map key).Nodup ∧ u = l.foldl insert t := by
  induction l generalizing t with
  | nil =>
    rw [List.foldlM_nil, Outcome.pure_eq, Except.ok.injEq]
    constructor
    · rintro rfl
      exact ⟨fun _ hr => absurd hr List.not_mem_nil, List.nodup_nil, rfl⟩
    · rintro ⟨_, _, rfl⟩
      rfl
  | cons a rest ih =>
    have hfree : ∀ r, (t.insert a).contains (key r) = false ↔
        key a ≠ key r ∧ t.contains (key r) = false := by
      intro r
      by_cases hk : key a = key r
      · simp [contains, ← hk]
      · simp [contains, get?_insert_of_ne t hk, hk]
    rw [List.foldlM_cons, Outcome.bind_ok_iff]
    simp only [hadd, ih]
    constructor
    · rintro ⟨v, ⟨ha, hfresh, rfl⟩, hrest, hnodup, rfl⟩
      refine ⟨?_, ?_, rfl⟩
      · intro r hr
        rcases List.mem_cons.1 hr with rfl | hr
        · exact ⟨ha, hfresh⟩
        · exact ⟨(hrest r hr).1, ((hfree r).1 (hrest r hr).2).2⟩
      · rw [List.map_cons, List.nodup_cons]
        refine ⟨?_, hnodup⟩
        intro hin
        obtain ⟨r, hr, hkey⟩ := List.mem_map.1 hin
        exact ((hfree r).1 (hrest r hr).2).1 hkey.symm
    · rintro ⟨hall, hnodup, rfl⟩
      rw [List.map_cons, List.nodup_cons] at hnodup
      obtain ⟨ha, hfresh⟩ := hall a List.mem_cons_self
      refine ⟨t.insert a, ⟨ha, hfresh, rfl⟩, ?_, hnodup.2, rfl⟩
      intro r hr
      obtain ⟨hr', hfree'⟩ := hall r (List.mem_cons_of_mem _ hr)
      refine ⟨hr', (hfree r).2 ⟨?_, hfree'⟩⟩
      intro hkey
      exact hnodup.1 (hkey ▸ List.mem_map_of_mem hr)

end ScriptedChat.Table
