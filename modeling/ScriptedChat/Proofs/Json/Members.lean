import ScriptedChat.Proofs.Outcome
import ScriptedChat.Json.Shape

/-!
What a record reads from an object. The order of the members does not matter: each field looks
at the values under its own name, of which there may be one, and what no field knows is passed
over as long as it has a name and the text does not break off in it. From an array the fields
take the items one after the other.
-/
namespace ScriptedChat

namespace Json

/-- The values of the members of one name, in their order. -/
def valuesOf (name : String) (members : List (String × Json)) : List Json :=
  (members.filter (·.1 = name)).map Prod.snd

section
variable {name key : String} {j : Json} {l m : List (String × Json)}

@[simp]
theorem valuesOf_nil : valuesOf name [] = [] := rfl

theorem valuesOf_cons_self : valuesOf name ((name, j) :: l) = j :: valuesOf name l := by
  simp [valuesOf]

theorem valuesOf_cons_of_ne (h : key ≠ name) : valuesOf name ((key, j) :: l) = valuesOf name l := by
  simp [valuesOf, h]

theorem mem_valuesOf : j ∈ valuesOf name l ↔ (name, j) ∈ l := by
  simp [valuesOf]

theorem valuesOf_eq_nil_iff : valuesOf name l = [] ↔ ∀ m ∈ l, m.1 ≠ name := by
  simp [valuesOf]

end

/-- Whether a record with fields of these names does not stop at a member. -/
structure Passes (names : List String) (m : String × Json) : Prop where
  named : m.2 ≠ .unnamed
  whole : m.1 ∉ names → m.2.isTorn = false

theorem passes_iff {names : List String} {m : String × Json} :
    Passes names m ↔ m.2 ≠ .unnamed ∧ (m.1 ∉ names → m.2.isTorn = false) :=
  ⟨fun h => ⟨h.named, h.whole⟩, fun h => ⟨h.1, h.2⟩⟩

end Json

namespace Decoder

/-- What a field reads from the values under its name. -/
inductive Given {α : Type} (value : Decoder α) (default : Option α) : List Json → α → Prop
  | absent {a : α} (h : default = some a) : Given value default [] a
  | once {j : Json} {a : α} (h : value j = .ok a) : Given value default [j] a

end Decoder

namespace Shape

open Json Decoder

variable {α β : Type} {s : Shape α} {t : Shape β}

/-- Whether these are the names of the fields of a shape. -/
def Knows (s : Shape α) (names : List String) : Prop :=
  ∀ key j slots, s.put key j slots = none ↔ key ∉ names

theorem knows_field {name : String} {value : Decoder α} {default : Option α} :
    (field name value default).Knows [name] := by
  intro key j slots
  simp [field]

theorem Knows.both {names names' : List String} (hs : s.Knows names) (ht : t.Knows names') :
    (s.both t).Knows (names ++ names') := by
  intro key j slots
  have hs' := hs key j slots.1
  have ht' := ht key j slots.2
  cases h : s.put key j slots.1 with
  | none => simp_all [Shape.both]
  | some r => simp_all [Shape.both]

theorem Knows.map {names : List String} {f : α → β} (h : s.Knows names) : (s.map f).Knows names := h

/-- Takes in a member as a field, whatever may come of the text behind it. -/
def take (s : Shape α) (slots : s.Slots) (m : String × Json) : Except DecodeFault s.Slots :=
  (s.put m.1 m.2 slots).getD (.ok slots)

/-- Whether the members of a list, taken in one after the other, lead from some slots to
others. -/
def Fills (s : Shape α) : s.Slots → List (String × Json) → s.Slots → Prop
  | slots, [], last => slots = last
  | slots, m :: rest, last => ∃ next, s.take slots m = .ok next ∧ s.Fills next rest last

/-- Whether the fields of a shape find a record among the members of an object. -/
def Gathers (s : Shape α) (members : List (String × Json)) (a : α) : Prop :=
  ∃ slots, s.Fills s.empty members slots ∧ s.finish slots = .ok a

theorem take_of_mem {names : List String} (h : s.Knows names) {m : String × Json}
    (hm : m.1 ∈ names) (slots : s.Slots) :
    ∃ r, s.put m.1 m.2 slots = some r ∧ s.take slots m = r := by
  cases hput : s.put m.1 m.2 slots with
  | none => exact absurd hm ((h _ _ _).1 hput)
  | some r => exact ⟨r, rfl, by rw [take, hput, Option.getD_some]⟩

theorem take_of_notMem {names : List String} (h : s.Knows names) {m : String × Json}
    (hm : m.1 ∉ names) (slots : s.Slots) : s.take slots m = .ok slots := by
  rw [take, (h _ _ _).2 hm, Option.getD_none]

theorem member_ok_iff {names : List String} (h : s.Knows names) {slots next : s.Slots}
    {m : String × Json} : s.member slots m = .ok next ↔
      Passes names m ∧ s.take slots m = .ok next := by
  unfold member
  split
  · rename_i hunnamed
    exact iff_of_false nofun fun hpasses => hpasses.1.named hunnamed
  · rename_i r hput hnamed
    have hm : m.1 ∈ names := by
      refine Decidable.by_contra fun hnot => ?_
      rw [(h _ _ _).2 hnot] at hput
      cases hput
    have hpasses : Passes names m := ⟨hnamed, absurd hm⟩
    rw [take, hput, Option.getD_some]
    exact (and_iff_right hpasses).symm
  · rename_i hput hnamed
    have hm : m.1 ∉ names := (h _ _ _).1 hput
    have hpasses : Passes names m ↔ m.2.isTorn = false :=
      ⟨fun hpasses => hpasses.whole hm, fun hwhole => ⟨hnamed, fun _ => hwhole⟩⟩
    rw [hpasses, take, hput, Option.getD_none, Decoder.anything]
    cases m.2.isTorn <;> simp [Except.map]

theorem foldlM_member_ok_iff {names : List String} (h : s.Knows names)
    {l : List (String × Json)} {slots last : s.Slots} :
    l.foldlM s.member slots = .ok last ↔
      (∀ m ∈ l, Passes names m) ∧ s.Fills slots l last := by
  induction l generalizing slots with
  | nil => simp [Fills]
  | cons m rest ih =>
    simp only [List.foldlM_cons, Outcome.bind_ok_iff, member_ok_iff h, ih, List.forall_mem_cons,
      Fills]
    constructor
    · intro hfold
      obtain ⟨next, ⟨hm, htake⟩, hrest, hlast⟩ := hfold
      exact ⟨⟨hm, hrest⟩, next, htake, hlast⟩
    · intro hfold
      obtain ⟨⟨hm, hrest⟩, next, htake, hlast⟩ := hfold
      exact ⟨next, ⟨hm, htake⟩, hrest, hlast⟩

/-- A record is read from an object whose members all pass and give its fields. -/
theorem decode_object_iff {names : List String} (h : s.Knows names) {l : List (String × Json)}
    {a : α} : s.decode (.object l) = .ok a ↔ (∀ m ∈ l, Passes names m) ∧ s.Gathers l a := by
  simp only [decode, Outcome.bind_ok_iff, foldlM_member_ok_iff h, Gathers, and_assoc,
    exists_and_left]

section Field
variable {name : String} {value : Decoder α} {default : Option α}

/-- A field passes over members of other names, and takes its own one when it met none. -/
theorem take_field_ok_iff {slot next : Option α} {m : String × Json} :
    (field name value default).take slot m = .ok next ↔
      (m.1 ≠ name ∧ slot = next) ∨
        m.1 = name ∧ slot = none ∧ ∃ a, value m.2 = .ok a ∧ some a = next := by
  by_cases h : m.1 = name
  · cases slot with
    | none => simp [take, field, h, Outcome.map_ok_iff]
    | some a => simp [take, field, h]
  · simp [take, field, h]

/-- A field that was met takes no other member. -/
theorem fills_field_some_iff {a : α} {last : Option α} {l : List (String × Json)} :
    (field name value default).Fills (some a) l last ↔
      valuesOf name l = [] ∧ some a = last := by
  induction l with
  | nil => exact (and_iff_right rfl).symm
  | cons m rest ih =>
    obtain ⟨key, j⟩ := m
    constructor
    · intro h
      obtain ⟨next, htake, hrest⟩ := h
      rcases take_field_ok_iff.1 htake with ⟨hne, rfl⟩ | ⟨_, hnone, _⟩
      · rw [valuesOf_cons_of_ne hne]
        exact ih.1 hrest
      · cases hnone
    · intro h
      obtain ⟨hvalues, hlast⟩ := h
      have hne : key ≠ name := (valuesOf_eq_nil_iff.1 hvalues) _ List.mem_cons_self
      rw [valuesOf_cons_of_ne hne] at hvalues
      exact ⟨some a, take_field_ok_iff.2 (.inl ⟨hne, rfl⟩), ih.2 ⟨hvalues, hlast⟩⟩

theorem fills_field_none_iff {last : Option α} {l : List (String × Json)} :
    (field name value default).Fills none l last ↔
      (valuesOf name l = [] ∧ none = last) ∨
        ∃ j a, valuesOf name l = [j] ∧ value j = .ok a ∧ some a = last := by
  induction l with
  | nil =>
    constructor
    · exact fun h => .inl ⟨rfl, h⟩
    · intro h
      rcases h with ⟨_, hlast⟩ | ⟨_, _, hvalues, _⟩
      · exact hlast
      · cases hvalues
  | cons m rest ih =>
    obtain ⟨key, j⟩ := m
    by_cases hkey : key = name
    · subst hkey
      rw [valuesOf_cons_self]
      constructor
      · intro h
        obtain ⟨next, htake, hrest⟩ := h
        rcases take_field_ok_iff.1 htake with ⟨hne, _⟩ | ⟨_, _, a, ha, rfl⟩
        · exact absurd rfl hne
        · obtain ⟨hvalues, hlast⟩ := fills_field_some_iff.1 hrest
          exact .inr ⟨j, a, by rw [hvalues], ha, hlast⟩
      · intro h
        rcases h with ⟨hnil, _⟩ | ⟨k, a, hvalues, ha, hlast⟩
        · cases hnil
        · obtain ⟨rfl, hrest⟩ := List.cons.inj hvalues
          exact ⟨some a, take_field_ok_iff.2 (.inr ⟨rfl, rfl, a, ha, rfl⟩),
            fills_field_some_iff.2 ⟨hrest, hlast⟩⟩
    · rw [valuesOf_cons_of_ne hkey, ← ih]
      constructor
      · intro h
        obtain ⟨next, htake, hrest⟩ := h
        rcases take_field_ok_iff.1 htake with ⟨_, rfl⟩ | ⟨heq, _⟩
        · exact hrest
        · exact absurd heq hkey
      · intro h
        exact ⟨none, take_field_ok_iff.2 (.inl ⟨hkey, rfl⟩), h⟩

theorem gathers_field_iff {l : List (String × Json)} {a : α} :
    (field name value default).Gathers l a ↔ Given value default (valuesOf name l) a := by
  constructor
  · intro h
    obtain ⟨slot, hfills, hfinish⟩ := h
    rcases fills_field_none_iff.1 hfills with ⟨hnone, rfl⟩ | ⟨j, b, hone, hj, rfl⟩
    · rw [hnone]
      cases default with
      | none => cases hfinish
      | some b =>
        cases hfinish
        exact .absent rfl
    · rw [hone]
      cases hfinish
      exact .once hj
  · intro h
    generalize hvalues : valuesOf name l = values at h
    cases h with
    | absent hdefault =>
      subst hdefault
      exact ⟨none, fills_field_none_iff.2 (.inl ⟨hvalues, rfl⟩), rfl⟩
    | once hj => exact ⟨some a, fills_field_none_iff.2 (.inr ⟨_, a, hvalues, hj, rfl⟩), rfl⟩

/-- A field without a default takes the next item. -/
theorem row_required_iff {items rest : List Json} {a : α} :
    (field name value).row items = .ok (a, rest) ↔ ∃ j, items = j :: rest ∧ value j = .ok a := by
  cases items with
  | nil => simp [field, missing, Except.map]
  | cons j items =>
    simp only [field, Outcome.map_ok_iff, Prod.mk.injEq, List.cons.injEq]
    constructor
    · intro h
      obtain ⟨b, hj, rfl, rfl⟩ := h
      exact ⟨j, ⟨rfl, rfl⟩, hj⟩
    · intro h
      obtain ⟨k, ⟨rfl, rfl⟩, hk⟩ := h
      exact ⟨a, hk, rfl, rfl⟩

/-- The last field takes what is left, which may be nothing when it has a default. -/
theorem row_last_iff {items : List Json} {a : α} :
    (field name value default).row items = .ok (a, []) ↔ Given value default items a := by
  constructor
  · intro h
    cases items with
    | nil =>
      cases default with
      | none => cases h
      | some b =>
        cases h
        exact .absent rfl
    | cons j rest =>
      obtain ⟨b, hj, hb⟩ := Outcome.map_ok_iff.1 h
      cases hb
      exact .once hj
  · intro h
    cases h with
    | absent hdefault =>
      subst hdefault
      rfl
    | once hj => exact Outcome.map_ok_iff.2 ⟨a, hj, rfl⟩

end Field

section Both
variable {names names' : List String} {l : List (String × Json)}

theorem take_both_ok_iff (hs : s.Knows names) (ht : t.Knows names')
    (hdisjoint : ∀ name ∈ names, name ∉ names') {x x' : s.Slots} {y y' : t.Slots}
    {m : String × Json} : (s.both t).take (x, y) m = .ok (x', y') ↔
      s.take x m = .ok x' ∧ t.take y m = .ok y' := by
  by_cases hm : m.1 ∈ names
  · obtain ⟨r, hput, htake⟩ := take_of_mem hs hm x
    rw [htake, take_of_notMem ht (hdisjoint _ hm)]
    cases r with
    | error e => simp [take, Shape.both, hput, Except.map]
    | ok z => simp [take, Shape.both, hput, Except.map]
  · have hput := (hs m.1 m.2 x).2 hm
    rw [take_of_notMem hs hm]
    cases hput' : t.put m.1 m.2 y with
    | none => simp [take, Shape.both, hput, hput']
    | some r =>
      cases r with
      | error e => simp [take, Shape.both, hput, hput', Except.map]
      | ok z => simp [take, Shape.both, hput, hput', Except.map]

theorem fills_both_iff (hs : s.Knows names) (ht : t.Knows names')
    (hdisjoint : ∀ name ∈ names, name ∉ names') {x x' : s.Slots} {y y' : t.Slots} :
    (s.both t).Fills (x, y) l (x', y') ↔ s.Fills x l x' ∧ t.Fills y l y' := by
  induction l generalizing x y with
  | nil => exact Prod.mk.injEq .. ▸ Iff.rfl
  | cons m rest ih =>
    constructor
    · intro h
      obtain ⟨⟨x₁, y₁⟩, hm, hrest⟩ := h
      obtain ⟨hx, hy⟩ := (take_both_ok_iff hs ht hdisjoint).1 hm
      obtain ⟨hx', hy'⟩ := ih.1 hrest
      exact ⟨⟨x₁, hx, hx'⟩, y₁, hy, hy'⟩
    · intro h
      obtain ⟨⟨x₁, hx, hx'⟩, y₁, hy, hy'⟩ := h
      exact ⟨(x₁, y₁), (take_both_ok_iff hs ht hdisjoint).2 ⟨hx, hy⟩, ih.2 ⟨hx', hy'⟩⟩

theorem finish_both_ok_iff {x : s.Slots} {y : t.Slots} {a : α} {b : β} :
    (s.both t).finish (x, y) = .ok (a, b) ↔ s.finish x = .ok a ∧ t.finish y = .ok b := by
  simp [Shape.both, Outcome.bind_ok_iff]

/-- Shapes without a common field do not get into each other's way. -/
theorem gathers_both_iff (hs : s.Knows names) (ht : t.Knows names')
    (hdisjoint : ∀ name ∈ names, name ∉ names') {a : α} {b : β} :
    (s.both t).Gathers l (a, b) ↔ s.Gathers l a ∧ t.Gathers l b := by
  constructor
  · intro h
    obtain ⟨⟨x, y⟩, hfills, hfinish⟩ := h
    obtain ⟨hx, hy⟩ := (fills_both_iff hs ht hdisjoint).1 hfills
    obtain ⟨ha, hb⟩ := finish_both_ok_iff.1 hfinish
    exact ⟨⟨x, hx, ha⟩, y, hy, hb⟩
  · intro h
    obtain ⟨⟨x, hx, ha⟩, y, hy, hb⟩ := h
    exact ⟨(x, y), (fills_both_iff hs ht hdisjoint).2 ⟨hx, hy⟩, finish_both_ok_iff.2 ⟨ha, hb⟩⟩

end Both

theorem fills_map_iff {f : α → β} {l : List (String × Json)} {slots last : s.Slots} :
    (s.map f).Fills slots l last ↔ s.Fills slots l last := by
  induction l generalizing slots with
  | nil => exact Iff.rfl
  | cons m rest ih => exact exists_congr fun next => and_congr_right fun _ => ih

theorem gathers_map_iff {f : α → β} {l : List (String × Json)} {b : β} :
    (s.map f).Gathers l b ↔ ∃ a, s.Gathers l a ∧ f a = b := by
  constructor
  · intro h
    obtain ⟨slots, hfills, hfinish⟩ := h
    obtain ⟨a, ha, rfl⟩ := Outcome.map_ok_iff.1 hfinish
    exact ⟨a, ⟨slots, fills_map_iff.1 hfills, ha⟩, rfl⟩
  · intro h
    obtain ⟨a, ⟨slots, hfills, ha⟩, rfl⟩ := h
    exact ⟨slots, fills_map_iff.2 hfills, Outcome.map_ok_iff.2 ⟨a, ha, rfl⟩⟩

theorem gathers_map_of_injective {f : α → β} (hf : ∀ a a', f a = f a' → a = a')
    {l : List (String × Json)} {a : α} : (s.map f).Gathers l (f a) ↔ s.Gathers l a := by
  rw [gathers_map_iff]
  constructor
  · intro h
    obtain ⟨a', ha', heq⟩ := h
    exact hf a' a heq ▸ ha'
  · intro h
    exact ⟨a, h, rfl⟩

theorem row_both_iff {items rest : List Json} {a : α} {b : β} :
    (s.both t).row items = .ok ((a, b), rest) ↔
      ∃ middle, s.row items = .ok (a, middle) ∧ t.row middle = .ok (b, rest) := by
  simp only [both, Outcome.bind_ok_iff, Outcome.pure_eq, Except.ok.injEq, Prod.mk.injEq,
    Prod.exists]
  constructor
  · intro h
    obtain ⟨a', middle, hs, b', rest', ht, ⟨rfl, rfl⟩, rfl⟩ := h
    exact ⟨middle, hs, ht⟩
  · intro h
    obtain ⟨middle, hs, ht⟩ := h
    exact ⟨a, middle, hs, b, rest, ht, ⟨rfl, rfl⟩, rfl⟩

theorem row_map_of_injective {f : α → β} (hf : ∀ a a', f a = f a' → a = a')
    {items rest : List Json} {a : α} :
    (s.map f).row items = .ok (f a, rest) ↔ s.row items = .ok (a, rest) := by
  simp only [map, Outcome.map_ok_iff, Prod.mk.injEq, Prod.exists]
  constructor
  · intro h
    obtain ⟨a', rest', ha', heq, rfl⟩ := h
    exact hf a' a heq ▸ ha'
  · intro h
    exact ⟨a, rest, h, rfl, rfl⟩

/-- A record is read from an array that its fields use up. -/
theorem decode_array_iff {items : List Json} {a : α} :
    s.decode (.array items) = .ok a ↔ s.row items = .ok (a, []) := by
  simp only [decode, Outcome.bind_ok_iff, Prod.exists]
  constructor
  · intro h
    obtain ⟨b, rest, hrow, hend⟩ := h
    cases rest with
    | nil =>
      cases hend
      exact hrow
    | cons j rest => cases hend
  · intro h
    exact ⟨a, [], h, rfl⟩

end Shape

end ScriptedChat
