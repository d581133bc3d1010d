import Mathlib.Data.List.Forall2
import ScriptedChat.Proofs.Json.Members

/-!
Documents that differ in the order of members only. A column of documents may hand them back
with the members of every object in an order of its own. What is read by the names of members
does not depend on that order, so a decoder that recovers a value from what was written
recovers it from every rearrangement too.
-/
namespace ScriptedChat

namespace Json

/-- The same document with the members of its objects in another order. -/
inductive Rearranged : Json → Json → Prop
  | same (j : Json) : Rearranged j j
  | array {l m : List Json} (h : List.Forall₂ Rearranged l m) : Rearranged (.array l) (.array m)
  | object {l m n : List (String × Json)} (hkeys : l.map Prod.fst = m.map Prod.fst)
      (h : List.Forall₂ Rearranged (l.map Prod.snd) (m.map Prod.snd)) (hperm : m.Perm n) :
      Rearranged (.object l) (.object n)

/-- Members in another order whose values are rearranged in turn. -/
def MembersRearranged (l n : List (String × Json)) : Prop :=
  ∃ m : List (String × Json), l.map Prod.fst = m.map Prod.fst ∧
    List.Forall₂ Rearranged (l.map Prod.snd) (m.map Prod.snd) ∧ m.Perm n

theorem forall₂_same (l : List Json) : List.Forall₂ Rearranged l l :=
  List.forall₂_same.2 fun j _ => .same j

theorem exists_of_forall₂ {l m : List Json} (h : List.Forall₂ Rearranged l m) {k : Json}
    (hk : k ∈ m) : ∃ j ∈ l, j.Rearranged k := by
  induction h with
  | nil => cases hk
  | cons hjk _ ih =>
    rcases List.mem_cons.1 hk with rfl | hk
    · exact ⟨_, List.mem_cons_self, hjk⟩
    · obtain ⟨j, hj, hjk⟩ := ih hk
      exact ⟨j, List.mem_cons_of_mem _ hj, hjk⟩

theorem MembersRearranged.refl (l : List (String × Json)) : MembersRearranged l l :=
  ⟨l, rfl, forall₂_same _, .refl l⟩

theorem Rearranged.of_array {l : List Json} {k : Json} (h : (Json.array l).Rearranged k) :
    ∃ m, k = .array m ∧ List.Forall₂ Rearranged l m := by
  cases h with
  | same => exact ⟨l, rfl, forall₂_same l⟩
  | array h => exact ⟨_, rfl, h⟩

theorem Rearranged.of_object {l : List (String × Json)} {k : Json}
    (h : (Json.object l).Rearranged k) : ∃ n, k = .object n ∧ MembersRearranged l n := by
  cases h with
  | same => exact ⟨l, rfl, .refl l⟩
  | object hkeys h hperm => exact ⟨_, rfl, _, hkeys, h, hperm⟩

theorem Rearranged.of_string {s : String} {k : Json} (h : (Json.string s).Rearranged k) :
    k = .string s := by
  cases h
  rfl

theorem Rearranged.of_integer {n : Int} {k : Json} (h : (Json.integer n).Rearranged k) :
    k = .integer n := by
  cases h
  rfl

theorem Rearranged.of_unnamed {j : Json} (h : j.Rearranged .unnamed) : j = .unnamed := by
  cases h
  rfl

section Members
variable {name : String} {j : Json} {l m n : List (String × Json)}

theorem valuesOf_forall₂ (hkeys : l.map Prod.fst = m.map Prod.fst)
    (h : List.Forall₂ Rearranged (l.map Prod.snd) (m.map Prod.snd)) :
    List.Forall₂ Rearranged (valuesOf name l) (valuesOf name m) := by
  induction l generalizing m with
  | nil =>
    cases m with
    | nil => exact .nil
    | cons _ _ => cases hkeys
  | cons x l ih =>
    cases m with
    | nil => cases hkeys
    | cons y m =>
      obtain ⟨key, j⟩ := x
      obtain ⟨key', k⟩ := y
      obtain ⟨rfl, hrestKeys⟩ := List.cons.inj hkeys
      obtain ⟨hjk, hrest⟩ := List.forall₂_cons.1 h
      by_cases hkey : key = name
      · subst hkey
        rw [valuesOf_cons_self, valuesOf_cons_self]
        exact .cons hjk (ih hrestKeys hrest)
      · rw [valuesOf_cons_of_ne hkey, valuesOf_cons_of_ne hkey]
        exact ih hrestKeys hrest

theorem valuesOf_perm (h : m.Perm n) : (valuesOf name m).Perm (valuesOf name n) :=
  (h.filter _).map _

/-- The values under a name stay, in some order. -/
theorem MembersRearranged.valuesOf (h : MembersRearranged l n) (name : String) :
    ∃ values, List.Forall₂ Rearranged (valuesOf name l) values ∧
      values.Perm (Json.valuesOf name n) := by
  obtain ⟨m, hkeys, hvalues, hperm⟩ := h
  exact ⟨_, valuesOf_forall₂ hkeys hvalues, valuesOf_perm hperm⟩

theorem MembersRearranged.valuesOf_nil (h : MembersRearranged l n)
    (hl : Json.valuesOf name l = []) : Json.valuesOf name n = [] := by
  obtain ⟨values, hvalues, hperm⟩ := h.valuesOf name
  rw [hl, List.forall₂_nil_left_iff] at hvalues
  rw [hvalues] at hperm
  exact hperm.nil_eq.symm

theorem MembersRearranged.valuesOf_singleton (h : MembersRearranged l n)
    (hl : Json.valuesOf name l = [j]) : ∃ k, Json.valuesOf name n = [k] ∧ j.Rearranged k := by
  obtain ⟨values, hvalues, hperm⟩ := h.valuesOf name
  rw [hl, List.forall₂_cons_left_iff] at hvalues
  obtain ⟨k, rest, hjk, hrest, rfl⟩ := hvalues
  rw [List.forall₂_nil_left_iff.1 hrest] at hperm
  exact ⟨k, (List.singleton_perm.1 hperm).symm, hjk⟩

/-- Every member comes from a member of the same name. -/
theorem MembersRearranged.exists_of_mem (h : MembersRearranged l n) {x : String × Json}
    (hx : x ∈ n) : ∃ j, (x.1, j) ∈ l ∧ j.Rearranged x.2 := by
  obtain ⟨values, hvalues, hperm⟩ := h.valuesOf x.1
  have hmem : x.2 ∈ values := hperm.mem_iff.2 (mem_valuesOf.2 hx)
  obtain ⟨j, hj, hjx⟩ := exists_of_forall₂ hvalues hmem
  exact ⟨j, mem_valuesOf.1 hj, hjx⟩

end Members

theorem allSound_iff {l : List Json} : allSound l = true ↔ ∀ j ∈ l, j.isSound = true := by
  induction l with
  | nil => simp [allSound]
  | cons j rest ih => simp [allSound, ih]

theorem allMembersSound_iff {l : List (String × Json)} :
    allMembersSound l = true ↔ ∀ m ∈ l, m.2.isSound = true := by
  induction l with
  | nil => simp [allMembersSound]
  | cons m rest ih =>
    obtain ⟨key, j⟩ := m
    simp [allMembersSound, ih]

/-- Marks do not come from another order. -/
theorem Rearranged.isSound {j k : Json} (h : j.Rearranged k) (hj : j.isSound = true) :
    k.isSound = true := by
  match j with
  | .array l =>
    obtain ⟨m, rfl, hm⟩ := h.of_array
    rw [Json.isSound, allSound_iff] at hj ⊢
    intro k hk
    obtain ⟨i, hi, hik⟩ := exists_of_forall₂ hm hk
    have hsize := List.sizeOf_lt_of_mem hi
    exact hik.isSound (hj i hi)
  | .object l =>
    obtain ⟨n, rfl, hn⟩ := h.of_object
    rw [Json.isSound, allMembersSound_iff] at hj ⊢
    intro x hx
    obtain ⟨i, hi, hix⟩ := hn.exists_of_mem hx
    have hmember : sizeOf i < sizeOf (x.1, i) := by
      rw [Prod.mk.sizeOf_spec]
      omega
    have hsize := Nat.lt_trans hmember (List.sizeOf_lt_of_mem hi)
    exact hix.isSound (hj _ hi)
  | .null | .bool _ | .integer _ | .decimal _ _ | .string _ =>
    cases h
    rfl
  | .spoiled | .unnamed | .torn => cases hj
termination_by sizeOf j

end Json

namespace Decoder

open Json

variable {α : Type}

/-- Whether a value is recovered from every rearrangement of a document. -/
def Recovers (d : Decoder α) (j : Json) (a : α) : Prop := ∀ k, j.Rearranged k → d k = .ok a

theorem recovers_string {d : Decoder α} {s : String} {a : α} (h : d (.string s) = .ok a) :
    d.Recovers (.string s) a := by
  intro k hk
  rw [hk.of_string, h]

theorem recovers_integer {d : Decoder α} {n : Int} {a : α} (h : d (.integer n) = .ok a) :
    d.Recovers (.integer n) a := by
  intro k hk
  rw [hk.of_integer, h]

theorem mapM_ok_of_forall₂ {d : Decoder α} {toJson : α → Json} {l : List α} {m : List Json}
    (h : ∀ a ∈ l, d.Recovers (toJson a) a)
    (hm : List.Forall₂ Rearranged (l.map toJson) m) : m.mapM d = .ok l := by
  induction l generalizing m with
  | nil =>
    rw [List.map_nil, List.forall₂_nil_left_iff] at hm
    subst hm
    rfl
  | cons a rest ih =>
    rw [List.map_cons, List.forall₂_cons_left_iff] at hm
    obtain ⟨j, m, hj, hm, rfl⟩ := hm
    have ha : d j = .ok a := h a List.mem_cons_self j hj
    have hrest : m.mapM d = .ok rest := ih (fun b hb => h b (List.mem_cons_of_mem _ hb)) hm
    rw [List.mapM_cons, ha, hrest]
    rfl

/-- Items stay where they are. -/
theorem recovers_list {d : Decoder α} {toJson : α → Json} {l : List α}
    (h : ∀ a ∈ l, d.Recovers (toJson a) a) : (list d).Recovers (Json.list toJson l) l := by
  intro k hk
  obtain ⟨m, rfl, hm⟩ := hk.of_array
  exact mapM_ok_of_forall₂ h hm

end Decoder

namespace Shape

open Json Decoder

variable {α : Type}

section Field
variable {name : String} {value : Decoder α} {default : Option α} {j : Json} {a : α}
  {l n : List (String × Json)}

/-- A member that was written once is found by its field. -/
theorem gathers_written (h : value.Recovers j a) (hl : valuesOf name l = [j])
    (hn : MembersRearranged l n) : (field name value default).Gathers n a := by
  obtain ⟨k, hk, hjk⟩ := hn.valuesOf_singleton hl
  rw [gathers_field_iff, hk]
  exact .once (h k hjk)

/-- A member that was left out has its default. -/
theorem gathers_left_out (hl : valuesOf name l = []) (hn : MembersRearranged l n) :
    (field name value (some a)).Gathers n a := by
  rw [gathers_field_iff, hn.valuesOf_nil hl]
  exact .absent rfl

end Field

variable {s : Shape α}

/-- A record is recovered when its fields know all members and find their values. -/
theorem recovers_object {names : List String} (hs : s.Knows names) {l : List (String × Json)}
    {a : α} (hknown : ∀ m ∈ l, m.1 ∈ names ∧ m.2 ≠ .unnamed)
    (h : ∀ n, MembersRearranged l n → s.Gathers n a) : s.decode.Recovers (.object l) a := by
  intro k hk
  obtain ⟨n, rfl, hn⟩ := hk.of_object
  refine (decode_object_iff hs).2 ⟨fun x hx => ?_, h n hn⟩
  obtain ⟨j, hj, hjx⟩ := hn.exists_of_mem hx
  obtain ⟨hname, hnamed⟩ := hknown _ hj
  refine ⟨fun hx => ?_, absurd hname⟩
  rw [hx] at hjx
  exact hnamed hjx.of_unnamed

end Shape

end ScriptedChat
